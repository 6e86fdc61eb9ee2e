import HostCall.Library.Basic
import HostCall.Text.CaseMap
import HostCall.Text.Letter

/-!
# Members of characters

Predicates and case mappings over the code of a character.
-/

namespace HostCall

namespace Library

/-- Whether the character of a code is in a class. -/
def codeTest (name : Text) (test : CodePoint → Bool) : Member :=
  .staticMethod (.unary name "code" fun code => HostM.boolean do
    return (← Value.character (← code.toInteger)).all test)

/-- The code of the case form of a character, or the code given if the form is no single
character. -/
def codeMap (name : Text) (form : CodePoint → Text) : Member :=
  .staticMethod (.unary name "code" fun code => do
    match (← HostM.ofExcept do Value.character (← code.toInteger)).flatMap form with
    | [c] => HostM.scalar (Value.integerToScalar .char c.val)
    | _ => HostM.read fun h => code.toScalars h .char)

def characterMembers : List (Text × Member) := [
  ("isDigit", codeTest "JavaCharacter.isDigit" CodePoint.isDigit),
  ("isLetter", codeTest "JavaCharacter.isLetter" CodePoint.isLetter),
  ("isLetterOrDigit", codeTest "JavaCharacter.isLetterOrDigit" fun c =>
    c.isLetter || c.isNumeric),
  ("isWhitespace", codeTest "JavaCharacter.isWhitespace" CodePoint.isBlank),
  ("toUpperCase", codeMap "JavaCharacter.toUpperCase" CodePoint.upper),
  ("toLowerCase", codeMap "JavaCharacter.toLowerCase" fun c => Text.lower [c])]

end Library

end HostCall
