import HostCall.HostType

/-!
# Attributes

What the names in modules, in classes and in other objects are bound to, as far as the path of a
class can lead through them.  Private names are left out, since no path may hold one.
-/

namespace HostCall

/-- The objects without names of their own that a path tells apart. -/
inductive ObjectKind where
  /-- A function, or anything else without public names. -/
  | plain
  | integer | text | tuple
  | overloads | registry | property
  /-- A mark that a module is read by later rules of the language. -/
  | feature
  deriving DecidableEq

/-- What a name is bound to. -/
inductive Attribute where
  | type (t : HostType)
  | module
  | object (kind : ObjectKind)
  /-- A value of a type, which has the names of its type. -/
  | value (t : HostType)
  deriving DecidableEq

/-- The words of a text. -/
def words (s : String) : List Text := Text.splitOn ' ' s

namespace HostType

/-- The public names that the values of a built-in type have. -/
def publicNames : HostType → List Text
  | .integer | .boolean => words <|
    "as_integer_ratio bit_count bit_length conjugate denominator from_bytes imag numerator real " ++
    "to_bytes"
  | .real => words "as_integer_ratio conjugate fromhex hex imag is_integer real"
  | .text => words <|
    "capitalize casefold center count encode endswith expandtabs find format format_map index " ++
    "isalnum isalpha isascii isdecimal isdigit isidentifier islower isnumeric isprintable " ++
    "isspace istitle isupper join ljust lower lstrip maketrans partition removeprefix " ++
    "removesuffix replace rfind rindex rjust rpartition rsplit rstrip split splitlines " ++
    "startswith strip swapcase title translate upper zfill"
  | .bytes => words byteNames
  | .byteArray => words (byteNames ++ " append clear copy extend insert pop remove reverse")
  | .list => words "append clear copy count extend index insert pop remove reverse sort"
  | .tuple => words "count index"
  | .mapping => words <|
    "clear copy fromkeys get items keys pop popitem setdefault update values"
  | .number => words "register"
  | t => if t = .declared orderedMapping then words "move_to_end" else []
where
  /-- The names that bytes have, mutable or not. -/
  byteNames : String :=
    "capitalize center count decode endswith expandtabs find fromhex hex index isalnum isalpha " ++
    "isascii isdigit islower isspace istitle isupper join ljust lower lstrip maketrans " ++
    "partition removeprefix removesuffix replace rfind rindex rjust rpartition rsplit rstrip " ++
    "split splitlines startswith strip swapcase title translate upper zfill"

end HostType

namespace ObjectKind

/-- The parts of an object that have public names themselves. -/
def parts : ObjectKind → List (Text × ObjectKind)
  | .integer => [("real", .integer), ("imag", .integer), ("numerator", .integer),
      ("denominator", .integer)]
  | .overloads => [("name", .text), ("variants", .tuple)]
  | .feature => [("compiler_flag", .integer), ("mandatory", .tuple), ("optional", .tuple)]
  | _ => []

/-- The public names of an object. -/
def publicNames : ObjectKind → List Text
  | .plain => []
  | .integer => HostType.integer.publicNames
  | .text => HostType.text.publicNames
  | .tuple => HostType.tuple.publicNames
  | .overloads => words "add candidates name variant variants"
  | .registry => words "for_type lookup names register"
  | .property => words "deleter fdel fget fset getter setter"
  | .feature => words "compiler_flag getMandatoryRelease getOptionalRelease mandatory optional"

/-- The object that a name leads to from another one. -/
def follow? (k : ObjectKind) (name : Text) : Option ObjectKind :=
  if k.publicNames.contains name then some ((k.parts.lookup name).getD .plain) else none

end ObjectKind

end HostCall
