import HostCall.Library.Text

/-!
# Members of every value, of booleans and of reals
-/

namespace HostCall

namespace Library

/-- Members that every host value answers to. -/
def objectMembers : List (Text × Member) := [
  ("toString", .method (.unary "JavaObject.toString" "self" fun self => do
    return .text (← HostM.read self.rendered))),
  ("hashCode", .method (.unary "JavaObject.hashCode" "self" fun self => do
    return .scalar (← HostM.read fun h => do HostM.narrow h .int (.integer (← self.hash h))))),
  ("equals", .method (.binary "JavaObject.equals" "self" "other" fun self other => do
    return .boolean (← HostM.read fun h => self.equal h other)))]

/-- Whether a text spells "true" in any case; null does not. -/
def parseBoolean (h : Heap) : Value → Except HostError Bool
  | .null => .ok false
  | v => do
    let (t, h) ← lower h v
    t.equal h (.text "true")

def renderedValue (name p : Text) : Callable :=
  .unary name p fun v => do return .text (← HostM.read v.rendered)

def booleanMembers : List (Text × Member) := [
  ("parseBoolean", .staticMethod (.unary "JavaBoolean.parseBoolean" "text" fun v => do
    return .boolean (← HostM.read fun h => parseBoolean h v))),
  ("valueOf", .staticMethod (.unary "JavaBoolean.valueOf" "value" fun v => do
    return .boolean (← HostM.read v.truth))),
  ("toString", .variants "toString" [
    ([], renderedValue "JavaBoolean.toString" "self"),
    (["Z"], renderedValue "JavaBoolean._to_string_static" "value")]),
  ("booleanValue", .method (.unary "JavaBoolean.booleanValue" "self" fun v => do
    return .boolean (← HostM.read v.truth)))]

/-- The real that a text writes, with control codes and spaces around it. -/
def parseReal (h : Heap) (v : Value) : Except HostError Scalar := do
  let (t, _) ← trimmed h (← present "parseDouble" v)
  return .double (← t.toReal)

def realMembers : List (Text × Member) := [
  ("parseDouble", .staticMethod (.unary "JavaDouble.parseDouble" "text" fun v => do
    return .scalar (← HostM.read fun h => parseReal h v))),
  ("isNaN", .staticMethod (.unary "JavaDouble.isNaN" "value" fun v => HostM.boolean do
    return (← v.toReal).isNaN)),
  ("doubleValue", .method (.unary "JavaDouble.doubleValue" "self" fun v =>
    HostM.read fun h => v.toScalars h .double))]

end Library

end HostCall
