import HostCall.Library.Basic
import HostCall.Text.CaseMap
import HostCall.Text.Units

/-!
# Members of texts

The receiver is not checked against the type of texts: a member works on any value that has what
the member asks of it, and fails as the host does on any other.  What a member asks of its receiver
is a length, an item, a part, a sum, whether it contains something, or a method of the texts of the
host: `find`, `startswith`, `endswith`, `upper`, `lower` or `strip`.
-/

namespace HostCall

namespace Library

open Value (toInteger)

/-- Control codes and the space. -/
def isControlOrSpace (c : CodePoint) : Bool := c.val ≤ 0x20

/-- The least index at which the needle stands, or minus one. -/
def indexOf (needle text : Text) : Int :=
  match Text.find? needle text with
  | some i => i
  | none => -1

/-- The value searched for a text. -/
def findText (self needle : Value) : Except HostError Value :=
  match self with
  | .text t => match needle with
    | .text n => do return .scalar (← Value.integerToScalar .int (indexOf n t))
    | v => .error (.needsText v.errorName)
  | .bytes bs | .byteArray bs =>
    let found (cs : List UInt8) : Except HostError Value := do
      return .scalar (← Value.integerToScalar .int (indexOf (bytesAsText cs) (bytesAsText bs)))
    match needle.buffer?, needle.index? with
    | some cs, _ => found cs
    | none, some n => if 0 ≤ n ∧ n < 256 then found [UInt8.ofNat n.toNat] else .error .byteRange
    | none, none => .error (.needsBytesOrInteger needle.errorName)
  | v => .error (.noAttribute v.errorName "find")

/-- Searches for one code point. -/
def findCode (self code : Value) : Except HostError Value :=
  match self with
  | .text _ | .bytes _ | .byteArray _ => do
    findText self (.text (← Value.character (← code.toInteger)))
  | v => .error (.noAttribute v.errorName "find")

/-- The code of the item at an index that must lie within the length. -/
def codeAt (h : Heap) (self index : Value) : Except HostError Scalar := do
  let i ← index.toInteger
  let n ← self.length h
  if 0 ≤ i ∧ i < n then
    Value.integerToScalar .char (← Value.toCodePoint (← self.item h i.toNat))
  else throw (.citing [i] (.indexOutside i n))

/-- The part between two bounds that must lie within the length and in order. -/
def sliceBetween (h : Heap) (self : Value) (first last : Int) :
    Except HostError (Value × Heap) := do
  let n ← self.length h
  if first < 0 ∨ last > n ∨ first > last then
    throw (.citing [first, last] (.rangeOutside first last n))
  self.slice h first.toNat last.toNat

/-- Whether one of the parts passes the test; a part that cannot be read, met before, decides. -/
def anyPart (read : Value → Except HostError Text) (test : Text → Bool) :
    List Value → Except HostError Bool
  | [] => .ok false
  | v :: rest => do if test (← read v) then return true else anyPart read test rest

/-- A text among the ends that a tuple gives. -/
def textEnd (member : Text) : Value → Except HostError Text
  | .text t => .ok t
  | v => .error (.needsTextInTuple member v.errorName)

/-- Bytes among the ends that a tuple gives. -/
def bytesEnd (v : Value) : Except HostError Text :=
  match v.buffer? with
  | some bs => .ok (bytesAsText bs)
  | none => .error (.needsBytes v.errorName)

/-- Whether a value begins or ends with a text or with one of several, by the test given. -/
def hasEnd (member : Text) (test : Text → Text → Bool) (h : Heap) (self other : Value) :
    Except HostError Bool :=
  match self, other with
  | .text t, .text s => .ok (test s t)
  | .text t, .tuple a => anyPart (textEnd member) (test · t) (h.items a)
  | .text _, v => .error (.needsTextEnds member v.errorName)
  | .bytes bs, v | .byteArray bs, v => match v with
    | .tuple a => anyPart bytesEnd (test · (bytesAsText bs)) (h.items a)
    | v => match v.buffer? with
      | some cs => .ok (test (bytesAsText cs) (bytesAsText bs))
      | none => .error (.needsBytesEnds member v.errorName)
  | v, _ => .error (.noAttribute v.errorName member)

def asciiBytes (f : CodePoint → CodePoint) (bs : List UInt8) : List UInt8 :=
  (bytesAsText bs).map fun c => UInt8.ofNat (f c).val

def upperOf : Value → Except HostError Value
  | .text t => .ok (.text t.upper)
  | .bytes bs => .ok (.bytes (asciiBytes CodePoint.asciiUpper bs))
  | .byteArray bs => .ok (.byteArray (asciiBytes CodePoint.asciiUpper bs))
  | v => .error (.noAttribute v.errorName "upper")

def lowerOf : Value → Except HostError Value
  | .text t => .ok (.text t.lower)
  | .bytes bs => .ok (.bytes (asciiBytes CodePoint.asciiLower bs))
  | .byteArray bs => .ok (.byteArray (asciiBytes CodePoint.asciiLower bs))
  | v => .error (.noAttribute v.errorName "lower")

/-- A text without control codes and spaces around it. -/
def trimOf : Value → Except HostError Text
  | .text t => .ok (Text.strip isControlOrSpace t)
  | .bytes _ | .byteArray _ => .error (.needsBytes "str")
  | v => .error (.noAttribute v.errorName "strip")

/-- What a method of the host makes of its receiver: an instance of a class that has the method
answers by it, and the built-in types as given. -/
def hostMethod (h : Heap) (self : Value) (name : Text) (args : List Value)
    (builtin : Except HostError Value) : Except HostError (Value × Heap) :=
  match (h.answersOf self).methods name with
  | some f => h.take (f args)
  | none => builtin.map fun v => (v, h)

/-- The place that is found for a needle, as an `int`. -/
def placeFound (h : Heap) (self : Value) (needle : Except HostError Value)
    (builtin : Except HostError Value) : Except HostError (Value × Heap) :=
  match (h.answersOf self).methods "find" with
  | some f => do
    let (found, h) ← h.take (f [← needle])
    return (← found.toScalars h .int, h)
  | none => builtin.map fun v => (v, h)

def startOf (h : Heap) (self other : Value) : Except HostError (Value × Heap) :=
  hostMethod h self "startswith" [other]
    ((hasEnd "startswith" Text.startsWith h self other).map .boolean)

def endOf (h : Heap) (self other : Value) : Except HostError (Value × Heap) :=
  hostMethod h self "endswith" [other]
    ((hasEnd "endswith" Text.endsWith h self other).map .boolean)

def upper (h : Heap) (self : Value) : Except HostError (Value × Heap) :=
  hostMethod h self "upper" [] (upperOf self)

def lower (h : Heap) (self : Value) : Except HostError (Value × Heap) :=
  hostMethod h self "lower" [] (lowerOf self)

/-- The control codes and the space, in order. -/
def blanks : Text := (List.range 0x21).filterMap CodePoint.ofNat?

def trimmed (h : Heap) (self : Value) : Except HostError (Value × Heap) :=
  hostMethod h self "strip" [.text blanks] ((trimOf self).map .text)

/-- An argument that must not be null. -/
def present (member : Text) : Value → Except HostError Value
  | .null => .error (.nullArgument member)
  | v => .ok v

/-- The 32-bit hash of the units of a text. -/
def textHash (t : Text) : Int32 := Int32.ofNat t.unitHash

def renderedText (name : Text) : Callable :=
  .unary name "value" fun v => do return .text (← HostM.read v.rendered)

/-- The variants that make a text of one value. -/
def valueOfVariants : List (List Text × Callable) := [
  (["Ljava/lang/Object;"], renderedText "JavaString.valueOf"),
  (["I"], renderedText "JavaString._value_of_int"),
  (["J"], renderedText "JavaString._value_of_long"),
  (["Z"], renderedText "JavaString._value_of_boolean"),
  (["C"], .unary "JavaString._value_of_char" "value" fun v => HostM.text do
    Value.character (← v.toInteger)),
  (["F"], renderedText "JavaString._value_of_float"),
  (["D"], renderedText "JavaString._value_of_double")]

def textMembers : List (Text × Member) := [
  ("length", .method (.unary "JavaString.length" "self" fun self => do
    return .scalar (← HostM.read fun h => do Value.integerToScalar .int (← self.length h)))),
  ("isEmpty", .method (.unary "JavaString.isEmpty" "self" fun self => do
    return .boolean ((← HostM.read fun h => self.length h) == 0))),
  ("charAt", .method (.binary "JavaString.charAt" "self" "index" fun self i => do
    return .scalar (← HostM.read fun h => codeAt h self i))),
  ("substring", .variants "substring" [
    (["I"], .binary "JavaString.substring" "self" "begin" fun self b =>
      HostM.update fun h => do
        let first ← b.toInteger
        sliceBetween h self first (← self.length h)),
    (["I", "I"], .ternary "JavaString._substring_range" "self" "begin" "end" fun self b e =>
      HostM.update fun h => do
        let first ← b.toInteger
        let last ← e.toInteger
        sliceBetween h self first last)]),
  ("indexOf", .variants "indexOf" [
    (["I"], .binary "JavaString.indexOf" "self" "char" fun self c => HostM.update fun h =>
      placeFound h self (do return .text (← Value.character (← c.toInteger))) (findCode self c)),
    (["Ljava/lang/String;"], .binary "JavaString._index_of_string" "self" "needle" fun self n =>
      HostM.update fun h => do
        let n ← present "indexOf" n
        placeFound h self (.ok n) (findText self n))]),
  ("equals", .method (.binary "JavaString.equals" "self" "other" fun self other => do
    match other with
    | .text _ => return .boolean (← HostM.read fun h => self.equal h other)
    | _ => return .boolean false)),
  ("concat", .method (.binary "JavaString.concat" "self" "other" fun self other =>
    HostM.update fun h => do self.add h (← present "concat" other))),
  ("contains", .method (.binary "JavaString.contains" "self" "other" fun self other => do
    return .boolean (← HostM.read fun h => do
      self.containsValue h (← present "contains" other)))),
  ("startsWith", .method (.binary "JavaString.startsWith" "self" "prefix" fun self other =>
    HostM.update fun h => do startOf h self (← present "startsWith" other))),
  ("endsWith", .method (.binary "JavaString.endsWith" "self" "suffix" fun self other =>
    HostM.update fun h => do endOf h self (← present "endsWith" other))),
  ("toUpperCase", .method (.unary "JavaString.toUpperCase" "self" fun self =>
    HostM.update fun h => upper h self)),
  ("toLowerCase", .method (.unary "JavaString.toLowerCase" "self" fun self =>
    HostM.update fun h => lower h self)),
  ("trim", .method (.unary "JavaString.trim" "self" fun self =>
    HostM.update fun h => trimmed h self)),
  ("toString", .method (.unary "JavaString.toString" "self" fun self => return self)),
  ("hashCode", .method (.unary "JavaString.hashCode" "self" fun self => match self with
    | .text t => return .scalar (.int (textHash t))
    | v => throw (.noAttribute v.errorName "encode"))),
  ("valueOf", .variants "valueOf" valueOfVariants)]

end Library

end HostCall
