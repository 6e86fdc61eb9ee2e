import HostCall.Descriptor
import HostCall.Number.Binary

/-!
# Method signatures

A method reference `Lcls;->name(params)ret` and its parts.  `Signature.parse` reads one, and
`Signature.text` writes it; `Signature.checked` refuses fields that are missing, empty, or hold
surrogates.
-/

namespace HostCall

/-- Why a field of a model is refused. -/
inductive FieldFault where
  | missing
  | notText
  | notTruth
  /-- A number or word that stands for no truth. -/
  | unreadTruth
  | tooShort
  | surrogates
  | frozen
  deriving DecidableEq

/-- A field of a model with the reason it is refused. -/
structure FieldError where
  field : Text
  fault : FieldFault
  deriving DecidableEq

/-- A field as it is given to a model. -/
inductive FieldInput where
  | absent
  | other
  | text (t : Text)
  | boolean (b : Bool)
  | integer (n : Int)
  | real (x : Double)

namespace FieldInput

/-- The text of a field that must not be empty nor hold a surrogate. -/
def check (field : Text) : FieldInput → Except FieldError Text
  | .absent => .error ⟨field, .missing⟩
  | .text t =>
    if t.any CodePoint.isSurrogate then .error ⟨field, .surrogates⟩
    else if t = [] then .error ⟨field, .tooShort⟩
    else .ok t
  | _ => .error ⟨field, .notText⟩

/-- The words for a truth, in lower case. -/
def truthWords : List (Text × Bool) := [
  ("0", false), ("off", false), ("f", false), ("false", false), ("n", false), ("no", false),
  ("1", true), ("on", true), ("t", true), ("true", true), ("y", true), ("yes", true)]

/-- Zero and one stand for a truth. -/
def truthOfInteger (field : Text) (n : Int) : Except FieldError Bool :=
  if n = 0 then .ok false else if n = 1 then .ok true else .error ⟨field, .unreadTruth⟩

/-- The truth in a field, which is false where it is left out.  Integers of 64 bits and words are
read, and so are reals without a fraction between such integers. -/
def checkTruth (field : Text) : FieldInput → Except FieldError Bool
  | .absent => .ok false
  | .boolean b => .ok b
  | .text t =>
    if t.any CodePoint.isSurrogate then .error ⟨field, .surrogates⟩
    else match truthWords.lookup (t.map CodePoint.asciiLower) with
      | some b => .ok b
      | none => .error ⟨field, .unreadTruth⟩
  | .integer n =>
    if -2 ^ 63 ≤ n ∧ n < 2 ^ 63 then truthOfInteger field n else .error ⟨field, .notTruth⟩
  | .real x =>
    match x.value.truncate? with
    | some n =>
      if x.value.eq (.ofInt n) && -2 ^ 63 < n && n < 2 ^ 63 then truthOfInteger field n
      else .error ⟨field, .notTruth⟩
    | none => .error ⟨field, .notTruth⟩
  | .other => .error ⟨field, .notTruth⟩

/-- The fault of a field, if it has one. -/
def fault? {α : Type} : Except FieldError α → Option FieldError
  | .error e => some e
  | .ok _ => none

end FieldInput

/-- Why a signature cannot be read. -/
inductive SignatureFailure where
  | malformed (cause : SignatureError)
  | refused (errors : List FieldError)
  deriving DecidableEq

/-- The value type written by a whole text.  Its fields take any text, surrogates too. -/
def ValueType.parse (t : Text) : Except SignatureError ValueType :=
  (Descriptor.check t).map fun _ => ValueType.ofDescriptor t

def constructorName : Text := "<init>"

def separator : Text := "->"

/-- A method reference and whether it is called without a receiver. -/
structure Signature where
  owner : Text
  ownerName : Text
  name : Text
  parameters : List ValueType
  returnType : Text
  isStatic : Bool
  deriving DecidableEq

namespace Signature

def isConstructor (s : Signature) : Bool := s.name == constructorName

/-- A constructor call on a receiver, whose result is the new receiver. -/
def isInstanceConstructor (s : Signature) : Bool := s.isConstructor && !s.isStatic

def returnsVoid (s : Signature) : Bool := s.returnType == voidDescriptor

/-- Registers before the first parameter. -/
def receiverWidth (s : Signature) : Nat := if s.isStatic then 0 else 1

/-- Registers that the call uses. -/
def registerCount (s : Signature) : Nat :=
  s.receiverWidth + (s.parameters.map ValueType.width).sum

/-- The reference as it is written. -/
def text (s : Signature) : Text :=
  Text.concat [s.owner, "->", s.name, "(", (s.parameters.map ValueType.descriptor).flatten, ")",
    s.returnType]

/-- A signature from fields that hold what they should; all that do not are refused, in order. -/
def checked (owner ownerName name : FieldInput) (parameters : List ValueType)
    (returnType isStatic : FieldInput) : Except SignatureFailure Signature :=
  match owner.check "class_name", ownerName.check "class_binary_name",
      name.check "method_name", returnType.check "return_type",
      isStatic.checkTruth "is_static" with
  | .ok o, .ok b, .ok n, .ok r, .ok s => .ok ⟨o, b, n, parameters, r, s⟩
  | o, b, n, r, s =>
    .error (.refused ([o, b, n, r].filterMap FieldInput.fault? ++ (FieldInput.fault? s).toList))

/-- The owning type must be one class or array descriptor. -/
def checkOwner (owner text : Text) : Except SignatureError Unit :=
  if owner = [] then .error (.missingOwner text)
  else if !(Text.startsWith "L" owner || Text.startsWith "[" owner) then
    .error (.ownerNotClass text)
  else match Descriptor.headLength owner with
    | .error e => .error (.descriptor e owner)
    | .ok n => if n = owner.length then .ok () else .error (.malformedOwner owner text)

def isOpen (c : CodePoint) : Bool := c == '('

def isClose (c : CodePoint) : Bool := c == ')'

/-- Name, parameter list and return type of what follows the separator. -/
def splitMember (member text : Text) : Except SignatureError (Text × Text × Text) :=
  match member.findIdx? isOpen, member.findIdx? isClose with
  | some o, some c =>
    if c < o then .error (.missingParameters text)
    else if member.countP isOpen ≠ 1 ∨ member.countP isClose ≠ 1 then
      .error (.unbalancedParameters text)
    else if o = 0 then .error (.emptyName text)
    else .ok (member.take o, (member.take c).drop (o + 1), member.drop (c + 1))
  | _, _ => .error (.missingParameters text)

/-- The owner and member of a reference, whose owner is one class or array descriptor. -/
def splitOwner (text : Text) : Except SignatureError (Text × Text) :=
  match Text.cut? separator text with
  | none => .error (.missingSeparator text)
  | some (owner, member) => (checkOwner owner text).map fun _ => (owner, member)

def parseParameters (params : Text) : Except SignatureError (List ValueType) := do
  (← Descriptor.split params).mapM ValueType.parse

/-- A return type is void or a value type. -/
def checkReturn (returnType : Text) : Except SignatureError Unit :=
  if returnType = voidDescriptor then .ok ()
  else (ValueType.parse returnType).map fun _ => ()

/-- Reads a method reference; whether the call is static is a field beside it. -/
def parseWith (text : Text) (isStatic : FieldInput) : Except SignatureFailure Signature := do
  let (owner, member) ← (splitOwner text).mapError .malformed
  let (name, params, returnType) ← (splitMember member text).mapError .malformed
  let parameters ← (parseParameters params).mapError .malformed
  (checkReturn returnType).mapError .malformed
  checked (.text owner) (.text (binaryName owner)) (.text name) parameters (.text returnType)
    isStatic

/-- Reads a method reference. -/
def parse (text : Text) (isStatic : Bool) : Except SignatureFailure Signature :=
  parseWith text (.boolean isStatic)

end Signature

end HostCall
