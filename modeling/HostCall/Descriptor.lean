import HostCall.Kind
import HostCall.Text.Quoted

/-!
# Type descriptors

A value type is written as a letter, as `L…;` around a class name with slashes, or as up to 255
brackets before one of these.  `headLength` measures the descriptor at the head of a text, and
the other readers are made from it.

`headLength_bounds` says that the head is never empty and never longer than the text, which is why
`splitAll` ends.
-/

namespace HostCall

/-- Why no descriptor stands at the head of a text. -/
inductive DescriptorFault where
  | tooManyDimensions
  | truncated
  | unterminatedClass
  | voidValue
  | unknownCode (code : CodePoint)
  deriving DecidableEq

/-- Why a descriptor or a signature is malformed. -/
inductive SignatureError where
  | descriptor (fault : DescriptorFault) (text : Text)
  | notOneDescriptor (text : Text)
  | missingOwner (text : Text)
  | ownerNotClass (text : Text)
  | malformedOwner (owner text : Text)
  | missingSeparator (text : Text)
  | missingParameters (text : Text)
  | unbalancedParameters (text : Text)
  | emptyName (text : Text)
  deriving DecidableEq

namespace SignatureError

open Text in
def message : SignatureError → Text
  | .descriptor .tooManyDimensions t => concat ["Too many array dimensions in ", quoted t]
  | .descriptor .truncated t => concat ["Truncated descriptor in ", quoted t]
  | .descriptor .unterminatedClass t => concat ["Unterminated class descriptor in ", quoted t]
  | .descriptor .voidValue t => concat ["void is not a value type in ", quoted t]
  | .descriptor (.unknownCode c) t =>
    concat ["Unknown type code ", quoted [c], " in ", quoted t]
  | .notOneDescriptor t => concat ["Invalid type descriptor: ", quoted t]
  | .missingOwner t => concat ["Missing owning type in ", quoted t]
  | .ownerNotClass t => concat ["Owning type must be a class or array: ", quoted t]
  | .malformedOwner o t => concat ["Malformed owning type ", quoted o, " in ", quoted t]
  | .missingSeparator t => concat ["Missing '->' in signature ", quoted t]
  | .missingParameters t => concat ["Missing parameter list in ", quoted t]
  | .unbalancedParameters t => concat ["Unbalanced parameter list in ", quoted t]
  | .emptyName t => concat ["Empty method name in ", quoted t]

end SignatureError

/-- The universal reference type. -/
def objectDescriptor : Text := "Ljava/lang/Object;"

def voidDescriptor : Text := "V"

/-! ## Class names -/

/-- The name with dots of a class; arrays keep their brackets and the wrapper of their class. -/
def binaryName (t : Text) : Text :=
  if Text.startsWith "[" t then t.replace '/' '.'
  else if Text.startsWith "L" t && Text.endsWith ";" t then
    Text.replace '/' '.' (t.drop 1).dropLast
  else t

/-- The descriptor of a name with dots. -/
def internalName (t : Text) : Text :=
  if Text.startsWith "[" t then t.replace '.' '/'
  else if (Kind.ofText? t).isSome || t == voidDescriptor then t
  else Text.concat ["L", t.replace '.' '/', ";"]

namespace Descriptor

def maxDimensions : Nat := 255

def isBracket (c : CodePoint) : Bool := c == '['

/-- What ends the name of a class. -/
def terminator : CodePoint := ';'

/-- Brackets at the head of a text. -/
def dimensions (t : Text) : Nat := (t.takeWhile isBracket).length

/-- A text without its leading brackets. -/
def component (t : Text) : Text := t.dropWhile isBracket

theorem dimensions_add_component (t : Text) :
    dimensions t + (component t).length = t.length := by
  rw [dimensions, component, ← List.length_append, List.takeWhile_append_dropWhile]

/-- Length of what stands behind the brackets, which is `t`. -/
def coreLength : Text → Except DescriptorFault Nat
  | [] => .error .truncated
  | c :: rest =>
    if c = 'L' then
      match rest.findIdx? (· == terminator) with
      | none | some 0 => .error .unterminatedClass
      | some n => .ok (n + 2)
    else if (Kind.ofLetter? c).isSome then .ok 1
    else if c = 'V' then .error .voidValue
    else .error (.unknownCode c)

/-- Length of the descriptor at the head of a text. -/
def headLength (t : Text) : Except DescriptorFault Nat :=
  if dimensions t > maxDimensions then .error .tooManyDimensions
  else (coreLength (component t)).map (dimensions t + ·)

theorem coreLength_bounds {t : Text} {n : Nat} (h : coreLength t = .ok n) :
    0 < n ∧ n ≤ t.length := by
  cases t with
  | nil => simp [coreLength] at h
  | cons c rest =>
    simp only [coreLength] at h
    split at h
    · split at h
      · simp at h
      · simp at h
      · rename_i i _ hi
        obtain rfl : i + 2 = n := by simpa using h
        obtain ⟨hlt, -⟩ := List.findIdx?_eq_some_iff_getElem.1 hi
        simp only [List.length_cons]
        omega
    · split at h
      · obtain rfl : 1 = n := by simpa using h
        simp
      · split at h <;> simp at h

theorem headLength_bounds {t : Text} {n : Nat} (h : headLength t = .ok n) :
    0 < n ∧ n ≤ t.length := by
  unfold headLength at h
  split at h
  · simp at h
  · cases hc : coreLength (component t) with
    | error e => simp [hc, Except.map] at h
    | ok k =>
      obtain rfl : dimensions t + k = n := by simpa [hc, Except.map] using h
      have := coreLength_bounds hc
      have := dimensions_add_component t
      omega

/-- The descriptors that `t` is the concatenation of. -/
def splitAll (t : Text) : Except DescriptorFault (List Text) :=
  if t = [] then .ok []
  else
    match _h : headLength t with
    | .error e => .error e
    | .ok n => (splitAll (t.drop n)).map (t.take n :: ·)
termination_by t.length
decreasing_by
  have := headLength_bounds _h
  simp only [List.length_drop]
  omega

/-- The descriptors of a parameter list. -/
def split (t : Text) : Except SignatureError (List Text) :=
  (splitAll t).mapError (.descriptor · t)

/-- Whether a whole text is one descriptor. -/
def check (t : Text) : Except SignatureError Unit :=
  if t = [] then .error (.notOneDescriptor t)
  else match headLength t with
    | .error e => .error (.descriptor e t)
    | .ok n => if n = t.length then .ok () else .error (.notOneDescriptor t)

/-- Why `endFrom` fails. -/
inductive EndFault where
  | outside
  | fault (cause : DescriptorFault)
  deriving DecidableEq

/-- The place after the descriptor that begins at `start`.  A negative start counts from the end,
and the brackets read from there go on at the beginning of the text. -/
def endFrom (t : Text) (start : Int) : Except EndFault Int :=
  if start < -(t.length : Int) then .error .outside
  else
    let line := if start < 0 then t.drop (t.length + start).toNat ++ t else t.drop start.toNat
    let place := start + dimensions line
    if dimensions line > maxDimensions then .error (.fault .tooManyDimensions)
    else match component line with
      | [] => .error (.fault .truncated)
      | c :: rest =>
        if c = 'L' ∧ place < 0 then
          let from' := (t.length + place).toNat
          match (t.drop from').findIdx? (· == terminator) with
          | none => .error (.fault .unterminatedClass)
          | some n => .ok (from' + n + 1)
        else match coreLength (c :: rest) with
          | .error e => .error (.fault e)
          | .ok n => .ok (place + n)

end Descriptor

/-- Slots of a value with this descriptor: two for long and double. -/
def registerWidth (t : Text) : Nat :=
  match Kind.ofText? t with
  | some k => k.width
  | none => 1

/-! ## Value types -/

/-- A primitive kind, or a class or array by its descriptor. -/
inductive ValueType where
  | primitive (kind : Kind)
  | reference (descriptor : Text)
  deriving DecidableEq

namespace ValueType

/-- The value type that a checked descriptor names. -/
def ofDescriptor (t : Text) : ValueType :=
  match Kind.ofText? t with
  | some k => .primitive k
  | none => .reference t

def descriptor : ValueType → Text
  | .primitive k => [k.letter]
  | .reference t => t

/-- Keyword of a primitive kind, name with dots of a class or array. -/
def name : ValueType → Text
  | .primitive k => k.label
  | .reference t => binaryName t

def kind? : ValueType → Option Kind
  | .primitive k => some k
  | .reference _ => none

def width : ValueType → Nat
  | .primitive k => k.width
  | .reference _ => 1

def isReference : ValueType → Bool
  | .primitive _ => false
  | .reference _ => true

def isArray (v : ValueType) : Bool := Text.startsWith "[" v.descriptor

def isObject (v : ValueType) : Bool := v.descriptor == objectDescriptor

theorem descriptor_ofDescriptor (t : Text) : (ofDescriptor t).descriptor = t := by
  unfold ofDescriptor
  cases h : Kind.ofText? t with
  | none => rfl
  | some k => exact (Kind.ofText?_eq_some_iff.1 h).symm

theorem width_pos (v : ValueType) : 0 < v.width := by
  cases v with
  | primitive k => exact k.width_pos
  | reference _ => exact Nat.one_pos

end ValueType

end HostCall
