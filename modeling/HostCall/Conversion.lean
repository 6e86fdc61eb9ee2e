import HostCall.Universe
import HostCall.Value.Convert

/-!
# Conversion of arguments

`conversionCost` grades how well a supplied type fits a declared one, and `adapt` converts a value
to a declared type.  Scalars widen to larger kinds, are boxed into host values, and host values
are unboxed into scalars; nothing wraps around.
-/

namespace HostCall

namespace Kind

/-- The kinds that a kind widens to, nearest first. -/
def widenings : Kind → List Kind
  | .byte => [.short, .int, .long, .float, .double]
  | .short => [.int, .long, .float, .double]
  | .char => [.int, .long, .float, .double]
  | .int => [.long, .float, .double]
  | .long => [.float, .double]
  | .float => [.double]
  | .boolean | .double => []

/-- The host type that boxes the scalars of a kind. -/
def boxed : Kind → HostType
  | .byte | .short | .int | .long => .integer
  | .char => .text
  | .boolean => .boolean
  | .float | .double => .real

/-- The host types that are unboxed into a kind. -/
def unboxed : Kind → List HostType
  | .byte | .short | .int | .long => [.integer]
  | .char => [.text]
  | .boolean => [.boolean]
  | .float | .double => [.real, .integer]

end Kind

namespace HostType

def kind? : HostType → Option Kind
  | .scalar k => some k
  | _ => none

/-- Steps of widening from one scalar type to another. -/
def wideningIndex? (supplied declared : HostType) : Option Nat :=
  match supplied, declared with
  | .scalar s, .scalar d => s.widenings.idxOf? d
  | _, _ => none

/-- Whether scalars of the supplied type are boxed into the declared one. -/
def isBoxing (supplied declared : HostType) : Bool :=
  match supplied with
  | .scalar k => k.boxed == declared
  | _ => false

def isArrayType (t : HostType) : Bool := t == .list || t == .array

end HostType

/-- Cost of boxing, and of a base that is not among the ancestors. -/
def boxingCost : Nat := 20

/-- Cost of passing anything as an object. -/
def objectCost : Nat := 50

/-- The cost of passing an argument of one type as another; `none` when it cannot be passed. -/
def conversionCost (u : Universe) (supplied declared : HostType) :
    Except HostError (Option Nat) :=
  if supplied = declared then .ok (some 0)
  else match HostType.wideningIndex? supplied declared with
    | some i => .ok (some (i + 1))
    | none =>
      if u.isPrimitive declared then .ok none
      else if declared = .object then .ok (some objectCost)
      else if HostType.isBoxing supplied declared then .ok (some boxingCost)
      else (u.isSubclass supplied declared).map fun below =>
        if below then some (((u.lineage supplied).idxOf? declared).getD boxingCost) else none

/-- Whether a value can be passed as an array: an array, bytes, or a sequence that is no text. -/
def Universe.passesAsArray (u : Universe) (v : Value) : Except HostError Bool := do
  if ← u.isInstance v .array then return true
  if ← u.isInstance v (.declared HostType.sequence) then
    if !(← u.isInstanceOfAny v [.text, .bytes]) then return true
  u.isInstanceOfAny v [.bytes, .byteArray]

namespace Value

/-- A host value unboxed into a scalar. -/
def unbox (k : Kind) : Value → Except HostError Scalar
  | .text t => do integerToScalar k (← toCodePoint (.text t))
  | .boolean b => .ok (Scalar.ofInt k b.toInt)
  | .integer n => integerToScalar k n
  | .real x => .ok (Scalar.ofBinary k x)
  | v => .error (.notAnInteger v.errorName)

/-- A scalar boxed into a host value. -/
def box : Scalar → Value
  | .boolean b => .boolean b
  | .char c => .text (CodePoint.ofNat? c.toNat).toList
  | .double x => .real x
  | .float x => .real x.convert
  | s => .integer (s.toInt?.getD 0)

/-- A value that is neither unknown nor null, converted to a type that is neither the universal
type nor an array type and of which it is no instance. -/
def convert (position : Int) (v : Value) (declared : HostType) : Except MismatchError Value :=
  let refused : MismatchError := .notAssignable position v.typeOf.name declared.name
  match declared, v with
  | .scalar k, .scalar s =>
    if k ∈ s.kind.widenings then .ok (.scalar (s.castTo k)) else .error refused
  | .scalar k, v =>
    if v.typeOf ∈ k.unboxed then
      ((v.unbox k).map Value.scalar).mapError (.conversion position)
    else .error refused
  | t, .scalar s => if s.kind.boxed = t then .ok (box s) else .error refused
  | _, _ => .error refused

/-- A value as an argument of the declared type. -/
def adapt (u : Universe) (position : Int) (v : Value) (declared : HostType) :
    Except ArgumentError Value :=
  match v with
  | .unknown => .error (.mismatch (.unknownArgument position))
  | .null =>
    if u.isPrimitive declared then .error (.mismatch (.nullPrimitive position declared.name))
    else .ok .null
  | v =>
    if declared = .object then .ok v
    else if declared.isArrayType then do
      if ← (u.passesAsArray v).mapError .host then return v
      throw (.mismatch (.notAnArray position v.typeOf.name))
    else do
      if ← (u.isInstance v declared).mapError .host then return v
      (v.convert position declared).mapError .mismatch

/-- Arguments adapted in order, the first at `position`; the shorter list ends both. -/
def adaptFrom (u : Universe) : Nat → List Value → List HostType →
    Except ArgumentError (List Value)
  | i, v :: vs, t :: ts => do
    let a ← adapt u i v t
    return a :: (← adaptFrom u (i + 1) vs ts)
  | _, _, _ => .ok []

def adaptAll (u : Universe) (vs : List Value) (ts : List HostType) :
    Except ArgumentError (List Value) :=
  adaptFrom u 0 vs ts

end Value

end HostCall
