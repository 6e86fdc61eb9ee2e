import HostCall.Value.Buffer
import HostCall.Value.Grid

/-!
# Sums, doubles and narrowing

Scalars and arrays are added in the kind in which they meet, where integral kinds wrap around.  An
unbounded integer takes the kind of the other operand and must fit into it.
-/

namespace HostCall

namespace Scalar

/-- An operation on scalars of one kind, from its integer and floating point forms. -/
def combine (k : Kind) (onInt : Int → Int → Int)
    (onReal : {f : FloatFormat} → Binary f → Binary f → Binary f) (a b : Scalar) : Scalar :=
  match a.castTo k, b.castTo k with
  | .double x, .double y => .double (onReal x y)
  | .float x, .float y => .float (onReal x y)
  | x, y => ofInt k (onInt (x.toInt?.getD 0) (y.toInt?.getD 0))

end Scalar

namespace Value

/-- Numbers of the host as integers, when both are. -/
def hostIntegers? : Value → Value → Option (Int × Int)
  | .integer a, .integer b => some (a, b)
  | .boolean a, .integer b => some (a.toInt, b)
  | .integer a, .boolean b => some (a, b.toInt)
  | .boolean a, .boolean b => some (a.toInt, b.toInt)
  | _, _ => none

def isHostNumber : Value → Bool
  | .boolean _ | .integer _ | .real _ => true
  | _ => false

/-- The sum of two numbers of the host; `none` when one is none. -/
def addNumbers? (a b : Value) : Option (Except HostError Value) :=
  match hostIntegers? a b with
  | some (m, n) => some (.ok (.integer (m + n)))
  | none =>
    if a.isHostNumber && b.isHostNumber then
      some do return .real ((← a.toReal).add (← b.toReal))
    else none

/-- Why there is no sum. -/
def sumRefused (a b : Value) : HostError :=
  match a with
  | .text _ => .concatenate "str" b.errorName
  | .list _ => .concatenate "list" b.errorName
  | .tuple _ => .concatenate "tuple" b.errorName
  | .bytes _ => .concatenateBytes "bytes" b.errorName
  | .byteArray _ => .concatenateBytes "bytearray" b.errorName
  | a => .operands .add a.errorName b.errorName

/-! ### Sums of grids -/

/-- The sum of two items of any host type. -/
def addItems (a b : GridItem) : Except HostError Value :=
  (addNumbers? a.host b.host).getD (.error (sumRefused a.host b.host))

/-- The sum of two items as unsigned integers of so many bits. -/
def addUnsigned (bits : Nat) (a b : GridItem) : Except HostError Value := do
  return .integer (((← a.host.toInteger) + (← b.host.toInteger)) % (2 ^ bits : Nat))

/-- A grid without a kind for its items: the item alone, or a list. -/
def ofItems (h : Heap) (g : Grid Value) : Value × Heap :=
  match g.shape, g.items with
  | [], [v] => (v, h)
  | _, vs =>
    let (a, h) := h.alloc (.items vs)
    (.list a, h)

/-- The sum item by item, in the element in which the operands meet. -/
def addGrids (h : Heap) (a b : Value) : Except HostError (Value × Heap) := do
  let x ← a.operand h
  let y ← b.operand h
  let sums (f : GridItem → GridItem → Except HostError Value) :
      Except HostError (Value × Heap) := do
    return ofItems h (← (← x.grid.pair y.grid).mapM fun (i, j) => f i j)
  match x.meeting y with
  | .text _ | .bytes _ => throw (.noLoop "add" x.element.name y.element.name)
  | .any => sums addItems
  | .octet => sums (addUnsigned 8)
  | .wide => sums (addUnsigned 64)
  | .scalar k =>
    let s ← x.grid.mapM (x.scalarOf k)
    let t ← y.grid.mapM (y.scalarOf k)
    return (ofScalars k ((← s.pair t).map fun (a, b) => Scalar.combine k (· + ·) Binary.add a b), h)

/-- The sum of values of built-in types, or the concatenation of two sequences of one type.  Arrays
and scalars make a sum of anything, but behind a text or bytes no scalar does. -/
def addBuiltin (h : Heap) (a b : Value) : Except HostError (Value × Heap) :=
  match addNumbers? a b with
  | some r => r.map fun v => (v, h)
  | none => match a, b with
    | .text s, .text t => .ok (.text (s ++ t), h)
    | .text _, .scalar _ => .error (sumRefused a b)
    | .bytes s, .bytes t | .bytes s, .byteArray t => .ok (.bytes (s ++ t), h)
    | .bytes s, .scalar t => .ok (.bytes (s ++ t.storedBytes), h)
    | .byteArray s, .bytes t | .byteArray s, .byteArray t => .ok (.byteArray (s ++ t), h)
    | .list p, .list q =>
      let (r, h) := h.alloc (.items (h.items p ++ h.items q))
      .ok (.list r, h)
    | .tuple p, .tuple q =>
      let (r, h) := h.alloc (.items (h.items p ++ h.items q))
      .ok (.tuple r, h)
    | a, b => if a.isArrayLike || b.isArrayLike then addGrids h a b else .error (sumRefused a b)

/-- The sum, which the class of either value may make itself. -/
def add (h : Heap) (a b : Value) : Except HostError (Value × Heap) :=
  match (h.answersOf a).add, (h.answersOf b).addedTo with
  | some f, _ => h.take (f b)
  | none, some f => h.take (f a)
  | none, none => addBuiltin h a b

/-- Twice a value: a number doubled in its kind, or a sequence followed by itself. -/
def twice (h : Heap) (v : Value) : Except HostError (Value × Heap) :=
  match v with
  | .boolean b => .ok (.integer (2 * b.toInt), h)
  | .integer n => .ok (.integer (2 * n), h)
  | .real x => .ok (.real (x.mul (Binary.ofInt 2)), h)
  | .scalar s =>
    let k := if s.kind = .boolean then .long else s.kind
    .ok (.scalar (Scalar.combine k (· * ·) Binary.mul s (Scalar.ofInt k 2)), h)
  | .array k items _ =>
    let k' := if k = .boolean then .long else k
    .ok (.array k' (items.map fun s =>
      Scalar.combine k' (· * ·) Binary.mul s (Scalar.ofInt k' 2)) 0, h)
  | .text t => .ok (.text (t ++ t), h)
  | .bytes bs => .ok (.bytes (bs ++ bs), h)
  | .byteArray bs => .ok (.byteArray (bs ++ bs), h)
  | .list a =>
    let (r, h) := h.alloc (.items (h.items a ++ h.items a))
    .ok (.list r, h)
  | .tuple a =>
    let (r, h) := h.alloc (.items (h.items a ++ h.items a))
    .ok (.tuple r, h)
  | v => .error (.operands .multiply v.errorName HostType.integer.name)

/-! ## Narrowing -/

/-- The wrapped scalar of an integer that fits into 64 bits, with or without a sign; reals take
any integer that is not too large for them. -/
def narrowInteger (k : Kind) (n : Int) : Except HostError Scalar :=
  if -2 ^ 63 ≤ n ∧ n < 2 ^ 64 then .ok (Scalar.ofInt k n)
  else match k with
    | .boolean => .ok (.boolean (n != 0))
    | .double | .float => do return Scalar.ofBinary k (← integerToReal n)
    | _ => .error .longOverflow

/-- Why an integer cannot be narrowed; the message quotes the value. -/
def castRefused (h : Heap) (k : Kind) (v : Value) (cause : HostError) : ArgumentError :=
  match v.quoted h with
  | .ok q => .mismatch (.castValue q k cause)
  | .error e => .host e

/-- A value narrowed to a primitive kind: integers wrap around, booleans mean non-zero, and a text
of one character is its code. -/
def narrowTo (h : Heap) (k : Kind) (v : Value) : Except ArgumentError Scalar :=
  let fromInteger (n : Int) : Except ArgumentError Scalar :=
    if k = .boolean then .ok (.boolean (n != 0))
    else (narrowInteger k n).mapError (castRefused h k v)
  match v with
  | .text [c] => fromInteger c.val
  | .text t => .error (.mismatch (.castLength t.length k))
  | .boolean b => fromInteger b.toInt
  | .integer n => fromInteger n
  | .real x => .ok (Scalar.ofBinary k x)
  | .scalar s => .ok (s.castTo k)
  | v => .error (.mismatch (.castType v.typeOf.name k))

/-- A value narrowed to the kind that a descriptor names; any other descriptor leaves it alone. -/
def narrow (h : Heap) (descriptor : Text) (v : Value) : Except ArgumentError Value :=
  match Kind.ofText? descriptor with
  | none => .ok v
  | some k => (narrowTo h k v).map .scalar

end Value

end HostCall
