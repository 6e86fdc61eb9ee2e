import HostCall.Library.Basic

/-!
# Mathematics

Integral kinds wrap around; floating point operations follow their format, and the greater and the
lesser of two numbers are `nan` when either is.
-/

namespace HostCall

namespace Library

/-- The absolute value within a kind; the lowest integer has none and stays. -/
def absolute : Scalar → Scalar
  | .double x => .double x.abs
  | .float x => .float x.abs
  | s => .ofInt s.kind ((s.toInt?.getD 0).natAbs)

/-- The greater or, with `least`, the lesser of two scalars of one kind. -/
def extreme (least : Bool) (a b : Scalar) : Scalar :=
  match a, b with
  | .double x, .double y => .double (if least then x.minimum y else x.maximum y)
  | .float x, .float y => .float (if least then x.minimum y else x.maximum y)
  | a, b =>
    let m := a.toInt?.getD 0
    let n := b.toInt?.getD 0
    if (if least then m ≤ n else m ≥ n) then a else b

/-- A function of one scalar of a kind. -/
def onScalar (name p : Text) (k : Kind) (f : Scalar → Scalar) : Callable :=
  .unary name p fun v => do return .scalar (f (← HostM.read fun h => v.toScalar h k))

/-- A function of two scalars of a kind. -/
def onScalars (name p q : Text) (k : Kind) (f : Scalar → Scalar → Scalar) : Callable :=
  .binary name p q fun v w => do
    let a ← HostM.read fun h => v.toScalar h k
    let b ← HostM.read fun h => w.toScalar h k
    return .scalar (f a b)

/-- The square root of a double. -/
def squareRoot : Scalar → Scalar
  | .double x => .double x.sqrt
  | s => s

/-- The power of two doubles. -/
def power : Scalar → Scalar → Scalar
  | .double x, .double y => .double (x.pow y)
  | a, _ => a

/-- The square roots of what a value makes as doubles. -/
def squareRoots (h : Heap) (v : Value) : Except HostError Value := do
  return .ofScalars .double ((← v.toScalarGrid h .double).map squareRoot)

/-- The powers of what two values make as doubles, place by place. -/
def powers (h : Heap) (v w : Value) : Except HostError Value := do
  let a ← v.toScalarGrid h .double
  let b ← w.toScalarGrid h .double
  return .ofScalars .double ((← a.pair b).map fun (x, y) => power x y)

def mathMembers : List (Text × Member) := [
  ("abs", .variants "abs" [
    (["I"], onScalar "JavaMath.abs" "value" .int absolute),
    (["J"], onScalar "JavaMath._abs_long" "value" .long absolute),
    (["F"], onScalar "JavaMath._abs_float" "value" .float absolute),
    (["D"], onScalar "JavaMath._abs_double" "value" .double absolute)]),
  ("max", .variants "max" [
    (["I", "I"], onScalars "JavaMath.max" "a" "b" .int (extreme false)),
    (["J", "J"], onScalars "JavaMath._max_long" "a" "b" .long (extreme false)),
    (["D", "D"], onScalars "JavaMath._max_double" "a" "b" .double (extreme false))]),
  ("min", .variants "min" [
    (["I", "I"], onScalars "JavaMath.min" "a" "b" .int (extreme true)),
    (["J", "J"], onScalars "JavaMath._min_long" "a" "b" .long (extreme true)),
    (["D", "D"], onScalars "JavaMath._min_double" "a" "b" .double (extreme true))]),
  ("sqrt", .staticMethod (.unary "JavaMath.sqrt" "value" fun v =>
    HostM.read fun h => squareRoots h v)),
  ("pow", .staticMethod (.binary "JavaMath.pow" "base" "exponent" fun v w =>
    HostM.read fun h => powers h v w))]

end Library

end HostCall
