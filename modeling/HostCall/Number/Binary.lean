import HostCall.Instances

/-!
# Binary floating point

A floating point number is the bits of a binary interchange format.  It is read as an exact
number, `significand * 2 ^ power`, and written from a ratio of naturals by rounding to the
nearest number of the format, ties to the even significand.
-/

namespace HostCall

/-- An interchange format: stored bits of the fraction and of the exponent. -/
structure FloatFormat where
  fraction : Nat
  exponent : Nat

namespace FloatFormat

abbrev double : FloatFormat := ⟨52, 11⟩

abbrev single : FloatFormat := ⟨23, 8⟩

/-- The power of two of the last place of the smallest numbers. -/
def minPower (f : FloatFormat) : Int := 2 - (2 ^ (f.exponent - 1) : Nat) - f.fraction

/-- The bits of positive infinity. -/
def infinityBits (f : FloatFormat) : Nat := (2 ^ f.exponent - 1) * 2 ^ f.fraction

/-- The bit of the sign. -/
def signBit (f : FloatFormat) : Nat := 2 ^ (f.exponent + f.fraction)

end FloatFormat

/-- An exact number, `coefficient * 2 ^ power`, or none. -/
inductive Extended where
  | nan
  | infinite (negative : Bool)
  | finite (coefficient : Int) (power : Int)
  deriving DecidableEq

namespace Extended

def ofInt (n : Int) : Extended := .finite n 0

/-- `a * 2 ^ p` and `b * 2 ^ q` as multiples of one power of two. -/
def align (a p b q : Int) : Int × Int :=
  let low := min p q
  (a * 2 ^ (p - low).toNat, b * 2 ^ (q - low).toNat)

/-- The order of numbers; nothing is ordered beside `nan`. -/
def compare? : Extended → Extended → Option Ordering
  | .nan, _ | _, .nan => none
  | .infinite a, .infinite b => some (if a = b then .eq else if a then .lt else .gt)
  | .infinite a, .finite .. => some (if a then .lt else .gt)
  | .finite .., .infinite b => some (if b then .gt else .lt)
  | .finite a p, .finite b q =>
    let (x, y) := align a p b q
    some (compare x y)

def eq (x y : Extended) : Bool := compare? x y == some .eq

def lt (x y : Extended) : Bool := compare? x y == some .lt

def le (x y : Extended) : Bool := lt x y || eq x y

/-- The integer next to the number on the side of zero. -/
def truncate? : Extended → Option Int
  | .finite a p =>
    some (if p ≥ 0 then a * 2 ^ p.toNat else a.tdiv (2 ^ (-p).toNat))
  | _ => none

def isZero : Extended → Bool
  | .finite a _ => a == 0
  | _ => false

end Extended

/-- The quotient rounded to the nearest natural number, ties to even. -/
def roundDiv (num den : Nat) : Nat :=
  let q := num / den
  let r := num % den
  if 2 * r < den then q
  else if 2 * r > den then q + 1
  else q + q % 2

/-- The greatest `e` with `2 ^ e ≤ num / den`, for positive numbers. -/
def ratioLog (num den : Nat) : Int :=
  let l : Int := (num.log2 : Int) - den.log2
  if num * 2 ^ (-l).toNat ≥ den * 2 ^ l.toNat then l else l - 1

/-- A number of a binary format, by its bits. -/
structure Binary (f : FloatFormat) where
  bits : Nat
  deriving DecidableEq

abbrev Double := Binary .double

abbrev Single := Binary .single

namespace Binary

variable {f : FloatFormat}

instance : Inhabited (Binary f) := ⟨⟨0⟩⟩

def signed (negative : Bool) (magnitude : Nat) : Binary f :=
  ⟨if negative then f.signBit + magnitude else magnitude⟩

def nan : Binary f := ⟨f.infinityBits + 2 ^ (f.fraction - 1)⟩

/-- A `nan` that is told apart from others by the label in its fraction; the one without a label is
`nan` itself. -/
def labelledNan (label : Nat) : Binary f := ⟨(nan : Binary f).bits + label % 2 ^ (f.fraction - 1)⟩

def infinity (negative : Bool) : Binary f := signed negative f.infinityBits

def zero (negative : Bool) : Binary f := signed negative 0

/-- Whether the sign is set, also on zeros. -/
def isNegative (x : Binary f) : Bool := x.bits / f.signBit % 2 == 1

def magnitudeBits (x : Binary f) : Nat := x.bits % f.signBit

def isNaN (x : Binary f) : Bool := x.magnitudeBits > f.infinityBits

def isInfinite (x : Binary f) : Bool := x.magnitudeBits == f.infinityBits

def isFinite (x : Binary f) : Bool := x.magnitudeBits < f.infinityBits

/-- Significand and power of the magnitude of a finite number. -/
def parts (x : Binary f) : Nat × Int :=
  let e := x.magnitudeBits / 2 ^ f.fraction
  let m := x.magnitudeBits % 2 ^ f.fraction
  if e = 0 then (m, f.minPower) else (2 ^ f.fraction + m, f.minPower + (e - 1 : Int))

/-- The exact value. -/
def value (x : Binary f) : Extended :=
  if x.isNaN then .nan
  else if x.isInfinite then .infinite x.isNegative
  else
    let (m, p) := x.parts
    .finite (if x.isNegative then -(m : Int) else m) p

/-- The number nearest to `num / den`, ties to even; too large a ratio becomes infinite. -/
def ofRatio (negative : Bool) (num den : Nat) : Binary f :=
  if num = 0 ∨ den = 0 then zero negative
  else
    let power := max (ratioLog num den - f.fraction) f.minPower
    let m := roundDiv (num * 2 ^ (-power).toNat) (den * 2 ^ power.toNat)
    let bits :=
      if m < 2 ^ f.fraction then m
      else (power - f.minPower + 1).toNat * 2 ^ f.fraction + (m - 2 ^ f.fraction)
    if bits < f.infinityBits then signed negative bits else infinity negative

/-- The number nearest to `coefficient * 2 ^ power`; a zero has the sign given. -/
def ofDyadic (negativeZero : Bool) (coefficient power : Int) : Binary f :=
  let negative := if coefficient = 0 then negativeZero else coefficient < 0
  ofRatio negative (coefficient.natAbs * 2 ^ power.toNat) (2 ^ (-power).toNat)

def ofInt (n : Int) : Binary f := ofDyadic false n 0

/-- The nearest number of another format. -/
def convert {g : FloatFormat} (x : Binary f) : Binary g :=
  match x.value with
  | .nan => nan
  | .infinite s => infinity s
  | .finite a p => ofDyadic x.isNegative a p

def abs (x : Binary f) : Binary f := if x.isNaN then x else signed false x.magnitudeBits

def add (x y : Binary f) : Binary f :=
  match x.value, y.value with
  | .nan, _ | _, .nan => nan
  | .infinite s, .infinite t => if s = t then infinity s else nan
  | .infinite s, _ | _, .infinite s => infinity s
  | .finite a p, .finite b q =>
    let (c, d) := Extended.align a p b q
    ofDyadic (x.isNegative && y.isNegative) (c + d) (min p q)

def mul (x y : Binary f) : Binary f :=
  let s := x.isNegative != y.isNegative
  match x.value, y.value with
  | .nan, _ | _, .nan => nan
  | .infinite _, v | v, .infinite _ => if v.isZero then nan else infinity s
  | .finite a p, .finite b q => ofDyadic s (a * b) (p + q)

/-- The greater of two numbers; `nan` when either is. -/
def maximum (x y : Binary f) : Binary f :=
  if x.isNaN then x else if y.isNaN then y else if x.value.lt y.value then y else x

/-- The lesser of two numbers; `nan` when either is. -/
def minimum (x y : Binary f) : Binary f :=
  if x.isNaN then x else if y.isNaN then y else if y.value.lt x.value then y else x

end Binary

namespace Double

def toNative (x : Double) : Float := Float.ofBits x.bits.toUInt64

/-- Every native `nan` becomes the one of this library. -/
def ofNative (x : Float) : Double := if x.isNaN then Binary.nan else ⟨x.toBits.toNat⟩

def sqrt (x : Double) : Double := ofNative (Float.sqrt (toNative x))

def pow (x y : Double) : Double := ofNative (Float.pow (toNative x) (toNative y))

end Double

end HostCall
