import HostCall.Number.Binary
import HostCall.Text.Basic

/-!
# Decimals of a given length

Floating point numbers with a given number of digits behind the point, in positional, exponential
or general notation.  The exact value is rounded to the nearest decimal, ties to even.
-/

namespace HostCall

/-- How decimals are written: upper case letters, and a point kept where no digit follows it. -/
structure DecimalStyle where
  upper : Bool := false
  keepPoint : Bool := false

/-- A digit string with a point before its last `places` digits. -/
def pointed (style : DecimalStyle) (places : Nat) (ds : Text) : Text :=
  let whole := ds.length - places
  Text.concat [ds.take whole, if places > 0 ∨ style.keepPoint then "." else "", ds.drop whole]

namespace Binary

variable {f : FloatFormat}

/-- The magnitude of a finite number as a ratio. -/
def ratio (x : Binary f) : Nat × Nat :=
  let (m, p) := x.parts
  (m * 2 ^ p.toNat, 2 ^ (-p).toNat)

/-- The exponent of the first decimal digit; zero for the number zero. -/
def decimalExponent (x : Binary f) : Int :=
  let (num, den) := x.ratio
  if num = 0 then 0
  else
    let e : Int := (Text.digits 10 num).length - (Text.digits 10 den).length
    if num * 10 ^ (-e).toNat ≥ den * 10 ^ e.toNat then e else e - 1

/-- The magnitude with `places` digits behind the point. -/
def fixed (style : DecimalStyle) (places : Nat) (x : Binary f) : Text :=
  let (num, den) := x.ratio
  pointed style places
    (Text.padLeft '0' (places + 1) (Text.ofNat (roundDiv (num * 10 ^ places) den)))

/-- The first digit, `places` more, and the exponent that they have after rounding. -/
def roundedDigits (places : Nat) (x : Binary f) : Text × Int :=
  let (num, den) := x.ratio
  let e := x.decimalExponent
  let shift := (places : Int) - e
  let n := roundDiv (num * 10 ^ shift.toNat) (den * 10 ^ (-shift).toNat)
  if n ≥ 10 ^ (places + 1) then (Text.ofNat (n / 10), e + 1)
  else (Text.padRight '0' (places + 1) (Text.ofNat n), e)

/-- A sign and at least two digits behind the letter of the exponent. -/
def exponentText (style : DecimalStyle) (e : Int) : Text :=
  Text.concat [if style.upper then "E" else "e", if e < 0 then "-" else "+",
    Text.padLeft '0' 2 (Text.ofNat e.natAbs)]

/-- The magnitude with one digit before the point and an exponent. -/
def exponential (style : DecimalStyle) (places : Nat) (x : Binary f) : Text :=
  let (ds, e) := x.roundedDigits places
  pointed style places ds ++ exponentText style e

/-- The digits without zeros at the end, and without a point that nothing follows. -/
def dropZeros (t : Text) : Text :=
  if ('.' : CodePoint) ∈ t then
    let kept := (t.reverse.dropWhile fun c : CodePoint => c = '0').reverse
    if kept.getLast? = some ('.' : CodePoint) then kept.dropLast else kept
  else t

/-- The magnitude with so many significant digits in the notation that its exponent asks for. -/
def general (style : DecimalStyle) (digits : Nat) (x : Binary f) : Text :=
  let digits := max digits 1
  let (ds, e) := x.roundedDigits (digits - 1)
  let trim (t : Text) : Text := if style.keepPoint then t else dropZeros t
  if e < -4 ∨ (digits : Int) ≤ e then
    trim (pointed style (digits - 1) ds) ++ exponentText style e
  else trim (x.fixed style ((digits : Int) - 1 - e).toNat)

end Binary

end HostCall
