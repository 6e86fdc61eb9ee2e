import HostCall.Text.Basic
import HostCall.Number.Binary

/-!
# Shortest decimals

The fewest decimal digits that read back as the same floating point number; of two such decimals
the nearer, and of two equally near the one with the even last digit.
-/

namespace HostCall

/-- `digits * 10 ^ exponent`. -/
structure Decimal where
  digits : Nat
  exponent : Int

namespace Binary

variable {f : FloatFormat}

/-- The decimals within this interval read back as the number it is made for; its ends do so
exactly when `closed`.  All numbers are multiples of `2 ^ power`. -/
structure Interval where
  low : Nat
  value : Nat
  high : Nat
  power : Int
  closed : Bool

/-- The numbers that round to `x`, for a finite positive `x`. -/
def interval (x : Binary f) : Interval :=
  let (m, p) := x.parts
  let below := if m = 2 ^ f.fraction ∧ f.minPower < p then 1 else 2
  ⟨4 * m - below, 4 * m, 4 * m + 2, p - 2, m % 2 == 0⟩

/-- Whether `d * 10 ^ k` lies in the interval. -/
def Interval.holds (i : Interval) (d : Nat) (k : Int) : Bool :=
  let scale := 10 ^ k.toNat * 2 ^ (-i.power).toNat
  let unit := 10 ^ (-k).toNat * 2 ^ i.power.toNat
  let n := d * scale
  if i.closed then i.low * unit ≤ n && n ≤ i.high * unit
  else i.low * unit < n && n < i.high * unit

/-- The digit of place `10 ^ k` and above: the value divided by `10 ^ k`, as a ratio. -/
def Interval.over (i : Interval) (k : Int) : Nat × Nat :=
  (i.value * 2 ^ i.power.toNat * 10 ^ (-k).toNat, 2 ^ (-i.power).toNat * 10 ^ k.toNat)

/-- The decimal on the grid of `10 ^ k` that reads back and is nearest, if there is one. -/
def Interval.onGrid? (i : Interval) (k : Int) : Option Decimal :=
  let (num, den) := i.over k
  let down := num / den
  let nearest := roundDiv num den
  let other := if nearest = down then down + 1 else down
  if i.holds nearest k then some ⟨nearest, k⟩
  else if i.holds other k then some ⟨other, k⟩
  else none

/-- The decimal on the grid of `10 ^ k` that stands for the value: one that reads back, or the
nearest. -/
def Interval.onGrid (i : Interval) (k : Int) : Decimal :=
  let (num, den) := i.over k
  (i.onGrid? k).getD ⟨roundDiv num den, k⟩

/-- The greatest `e` with `10 ^ e ≤ value`, searched upwards from a lower bound. -/
def Interval.magnitudeFrom (i : Interval) : Nat → Int → Int
  | 0, e => e
  | fuel + 1, e =>
    let (num, den) := i.over (e + 1)
    if num ≥ den then magnitudeFrom i fuel (e + 1) else e

/-- The first grid, coarsest first, that holds a decimal. -/
def Interval.search (i : Interval) : Nat → Int → Decimal
  | 0, k => i.onGrid k
  | fuel + 1, k => match i.onGrid? k with
    | some d => d
    | none => search i fuel (k - 1)

/-- The shortest decimal of a finite positive number. -/
def shortest (x : Binary f) : Decimal :=
  let i := x.interval
  let estimate := ((i.value.log2 : Int) + i.power) * 30103 / 100000 - 2
  i.search 20 (i.magnitudeFrom 6 estimate)

end Binary

namespace Decimal

/-- The digits without trailing zeros, with the exponent of the first digit. -/
def scientificParts (d : Decimal) : Text × Int :=
  let all := Text.ofNat d.digits
  let exponent := d.exponent + all.length - 1
  let trimmed := (all.reverse.dropWhile fun c : CodePoint => c = '0').reverse
  (trimmed, exponent)

/-- Digits with a point, at least one digit on each side. -/
def positional (d : Decimal) : Text :=
  let (ds, e) := d.scientificParts
  if e < 0 then Text.concat ["0.", Text.padLeft '0' (-e - 1).toNat [], ds]
  else
    let whole := (e + 1).toNat
    if ds.length ≤ whole then Text.concat [Text.padRight '0' whole ds, ".0"]
    else Text.concat [ds.take whole, ".", ds.drop whole]

/-- One digit, a point if more follow, and a signed exponent of at least two digits. -/
def scientific (d : Decimal) : Text :=
  let (ds, e) := d.scientificParts
  Text.concat [ds.take 1, if ds.length ≤ 1 then [] else '.' :: ds.drop 1, "e",
    if e < 0 then "-" else "+", Text.padLeft '0' 2 (Text.ofNat e.natAbs)]

end Decimal

/-- The rule for choosing between the two notations. -/
inductive PointRule where
  /-- By the exponent of the first of the shortest digits. -/
  | byDigits
  /-- By the number itself. -/
  | byValue

/-- Both rules write numbers from 0.0001 up to `10 ^ 16` with a point only. -/
def PointRule.isPositional {f : FloatFormat} (rule : PointRule) (x : Binary f)
    (d : Decimal) : Bool :=
  match rule with
  | .byDigits => -4 ≤ d.scientificParts.2 && d.scientificParts.2 < 16
  | .byValue =>
    let v : Extended := x.abs.value
    let low : Double := Binary.ofRatio false 1 10000
    Extended.le low.value v && Extended.lt v (.ofInt (10 ^ 16))

/-- The text of a number: `nan`, `inf`, or its shortest decimal. -/
def Binary.render {f : FloatFormat} (rule : PointRule) (x : Binary f) : Text :=
  let sign : Text := if x.isNegative then "-" else ""
  if x.isNaN then "nan"
  else if x.isInfinite then sign ++ "inf"
  else if x.magnitudeBits = 0 then sign ++ "0.0"
  else
    let d := x.shortest
    sign ++ if rule.isPositional x d then d.positional else d.scientific

end HostCall
