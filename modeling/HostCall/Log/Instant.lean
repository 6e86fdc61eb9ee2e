import HostCall.Error
import HostCall.Value.Convert

/-!
# Instants

Instants in universal time, counted in seconds from the start of 1970, and their texts in the
proleptic Gregorian calendar.
-/

namespace HostCall

structure Instant where
  seconds : Int
  microsecond : Nat
  deriving DecidableEq

namespace Instant

/-- A number rounded to an integer, ties to even. -/
def roundEven : Extended → Int
  | .finite a p =>
    if p ≥ 0 then a * 2 ^ p.toNat
    else
      let n : Int := roundDiv a.natAbs (2 ^ (-p).toNat)
      if a < 0 then -n else n
  | _ => 0

/-- Millionths of the part of a number behind the point, rounded once as a floating point number
and once to an integer. -/
def microseconds (x : Double) (whole : Int) : Int :=
  match x.value with
  | .finite a p =>
    let (a, b) := Extended.align a p whole 0
    let millionths : Double := Binary.ofDyadic false ((a - b) * 1000000) (min p 0)
    roundEven millionths.value
  | _ => 0

/-- The instant that lies so many seconds after the start of 1970. -/
def ofSeconds (x : Double) : Except HostError Instant :=
  match x.value.truncate? with
  | none => .error (if x.isNaN then .noInstant else .instantRange)
  | some whole =>
    let micros := microseconds x whole
    let (seconds, micros) : Int × Int :=
      if micros ≥ 1000000 then (whole + 1, micros - 1000000)
      else if micros < 0 then (whole - 1, micros + 1000000)
      else (whole, micros)
    if fitsLong seconds then .ok ⟨seconds, micros.toNat⟩ else .error .instantRange

/-- The instant that a value counts to in seconds; only real numbers count parts of one. -/
def ofValue : Value → Except HostError Instant
  | .real x | .scalar (.double x) => ofSeconds x
  | v => do
    let n ← v.toWhole
    if fitsLong n then return ⟨n, 0⟩ else throw .instantRange

/-- Year, month and day of a number of days after the start of 1970.  Years start in March here,
so that the day that is left out now and then is the last one. -/
def civil (days : Int) : Int × Nat × Nat :=
  let z := days + 719468
  let era := z.fdiv 146097
  let dayOfEra := (z - era * 146097).toNat
  let yearOfEra := (dayOfEra - dayOfEra / 1460 + dayOfEra / 36524 - dayOfEra / 146096) / 365
  let dayOfYear := dayOfEra - (365 * yearOfEra + yearOfEra / 4 - yearOfEra / 100)
  let m := (5 * dayOfYear + 2) / 153
  let month := if m < 10 then m + 3 else m - 9
  (era * 400 + yearOfEra + (if month ≤ 2 then 1 else 0), month,
    dayOfYear - (153 * m + 2) / 5 + 1)

def padded (width n : Nat) : Text := Text.padLeft '0' width (Text.ofNat n)

/-- Date and time up to the second; years lie between 1 and 9999. -/
def dateAndTime (i : Instant) : Except HostError Text :=
  let days := i.seconds.fdiv 86400
  let rest := (i.seconds - days * 86400).toNat
  let (year, month, day) := civil days
  if year - 1900 < -2 ^ 31 ∨ year - 1900 ≥ 2 ^ 31 then .error .instantPlatform
  else
    let year := year.bmod (2 ^ 32)
    if year < 1 ∨ year > 9999 then .error (.yearRange year)
    else .ok (Text.concat [padded 4 year.toNat, "-", padded 2 month, "-", padded 2 day, "T",
      padded 2 (rest / 3600), ":", padded 2 (rest / 60 % 60), ":", padded 2 (rest % 60)])

/-- Date and time with microseconds, where there are any, and the offset with a colon. -/
def precise (i : Instant) : Except HostError Text := do
  let fraction : Text :=
    if i.microsecond = 0 then [] else Text.concat [".", padded 6 i.microsecond]
  return Text.concat [← i.dateAndTime, fraction, "+00:00"]

/-- Date and time up to the second, with the offset. -/
def brief (i : Instant) : Except HostError Text := do
  return Text.concat [← i.dateAndTime, "+0000"]

end Instant

end HostCall
