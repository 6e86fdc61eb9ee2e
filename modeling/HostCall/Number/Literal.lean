import HostCall.Text.Basic
import HostCall.Text.Blank
import HostCall.Text.Digit
import HostCall.Number.Binary

/-!
# Number literals

Integers in any radix from 2 to 36, or in the one that they name themselves, and decimal floating
point numbers, as they are written in text: blanks around, a sign, digits of any script, and single
underscores between digits.
-/

namespace HostCall

/-- Most digits that are read or written in a radix that is not a power of two. -/
def digitLimit : Nat := 4300

/-- Whether the decimal numeral of an integer has not too many digits to be written. -/
def isWritable (n : Int) : Bool := n.natAbs < 10 ^ digitLimit

theorem isWritable_pow_digitLimit : isWritable (10 ^ digitLimit) = false := by
  simp [isWritable, Int.natAbs_pow]

/-- Numerals of twenty digits are far from too long. -/
theorem isWritable_of_lt {n : Int} (hn : n.natAbs < 10 ^ 20) : isWritable n = true := by
  have hpow : 10 ^ 20 ≤ 10 ^ digitLimit := Nat.pow_le_pow_right (by decide) (by decide)
  exact decide_eq_true (Nat.lt_of_lt_of_le hn hpow)

theorem isWritable_toInt (n : Int32) : isWritable n.toInt = true := by
  have hlow := n.le_toInt
  have hhigh := n.toInt_lt
  exact isWritable_of_lt (by omega)

/-- Why a text is no number. -/
inductive LiteralFault where
  | invalid
  | tooLong (digits : Nat)
  deriving DecidableEq

namespace Literal

/-- ASCII stands for itself; other blanks become spaces and other decimal digits ASCII digits.
The text ends with a question mark at the first code point that is none of these. -/
def normalize : Text → Text
  | [] => []
  | c :: rest =>
    if c.val < 127 then c :: normalize rest
    else if c.isBlank then ' ' :: normalize rest
    else match c.decimalValue? with
      | some d => CodePoint.ofDigit d :: normalize rest
      | none => ['?']

/-- A text of ASCII alone is kept as it is. -/
def normalized (t : Text) : Text :=
  if t.all fun c => c.val < 128 then t else normalize t

def isSpace (c : CodePoint) : Bool := c.val = 32 || (9 ≤ c.val && c.val ≤ 13)

/-- A leading sign: whether it is a minus, and the rest. -/
def splitSign : Text → Bool × Text
  | [] => (false, [])
  | c :: rest =>
    if c = '-' then (true, rest) else if c = '+' then (false, rest) else (false, c :: rest)

/-- The value of a digit of the radix. -/
def digitIn? (radix : Nat) (c : CodePoint) : Option Nat := c.digitValue?.filter (· < radix)

/-- The values of the leading digits, and what follows them.  An underscore may stand between two
digits; `none` when one stands elsewhere. -/
def digitRun (radix : Nat) : Text → Option (List Nat × Text)
  | [] => some ([], [])
  | c :: rest =>
    match digitIn? radix c with
    | none => if c = '_' then none else some ([], c :: rest)
    | some v =>
      match rest with
      | u :: d :: rest' =>
        if u = '_' then
          if (digitIn? radix d).isSome then
            (digitRun radix (d :: rest')).map fun (vs, tail) => (v :: vs, tail)
          else none
        else (digitRun radix (u :: d :: rest')).map fun (vs, tail) => (v :: vs, tail)
      | rest => (digitRun radix rest).map fun (vs, tail) => (v :: vs, tail)

def ofDigits (radix : Nat) (ds : List Nat) : Nat := ds.foldl (fun n d => radix * n + d) 0

/-- The letter after a zero that names a radix. -/
def radixLetter? (radix : Nat) : Option CodePoint :=
  if radix = 16 then some 'x' else if radix = 8 then some 'o' else if radix = 2 then some 'b'
  else none

/-- Drops `0x`, `0o` or `0b` with one underscore after it, where the radix has such a mark. -/
def dropRadixMark (radix : Nat) : Text → Text
  | z :: m :: rest =>
    if z = '0' ∧ radixLetter? radix = some m.asciiLower then
      match rest with
      | c :: rest' => if c = '_' then rest' else rest
      | [] => []
    else z :: m :: rest
  | t => t

def isPowerOfTwo (radix : Nat) : Bool := radix == 2 ^ radix.log2

/-- The natural number written in `radix`, with or without its mark. -/
def readNatural (radix : Nat) (t : Text) : Except LiteralFault Nat :=
  match digitRun radix (dropRadixMark radix t) with
  | none => .error .invalid
  | some (ds, tail) =>
    if !isPowerOfTwo radix && ds.length > digitLimit then .error (.tooLong ds.length)
    else if ds = [] ∨ tail ≠ [] then .error .invalid
    else .ok (ofDigits radix ds)

/-- The natural number written in the radix that its own mark names, in decimal without one.  A
decimal number other than zero does not begin with a zero. -/
def readMarkedNatural (t : Text) : Except LiteralFault Nat :=
  match t with
  | z :: rest =>
    if z = '0' then
      match [16, 8, 2].find? fun r => dropRadixMark r t != t with
      | some radix => readNatural radix t
      | none => do
        let n ← readNatural 10 t
        if n = 0 then return 0 else throw .invalid
    else readNatural 10 (z :: rest)
  | [] => .error .invalid

/-- The integer written in `radix`; with zero for the radix, in the one that its mark names. -/
def readInteger (radix : Nat) (t : Text) : Except LiteralFault Int := do
  let (negative, body) := splitSign (Text.strip isSpace (normalized t))
  let n ← if radix = 0 then readMarkedNatural body else readNatural radix body
  return if negative then -n else n

/-- Underscores stand between two digits and are dropped; `none` when one stands elsewhere. -/
def dropUnderscores (afterDigit : Bool) : Text → Option Text
  | [] => some []
  | c :: rest =>
    if c = '_' then
      match rest with
      | d :: _ => if afterDigit && d.isDecimal then dropUnderscores false rest else none
      | [] => none
    else (dropUnderscores c.isDecimal rest).map (c :: ·)

/-- A decimal exponent behind its letter. -/
def readExponent (t : Text) : Option Int :=
  let (negative, ds) := splitSign t
  if ds = [] ∨ !ds.all CodePoint.isDecimal then none
  else
    let n : Int := ofDigits 10 (ds.map fun c => c.val - 48)
    some (if negative then -n else n)

/-- The number nearest to `digits * 10 ^ exponent`, whatever the size of the exponent. -/
def ofDecimal {f : FloatFormat} (negative : Bool) (digits : Text) (exponent : Int) : Binary f :=
  let significant := digits.dropWhile fun c : CodePoint => c = '0'
  let top := exponent + significant.length
  if significant = [] then Binary.zero negative
  else if top > 400 then Binary.infinity negative
  else if top < -400 then Binary.zero negative
  else
    let n := ofDigits 10 (significant.map fun c => c.val - 48)
    Binary.ofRatio negative (n * 10 ^ exponent.toNat) (10 ^ (-exponent).toNat)

/-- An unsigned decimal number, or one of the words for infinity and `nan`. -/
def readMagnitude (negative : Bool) (t : Text) : Option Double :=
  let word := t.map CodePoint.asciiLower
  if word = "inf" ∨ word = "infinity" then some (Binary.infinity negative)
  else if word = "nan" then some Binary.nan
  else
    let whole := t.takeWhile CodePoint.isDecimal
    let afterWhole := t.dropWhile CodePoint.isDecimal
    let (fraction, afterFraction) := match afterWhole with
      | c :: rest =>
        if c = '.' then (rest.takeWhile CodePoint.isDecimal, rest.dropWhile CodePoint.isDecimal)
        else ([], afterWhole)
      | [] => ([], [])
    if whole = [] ∧ fraction = [] then none
    else
      let number (e : Int) : Double :=
        ofDecimal negative (whole ++ fraction) (e - fraction.length)
      match afterFraction with
      | [] => some (number 0)
      | c :: rest => if c.asciiLower = 'e' then (readExponent rest).map number else none

/-- The floating point number written in decimal. -/
def readDouble (t : Text) : Option Double := do
  let body ← dropUnderscores false (Text.strip isSpace (normalized t))
  let (negative, rest) := splitSign body
  readMagnitude negative rest

end Literal

end HostCall
