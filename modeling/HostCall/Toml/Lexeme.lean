import HostCall.Toml.Item
import HostCall.Number.Literal

/-!
# Lexemes of documents

Readers of single keys, texts, numbers, dates and times.  Each takes the text from its place on
and gives what it read together with the rest.
-/

namespace HostCall.Toml

/-- Why a text is no document. -/
inductive DocumentFault where
  | malformed
  /-- A decimal integer of more digits than are read. -/
  | tooManyDigits (digits : Nat)
  deriving DecidableEq

/-- A reader gives what it read and the rest of the text. -/
abbrev Reading (α : Type) := Except DocumentFault (α × Text)

def isSpace (c : CodePoint) : Bool := c.val = 32 || c.val = 9

def isSpaceOrNewline (c : CodePoint) : Bool := isSpace c || c.val = 10

/-- Control codes; the tab is none. -/
def isControl (c : CodePoint) : Bool := (c.val < 32 && c.val ≠ 9) || c.val = 127

/-- Control codes that may not stand in a text of several lines. -/
def isControlInLines (c : CodePoint) : Bool := isControl c && c.val ≠ 10

def skipSpace (t : Text) : Text := t.dropWhile isSpace

/-- Skips blanks, newlines and comments. -/
def skipTrivia (inComment : Bool) : Text → Option Text
  | [] => some []
  | c :: rest =>
    if inComment then
      if c = '\n' then skipTrivia false rest
      else if isControl c then none
      else skipTrivia true rest
    else if isSpaceOrNewline c then skipTrivia false rest
    else if c = '#' then skipTrivia true rest
    else some (c :: rest)

/-! ## Texts -/

def hexValue? (c : CodePoint) : Option Nat := c.digitValue?.filter (· < 16)

/-- The code point of hexadecimal digits; surrogates are refused. -/
def hexPoint? (ds : Text) : Option CodePoint := do
  let c ← CodePoint.ofNat? (Literal.ofDigits 16 (← ds.mapM hexValue?))
  if c.isSurrogate then none else some c

/-- The code point that a letter behind a backslash stands for. -/
def escaped? (c : CodePoint) : Option CodePoint :=
  if c = 'b' then some ⟨8, by decide⟩ else if c = 't' then some '\t' else if c = 'n' then some '\n'
  else if c = 'f' then some ⟨12, by decide⟩ else if c = 'r' then some '\r'
  else if c = '"' then some '"' else if c = '\\' then some '\\' else none

/-- A text up to its closing quotes; `lines` tells whether it may span lines and ends with three
quotes.  After a backslash at the end of a line blanks and newlines are skipped. -/
def readQuoted (lines skipping : Bool) : Text → Reading Text
  | [] => .error .malformed
  | c :: rest =>
    let more (c : CodePoint) (r : Reading Text) : Reading Text :=
      r.map fun (t, rest) => (c :: t, rest)
    if skipping && isSpaceOrNewline c then readQuoted lines true rest
    else if c = '"' then
      if !lines then .ok ([], rest)
      else match rest with
        | a :: b :: rest' =>
          if a = '"' ∧ b = '"' then .ok ([], rest') else more c (readQuoted lines false rest)
        | _ => .error .malformed
    else if c = '\\' then
      match rest with
      | [] => .error .malformed
      | e :: rest' =>
        if lines && isSpaceOrNewline e then
          if (skipSpace rest).head? = some '\n' then readQuoted lines true rest'
          else .error .malformed
        else if e = 'u' then
          match rest' with
          | a :: b :: c :: d :: rest =>
            match hexPoint? [a, b, c, d] with
            | some p => more p (readQuoted lines false rest)
            | none => .error .malformed
          | _ => .error .malformed
        else if e = 'U' then
          match rest' with
          | a :: b :: c :: d :: a' :: b' :: c' :: d' :: rest =>
            match hexPoint? [a, b, c, d, a', b', c', d'] with
            | some p => more p (readQuoted lines false rest)
            | none => .error .malformed
          | _ => .error .malformed
        else match escaped? e with
          | some p => more p (readQuoted lines false rest')
          | none => .error .malformed
    else if isControl c && !(lines && c.val = 10) then .error .malformed
    else more c (readQuoted lines false rest)

/-- A text without escapes, behind its opening quote. -/
def readLiteral (t : Text) : Reading Text :=
  let body := t.takeWhile fun c : CodePoint => c ≠ '\''
  if body.any isControl then .error .malformed
  else match t.drop body.length with
    | _ :: rest => .ok (body, rest)
    | [] => .error .malformed

/-- The newline right behind opening quotes is not part of the text. -/
def dropNewline : Text → Text
  | c :: rest => if c = '\n' then rest else c :: rest
  | [] => []

/-- One or two more quotes behind the closing ones belong to the text. -/
def withExtraQuotes (quote : CodePoint) (t rest : Text) : Text × Text :=
  let extra := (rest.take 2).takeWhile (· = quote)
  (t ++ extra, rest.drop extra.length)

/-- A text of several lines without escapes, behind its opening quotes. -/
def readLiteralLines (t : Text) : Reading Text :=
  match Text.cut? "'''" (dropNewline t) with
  | none => .error .malformed
  | some (body, rest) =>
    if body.any isControlInLines then .error .malformed
    else .ok (withExtraQuotes '\'' body rest)

/-- A text of several lines with escapes, behind its opening quotes. -/
def readQuotedLines (t : Text) : Reading Text :=
  (readQuoted true false (dropNewline t)).map fun (t, rest) => withExtraQuotes '"' t rest

/-! ## Keys -/

def isBareKey (c : CodePoint) : Bool :=
  c.isDecimal || c = '-' || c = '_' || (c.asciiLower.val ≥ 97 && c.asciiLower.val ≤ 122)

def readKeyPart (t : Text) : Reading Text :=
  match t with
  | [] => .error .malformed
  | c :: rest =>
    if isBareKey c then .ok (t.takeWhile isBareKey, t.dropWhile isBareKey)
    else if c = '\'' then readLiteral rest
    else if c = '"' then readQuoted false false rest
    else .error .malformed

/-- Parts with points between them; blanks may stand around each part. -/
def readKeyWithin : Nat → Text → Except DocumentFault (Key × Text)
  | 0, _ => .error .malformed
  | fuel + 1, t => do
    let (part, t) ← readKeyPart t
    match skipSpace t with
    | c :: rest =>
      if c = '.' then
        let (parts, t) ← readKeyWithin fuel (skipSpace rest)
        return (part :: parts, t)
      else return ([part], c :: rest)
    | [] => return ([part], [])

def readKey (t : Text) : Reading Key := readKeyWithin (t.length + 1) t

/-! ## Numbers -/

/-- Digits of a class with single underscores between them: the digits, and the rest. -/
def takeDigits (p : CodePoint → Bool) : Text → Text × Text
  | [] => ([], [])
  | c :: rest =>
    if p c then
      match rest with
      | u :: d :: rest' =>
        if u = '_' ∧ p d then
          let (ds, tail) := takeDigits p (d :: rest')
          (c :: ds, tail)
        else
          let (ds, tail) := takeDigits p (u :: d :: rest')
          (c :: ds, tail)
      | rest =>
        let (ds, tail) := takeDigits p rest
        (c :: ds, tail)
    else ([], c :: rest)

/-- An integer behind `0x`, `0o` or `0b`. -/
def readRadix? (t : Text) : Option (Int × Text) :=
  match t with
  | z :: m :: rest =>
    if z ≠ '0' then none
    else
      let read (radix : Nat) : Option (Int × Text) :=
        let (ds, tail) := takeDigits (fun c => (c.digitValue?.filter (· < radix)).isSome) rest
        if ds = [] then none
        else some (Literal.ofDigits radix (ds.filterMap CodePoint.digitValue?), tail)
      if m = 'x' then read 16 else if m = 'o' then read 8 else if m = 'b' then read 2 else none
  | _ => none

/-- The digits behind a mark; nothing is read where no digit follows. -/
def digitsBehind (mark : CodePoint → Bool) (t : Text) : Option (Text × Text) :=
  match t with
  | c :: rest =>
    if mark c then
      match takeDigits CodePoint.isDecimal rest with
      | ([], _) => none
      | r => some r
    else none
  | [] => none

/-- An exponent: whether it is negative, and its digits. -/
def readExponent? (t : Text) : Option (Int × Text) :=
  match t with
  | c :: rest =>
    if c.asciiLower = 'e' then
      let (negative, rest) := Literal.splitSign rest
      match takeDigits CodePoint.isDecimal rest with
      | ([], _) => none
      | (ds, tail) =>
        let n : Int := Literal.ofDigits 10 (ds.filterMap CodePoint.digitValue?)
        some (if negative then -n else n, tail)
    else none
  | [] => none

/-- A decimal integer or a floating point number. -/
def readDecimal? (t : Text) : Option (Reading Value) :=
  let (negative, t) := Literal.splitSign t
  let (whole, rest) : Text × Text := match t with
    | c :: rest => if c = '0' then ([c], rest) else takeDigits CodePoint.isDecimal t
    | [] => ([], [])
  if whole = [] then none
  else
    let fraction := digitsBehind (· = '.') rest
    let afterFraction := (fraction.map Prod.snd).getD rest
    let exponent := readExponent? afterFraction
    if fraction.isSome ∨ exponent.isSome then
      let ds := (fraction.map Prod.fst).getD []
      let e := (exponent.map Prod.fst).getD 0
      some (.ok (.real (Literal.ofDecimal negative (whole ++ ds) (e - ds.length)),
        (exponent.map Prod.snd).getD afterFraction))
    else if whole.length > digitLimit then some (.error (.tooManyDigits whole.length))
    else
      let n : Int := Literal.ofDigits 10 (whole.filterMap CodePoint.digitValue?)
      some (.ok (.integer (if negative then -n else n), rest))

/-- A signed infinity or `nan`. -/
def readSpecial? (t : Text) : Option (Value × Text) :=
  let (negative, rest) := Literal.splitSign t
  if Text.startsWith "inf" rest then some (.real (Binary.infinity negative), rest.drop 3)
  else if Text.startsWith "nan" rest then some (.real Binary.nan, rest.drop 3)
  else none

/-! ## Dates and times -/

/-- Exactly `n` digits whose number lies in a range. -/
def readField? (n low high : Nat) (t : Text) : Option (Nat × Text) :=
  let ds := t.take n
  if ds.length = n ∧ ds.all CodePoint.isDecimal then
    let v := Literal.ofDigits 10 (ds.filterMap CodePoint.digitValue?)
    if low ≤ v ∧ v ≤ high then some (v, t.drop n) else none
  else none

/-- The rest behind one code point of a class. -/
def readMark? (p : CodePoint → Bool) : Text → Option Text
  | c :: rest => if p c then some rest else none
  | [] => none

/-- Days of a month of the Gregorian calendar. -/
def daysIn (year month : Nat) : Nat :=
  if month = 2 then
    if year % 4 = 0 ∧ (year % 100 ≠ 0 ∨ year % 400 = 0) then 29 else 28
  else if month = 4 ∨ month = 6 ∨ month = 9 ∨ month = 11 then 30
  else 31

/-- A date by its form; the day may still lie beyond its month. -/
def readDate? (t : Text) : Option (Date × Text) := do
  let (year, t) ← readField? 4 0 9999 t
  let (month, t) ← readField? 2 1 12 (← readMark? (· = '-') t)
  let (day, t) ← readField? 2 1 31 (← readMark? (· = '-') t)
  return (⟨year, month, day⟩, t)

/-- The first six digits behind a point as microseconds; further digits are dropped. -/
def readFraction (t : Text) : Nat × Text :=
  match t with
  | c :: rest =>
    let ds := rest.takeWhile CodePoint.isDecimal
    if c = '.' ∧ ds ≠ [] then
      (Literal.ofDigits 10 ((Text.padRight '0' 6 (ds.take 6)).filterMap CodePoint.digitValue?),
        rest.drop ds.length)
    else (0, t)
  | [] => (0, t)

def readTime? (t : Text) : Option (TimeOfDay × Text) := do
  let (hour, t) ← readField? 2 0 23 t
  let (minute, t) ← readField? 2 0 59 (← readMark? (· = ':') t)
  let (second, t) ← readField? 2 0 59 (← readMark? (· = ':') t)
  let (micro, t) := readFraction t
  return (⟨hour, minute, second, micro⟩, t)

/-- An offset from universal time in minutes. -/
def readOffset? (t : Text) : Option (Int × Text) :=
  match t with
  | c :: rest =>
    if c.asciiLower = 'z' then some (0, rest)
    else if c = '+' ∨ c = '-' then do
      let (hours, t) ← readField? 2 0 23 rest
      let (minutes, t) ← readField? 2 0 59 (← readMark? (· = ':') t)
      let n : Int := 60 * hours + minutes
      return (if c = '-' then -n else n, t)
    else none
  | [] => none

/-- A date, with a time behind it where one follows. -/
def readMoment? (t : Text) : Option (Reading Item) := do
  let (d, rest) ← readDate? t
  if d.year = 0 ∨ daysIn d.year d.month < d.day then return .error .malformed
  let time := (readMark? (fun c => c.asciiLower = 't' || c = ' ') rest).bind readTime?
  match time with
  | none => return .ok (.date d, rest)
  | some (time, rest) =>
    match readOffset? rest with
    | none => return .ok (.moment d time none, rest)
    | some (offset, rest) => return .ok (.moment d time (some offset), rest)

/-- A date, a time or a number. -/
def readScalar (t : Text) : Reading Item :=
  match readMoment? t with
  | some r => r
  | none =>
    match readTime? t with
    | some (time, rest) => .ok (.time time, rest)
    | none =>
      match readRadix? t with
      | some (n, rest) => .ok (.leaf (.integer n), rest)
      | none =>
        match readDecimal? t with
        | some r => r.map fun (v, rest) => (.leaf v, rest)
        | none =>
          match readSpecial? t with
          | some (v, rest) => .ok (.leaf v, rest)
          | none => .error .malformed

end HostCall.Toml
