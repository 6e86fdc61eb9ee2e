import HostCall.Value.Convert
import HostCall.Value.Display
import HostCall.Number.Fixed

/-!
# Templates

A template is a text with fields that are filled by values.  A field starts with a percent sign
and ends with a letter; between them stand a key in parentheses, flags, a width, a precision and a
letter for the size, each of which may be missing.  Two percent signs stand for one.
-/

namespace HostCall

/-- What a template is filled with. -/
inductive Supply where
  /-- Values in order; all of them must be used. -/
  | sequence (values : List Value)
  /-- A value that is asked for its parts by key; `next` is what the next field takes. -/
  | keyed (source : Value) (next : Option Value)
  /-- A value without parts, which must be used. -/
  | single (next : Option Value)

namespace Supply

/-- Whether a value is one that can be asked for a part of it. -/
def hasParts (h : Heap) : Value → Bool
  | .list _ | .bytes _ | .byteArray _ | .array .. | .scalar _ => true
  | v => (v.entries? h).isSome

/-- One value as it fills a template: the items of a tuple in order, and any other as a whole. -/
def ofValue (h : Heap) : Value → Supply
  | .tuple a => .sequence (h.items a)
  | v => if hasParts h v then .keyed v (some v) else .single (some v)

def take : Supply → Except HostError (Value × Supply)
  | .sequence (v :: rest) => .ok (v, .sequence rest)
  | .keyed source (some v) => .ok (v, .keyed source none)
  | .single (some v) => .ok (v, .single none)
  | _ => .error (.template .tooFewArguments)

/-- The part of a value that a text names; only mappings have some. -/
def part (h : Heap) (source : Value) (key : Text) : Except HostError Value :=
  match source with
  | .list _ => .error (.sequenceIndex "list" "str")
  | .bytes _ => .error (.sequenceIndex "byte" "str")
  | .byteArray _ => .error (.sequenceIndex "bytearray" "str")
  | .array .. => .error .arrayIndex
  | .scalar _ => .error (.raised .index "invalid index to scalar variable.")
  | v => match (Value.named ((v.entries? h).getD [])).lookup key with
    | some w => .ok w
    | none => .error (.template (.noKey key))

/-- Makes the value of a key the next one. -/
def choose (h : Heap) (key : Text) : Supply → Except HostError Supply
  | .keyed source _ => do return .keyed source (some (← part h source key))
  | _ => .error (.template .needsMapping)

end Supply

structure Flags where
  left : Bool := false
  plus : Bool := false
  blank : Bool := false
  alternate : Bool := false
  zero : Bool := false

/-- How a field is written. -/
structure Field where
  flags : Flags
  width : Nat
  precision : Option Nat
  letter : CodePoint

/-- A written value: sign, mark of the radix, and the rest. -/
structure Written where
  sign : Text := []
  mark : Text := []
  body : Text

namespace Field

def maxWidth : Nat := 2 ^ 63 - 1

def maxPrecision : Nat := 2 ^ 31 - 1

/-! ## Writing -/

/-- The sign of a number: a minus, or what the flags ask for. -/
def signText (fs : Flags) (negative : Bool) : Text :=
  if negative then "-" else if fs.plus then "+" else if fs.blank then " " else ""

def upperAscii (t : Text) : Text := t.map CodePoint.asciiUpper

/-- An integer in the radix of the letter; a decimal one may have too many digits. -/
def writeInteger (x : Field) (n : Int) : Except HostError Written :=
  let (radix, mark) : Nat × Text :=
    if x.letter = 'o' then (8, "0o") else if x.letter = 'x' ∨ x.letter = 'X' then (16, "0x")
    else (10, "")
  if radix = 10 ∧ !isWritable n then .error .numeralTooLong
  else
    let ds := Text.padLeft '0' (x.precision.getD 0) (Text.numeral radix n.natAbs)
    let raise (t : Text) : Text := if x.letter = 'X' then upperAscii t else t
    .ok ⟨signText x.flags (n < 0), if x.flags.alternate then raise mark else [], raise ds⟩

/-- A floating point number in the notation of the letter. -/
def writeReal (x : Field) (v : Double) : Written :=
  let style : DecimalStyle := ⟨x.letter.val < 97, x.flags.alternate⟩
  let places := x.precision.getD 6
  let kind := x.letter.asciiLower
  let body : Text :=
    if v.isNaN then "nan" else if v.isInfinite then "inf"
    else if kind = 'e' then v.exponential style places
    else if kind = 'f' then v.fixed style places
    else v.general style places
  ⟨signText x.flags (v.isNegative && !v.isNaN), [],
    if style.upper then upperAscii body else body⟩

/-- The quoted form in ASCII alone. -/
def asciiQuoted (t : Text) : Text :=
  t.flatMap fun c =>
    if c.val < 0x80 then [c]
    else if c.val < 0x100 then Text.concat ["\\x", hexPadded 2 c.val]
    else if c.val < 0x10000 then Text.concat ["\\u", hexPadded 4 c.val]
    else Text.concat ["\\U", hexPadded 8 c.val]

/-- A value as an integer for a field; real numbers are cut. -/
def integerOf (letter : CodePoint) (v : Value) : Except HostError Int :=
  match v with
  | .boolean _ | .integer _ | .real _ | .scalar _ => v.toInteger
  | .array _ [_] _ => v.toInteger
  | v => .error (.template (.needsReal letter v.errorName))

/-- A value as an integer for a field that does not cut real numbers. -/
def indexOf (letter : CodePoint) (v : Value) : Except HostError Int :=
  match v.index? with
  | some n => .ok n
  | none => .error (.template (.needsInteger letter v.errorName))

def realOf (v : Value) : Except HostError Double :=
  match v with
  | .boolean _ | .integer _ | .real _ | .scalar _ | .array .. => v.toReal
  | v => .error (.template (.needsFloat v.errorName))

/-- A text of one character, or the code of one. -/
def characterOf (v : Value) : Except HostError CodePoint :=
  match v with
  | .text [c] => .ok c
  | v => match indexOf 'c' v with
    | .error _ => .error (.template .needsCharacter)
    | .ok n => match CodePoint.ofInt? n with
      | some c => .ok c
      | none => .error (.template .characterRange)

/-- The value of a field, written by its letter; `index` is where the letter stands. -/
def write (h : Heap) (x : Field) (index : Nat) (v : Value) : Except HostError Written :=
  let cut (t : Text) : Written := { body := t.take (x.precision.getD t.length) }
  let is (letters : String) : Bool := (Text.ofString letters).elem x.letter
  if is "s" then (v.display h).map cut
  else if is "r" then (v.quoted h).map cut
  else if is "a" then (v.quoted h).map fun t => cut (asciiQuoted t)
  else if is "diu" then integerOf x.letter v >>= x.writeInteger
  else if is "oxX" then indexOf x.letter v >>= x.writeInteger
  else if is "eEfFgG" then (realOf v).map x.writeReal
  else if is "c" then (characterOf v).map fun c => { body := [c] }
  else .error (.template (.unknownLetter x.letter index))

/-- Whether zeros may stand between sign and digits. -/
def isNumeric (x : Field) : Bool := (Text.ofString "diuoxXeEfFgG").elem x.letter

/-- Brings what is written to the width of the field. -/
def align (x : Field) (w : Written) : Text :=
  let front := w.sign ++ w.mark
  let missing := x.width - (front.length + w.body.length)
  if x.flags.left then Text.concat [front, w.body, List.replicate missing ' ']
  else if x.flags.zero && x.isNumeric then
    Text.concat [front, List.replicate missing '0', w.body]
  else Text.concat [List.replicate missing ' ', front, w.body]

/-! ## Reading -/

/-- The key up to the closing parenthesis that belongs to the opening one. -/
def readKey : Nat → Text → Option (Text × Text)
  | _, [] => none
  | depth, c :: rest =>
    if c = ')' then
      match depth with
      | 0 => some ([], rest)
      | depth + 1 => (readKey depth rest).map fun (k, rest) => (c :: k, rest)
    else
      (readKey (if c = '(' then depth + 1 else depth) rest).map fun (k, rest) => (c :: k, rest)

def readFlags (fs : Flags) : Text → Flags × Text
  | [] => (fs, [])
  | c :: rest =>
    if c = '-' then readFlags { fs with left := true } rest
    else if c = '+' then readFlags { fs with plus := true } rest
    else if c = ' ' then readFlags { fs with blank := true } rest
    else if c = '#' then readFlags { fs with alternate := true } rest
    else if c = '0' then readFlags { fs with zero := true } rest
    else (fs, c :: rest)

/-- An integer that a width or precision is taken from. -/
def takeInteger (s : Supply) : Except HostError (Int × Supply) := do
  let (v, s) ← s.take
  match v with
  | .integer n => return (n, s)
  | .boolean b => return (b.toInt, s)
  | _ => throw (.template .widthNotInteger)

/-- A number in digits, at most `most`. -/
def readNumber (most : Nat) (tooBig : TemplateFault) (t : Text) :
    Except HostError (Nat × Text) :=
  let ds := t.takeWhile CodePoint.isDecimal
  let n := ds.foldl (fun n c => 10 * n + (c.val - 48)) 0
  if n > most then .error (.template tooBig) else .ok (n, t.drop ds.length)

/-- A width: digits, or a star for the next value; a negative one aligns to the left. -/
def readWidth (fs : Flags) (s : Supply) (t : Text) :
    Except HostError (Flags × Nat × Supply × Text) :=
  match t with
  | [] => .ok (fs, 0, s, [])
  | c :: rest =>
    if c = '*' then do
      let (n, s) ← takeInteger s
      if !fitsLong n then throw .sizeOverflow
      return ({ fs with left := fs.left || n < 0 }, n.natAbs, s, rest)
    else do
      let (n, rest) ← readNumber maxWidth .widthTooBig t
      return (fs, n, s, rest)

/-- A precision behind a point: digits, or a star for the next value; a negative one is zero. -/
def readPrecision (s : Supply) (t : Text) : Except HostError (Option Nat × Supply × Text) :=
  match t with
  | [] => .ok (none, s, [])
  | c :: rest =>
    if c ≠ '.' then .ok (none, s, t)
    else match rest with
      | [] => .ok (some 0, s, [])
      | d :: rest' =>
        if d = '*' then do
          let (n, s) ← takeInteger s
          if n < -2 ^ 31 ∨ n ≥ 2 ^ 31 then throw .characterOverflow
          return (some n.toNat, s, rest')
        else do
          let (n, rest) ← readNumber maxPrecision .precisionTooBig rest
          return (some n, s, rest)

/-- A field behind its percent sign. -/
def read (h : Heap) (s : Supply) (t : Text) : Except HostError (Field × Supply × Text) := do
  let (s, t) ← match t with
    | c :: rest =>
      if c = '(' then
        match s with
        | .keyed .. => match readKey 0 rest with
          | none => throw (.template .openKey)
          | some (key, rest) => pure (← s.choose h key, rest)
        | _ => throw (.template .needsMapping)
      else pure (s, t)
    | [] => pure (s, t)
  let (flags, t) := readFlags {} t
  let (flags, width, s, t) ← readWidth flags s t
  let (precision, s, t) ← readPrecision s t
  let t := match t with
    | c :: rest => if c = 'h' ∨ c = 'l' ∨ c = 'L' then rest else t
    | [] => []
  match t with
  | [] => throw (.template .openField)
  | letter :: rest => return (⟨flags, width, precision, letter⟩, s, rest)

end Field

namespace Template

/-- Fills a template of `size` code points from the text that is left of it. -/
def fillFrom (h : Heap) (size : Nat) : Nat → Supply → Text → Except HostError Text
  | _, .sequence (_ :: _), [] | _, .single (some _), [] =>
    .error (.template .tooManyArguments)
  | _, _, [] => .ok []
  | 0, _, t => .ok t
  | fuel + 1, s, c :: rest => do
    if c ≠ '%' then return c :: (← fillFrom h size fuel s rest)
    if rest.head? = some ('%' : CodePoint) then
      return '%' :: (← fillFrom h size fuel s (rest.drop 1))
    let (x, s, rest) ← Field.read h s rest
    let (v, s) ← s.take
    let w ← x.write h (size - rest.length - 1) v
    return x.align w ++ (← fillFrom h size fuel s rest)

/-- Fills a template. -/
def fill (h : Heap) (s : Supply) (t : Text) : Except HostError Text :=
  fillFrom h t.length t.length s t

end Template

end HostCall
