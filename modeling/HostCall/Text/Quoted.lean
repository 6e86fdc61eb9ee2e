import HostCall.Text.Basic
import HostCall.Text.Printable

/-!
# Quoted texts

A quoted text stands between single quotes, or between double quotes when it holds a single
quote and no double one.  The mark and the backslash are escaped by a backslash; a code point
that is not printable is written as an escape of two, four or eight hexadecimal digits.
-/

namespace HostCall

/-- The hexadecimal digits of `n`, at least `width` of them. -/
def hexPadded (width n : Nat) : Text := Text.padLeft '0' width (Text.numeral 16 n)

namespace Text

/-- The mark around a quoted text. -/
def quoteMark (t : Text) : CodePoint :=
  if ('\'' : CodePoint) ∈ t ∧ ('"' : CodePoint) ∉ t then '"' else '\''

/-- The written form of one code point between two `mark`s. -/
def escapeCodePoint (mark c : CodePoint) : Text :=
  if c = mark ∨ c = '\\' then ['\\', c]
  else if c = '\t' then "\\t"
  else if c = '\n' then "\\n"
  else if c = '\r' then "\\r"
  else if c.isPrintable then [c]
  else if c.val < 0x100 then concat ["\\x", hexPadded 2 c.val]
  else if c.val < 0x10000 then concat ["\\u", hexPadded 4 c.val]
  else concat ["\\U", hexPadded 8 c.val]

def quoted (t : Text) : Text :=
  let mark := quoteMark t
  [mark] ++ t.flatMap (escapeCodePoint mark) ++ [mark]

end Text

/-- One byte in quotes: printable ASCII stands for itself, every other byte is an escape. -/
def escapeByte (mark c : CodePoint) : Text :=
  if c.val < 0x80 then Text.escapeCodePoint mark c
  else Text.concat ["\\x", hexPadded 2 c.val]

def quotedBytes (bs : List UInt8) : Text :=
  let chars := bs.map fun b => CodePoint.ofChar (Char.ofNat b.toNat)
  let mark := Text.quoteMark chars
  Text.concat ["b", [mark], chars.flatMap (escapeByte mark), [mark]]

/-- Mutable bytes in quotes; a single quote is escaped even between double quotes. -/
def quotedByteArray (bs : List UInt8) : Text :=
  let chars := bs.map fun b => CodePoint.ofChar (Char.ofNat b.toNat)
  let mark := Text.quoteMark chars
  Text.concat ["bytearray(b", [mark], chars.flatMap (escapeByte '\''), [mark], ")"]

end HostCall
