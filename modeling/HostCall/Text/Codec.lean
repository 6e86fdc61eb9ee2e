import HostCall.Text.CodePage
import HostCall.Text.Quoted

/-!
# Codecs

A codec reads what stands at the front of bytes or finds a fault there; `FaultHandling` decides what
stands for a fault and how many bytes it takes.  `Codec.decodeFrom` goes through all bytes that way.
-/

namespace HostCall

/-- Why bytes are not decoded. -/
inductive EncodingFault where
  /-- Bytes at a place that mean nothing. -/
  | undecodable (codec : Text) (bytes : List UInt8) (place : Nat) (reason : Text)
  /-- Code points at a place that have no bytes. -/
  | unencodable (codec points : Text) (place : Nat) (reason : Text)
  | unknownEncoding (name : Text)
  /-- A name of a change from bytes to bytes or from text to text. -/
  | notOfText (name : Text)
  | unknownHandling (name : Text)
  /-- A way to treat faults that only an encoder can take. -/
  | onlyForEncoding
  | indirect (name : Text) (cause : EncodingFault)
  deriving DecidableEq

/-! ## Codecs -/

/-- What stands at the front of bytes, and how many bytes after the first it takes. -/
inductive Front where
  | text (t : Text) (more : Nat)
  | fault (more : Nat) (reason : Text)

/-- Which byte of a number comes first. -/
inductive ByteOrder where
  | lowFirst | highFirst
  deriving DecidableEq

/-- The number that bytes stand for. -/
def ByteOrder.number (order : ByteOrder) (bs : List UInt8) : Nat :=
  (if order = .highFirst then bs else bs.reverse).foldl (fun n b => 0x100 * n + b.toNat) 0

/-- A way to read bytes. -/
structure Codec where
  /-- The name that faults show. -/
  name : Text
  front : List UInt8 → Front
  /-- Half of a surrogate pair at the front of bytes, in the form that a code point of its size
  has. -/
  half? : List UInt8 → Option (Nat × Nat) := fun _ => none

namespace Codec

def pointText (n : Nat) : Text := (CodePoint.ofNat? n).toList

/-- The least and the greatest byte at each place after a first byte of UTF-8; overlong forms,
halves of surrogate pairs and all above the last code point are left out. -/
def tailBounds? (a : Nat) : Option (List (Nat × Nat)) :=
  let any := (0x80, 0xBF)
  if a < 0x80 then some []
  else if a < 0xC2 then none
  else if a < 0xE0 then some [any]
  else if a = 0xE0 then some [(0xA0, 0xBF), any]
  else if a = 0xED then some [(0x80, 0x9F), any]
  else if a < 0xF0 then some [any, any]
  else if a = 0xF0 then some [(0x90, 0xBF), any, any]
  else if a < 0xF4 then some [any, any, any]
  else if a = 0xF4 then some [(0x80, 0x8F), any, any]
  else none

/-- The bits of a code point in a first byte of UTF-8 that `count` others follow. -/
def firstBits (count a : Nat) : Nat := if count = 0 then a else a % 2 ^ (6 - count)

/-- Reads the bytes after the first; `n` is the number so far, `more` how many were read. -/
def readTail (n more : Nat) : List (Nat × Nat) → List UInt8 → Front
  | [], _ => .text (pointText n) more
  | _ :: _, [] => .fault more "unexpected end of data"
  | (least, most) :: bounds, b :: bs =>
    if least ≤ b.toNat ∧ b.toNat ≤ most then
      readTail (0x40 * n + b.toNat % 0x40) (more + 1) bounds bs
    else .fault more "invalid continuation byte"

def utf8 : Codec where
  name := "utf-8"
  front
    | [] => .text [] 0
    | a :: bs => match tailBounds? a.toNat with
      | none => .fault 0 "invalid start byte"
      | some bounds => readTail (firstBits bounds.length a.toNat) 0 bounds bs
  half?
    | a :: b :: c :: _ =>
      if a.toNat / 0x10 = 0xE ∧ b.toNat / 0x40 = 2 ∧ c.toNat / 0x40 = 2 then
        some (0x1000 * (a.toNat % 0x10) + 0x40 * (b.toNat % 0x40) + c.toNat % 0x40, 2)
      else none
    | _ => none

/-- The first half of a surrogate pair. -/
def isHighHalf (n : Nat) : Bool := 0xD800 ≤ n && n < 0xDC00

/-- The second half of a surrogate pair. -/
def isLowHalf (n : Nat) : Bool := 0xDC00 ≤ n && n < 0xE000

def utf16 (order : ByteOrder) : Codec where
  name := if order = .lowFirst then "utf-16-le" else "utf-16-be"
  front
    | a :: b :: bs =>
      let n := order.number [a, b]
      if isLowHalf n then .fault 1 "illegal encoding"
      else if !isHighHalf n then .text (pointText n) 1
      else match bs with
        | c :: d :: _ =>
          let m := order.number [c, d]
          if isLowHalf m then .text (pointText (0x10000 + 0x400 * (n - 0xD800) + (m - 0xDC00))) 3
          else .fault 1 "illegal UTF-16 surrogate"
        | bs => .fault (1 + bs.length) "unexpected end of data"
    | _ => .fault 0 "truncated data"
  half?
    | a :: b :: _ => some (order.number [a, b], 1)
    | _ => none

def utf32 (order : ByteOrder) : Codec where
  name := if order = .lowFirst then "utf-32-le" else "utf-32-be"
  front
    | a :: b :: c :: d :: _ =>
      let n := order.number [a, b, c, d]
      if isHighHalf n || isLowHalf n then
        .fault 3 "code point in surrogate code point range(0xd800, 0xe000)"
      else if n < 0x110000 then .text (pointText n) 3
      else .fault 3 "code point not in range(0x110000)"
    | bs => .fault (bs.length - 1) "truncated data"
  half?
    | a :: b :: c :: d :: _ => some (order.number [a, b, c, d], 3)
    | _ => none

/-- A codec that reads one byte at a time. -/
def ofPoint? (name reason : Text) (point? : UInt8 → Option CodePoint) : Codec where
  name
  front
    | [] => .text [] 0
    | b :: _ => match point? b with
      | some c => .text [c] 0
      | none => .fault 0 reason

def ascii : Codec :=
  ofPoint? "ascii" "ordinal not in range(128)" fun b =>
    if b < 0x80 then CodePoint.ofNat? b.toNat else none

def latin1 : Codec := ofPoint? "latin-1" "" fun b => CodePoint.ofNat? b.toNat

def ofPage (p : CodePage) : Codec := ofPoint? "charmap" "character maps to <undefined>" p.point?

/-! ### Escapes -/

/-- The value of a digit below `radix` in ASCII. -/
def digit? (radix : Nat) (b : UInt8) : Option Nat :=
  ((CodePoint.ofNat? b.toNat).bind CodePoint.digitValue?).filter (· < radix)

/-- The values of the digits in front, at most `most` of them. -/
def digitsIn (radix : Nat) : (most : Nat) → List UInt8 → List Nat
  | 0, _ | _, [] => []
  | most + 1, b :: bs => match digit? radix b with
    | some d => d :: digitsIn radix most bs
    | none => []

/-- A code point of exactly `count` hexadecimal digits behind a backslash and a letter. -/
def hexEscape (count : Nat) (truncated tooLarge : Text) (bs : List UInt8) : Front :=
  let ds := digitsIn 16 count bs
  let n := ds.foldl (fun n d => 0x10 * n + d) 0
  if ds.length < count then .fault (1 + ds.length) truncated
  else if n < 0x110000 then .text (pointText n) (1 + count)
  else .fault (1 + count) tooLarge

/-- What one letter behind a backslash stands for. -/
def letterEscapes : List (Char × Text) := [
  ('\n', []), ('\\', "\\"), ('\'', "'"), ('"', "\""), ('b', pointText 8), ('f', pointText 12),
  ('t', "\t"), ('n', "\n"), ('r', "\r"), ('v', pointText 11), ('a', pointText 7)]

/-- A named code point; no name is known. -/
def nameEscape : List UInt8 → Front
  | [] => .fault 1 "malformed \\N character escape"
  | b :: bs =>
    let malformed (more : Nat) : Front := .fault more "malformed \\N character escape"
    if b.toNat ≠ 0x7B then malformed 1
    else
      let name := bs.takeWhile fun b => b.toNat ≠ 0x7D
      if name.length = bs.length then malformed (2 + name.length)
      else if name = [] then malformed 2
      else .fault (3 + name.length) "unknown Unicode character name"

/-- What a backslash stands for in front of these bytes. -/
def escape : List UInt8 → Front
  | [] => .fault 0 "\\ at end of string"
  | b :: bs =>
    let c := Char.ofNat b.toNat
    let octal := digitsIn 8 3 (b :: bs)
    match letterEscapes.lookup c with
    | some t => .text t 1
    | none =>
      if octal ≠ [] then .text (pointText (octal.foldl (fun n d => 8 * n + d) 0)) octal.length
      else if c = 'x' then hexEscape 2 "truncated \\xXX escape" [] bs
      else if c = 'u' then hexEscape 4 "truncated \\uXXXX escape" [] bs
      else if c = 'U' then
        hexEscape 8 "truncated \\UXXXXXXXX escape" "illegal Unicode character" bs
      else if c = 'N' then nameEscape bs
      else .text (Text.concat ["\\", pointText b.toNat]) 1

/-- What a backslash stands for where only code points have escapes. -/
def pointEscape : List UInt8 → Front
  | [] => .text "\\" 0
  | b :: bs =>
    let c := Char.ofNat b.toNat
    if c = 'u' then hexEscape 4 "truncated \\uXXXX escape" [] bs
    else if c = 'U' then hexEscape 8 "truncated \\UXXXXXXXX escape" "\\Uxxxxxxxx out of range" bs
    else .text (Text.concat ["\\", pointText b.toNat]) 1

/-- One byte for a code point, with escapes behind a backslash. -/
def ofEscapes (name : Text) (escape : List UInt8 → Front) : Codec where
  name
  front
    | [] => .text [] 0
    | b :: bs => if b.toNat = 0x5C then escape bs else .text (pointText b.toNat) 0

end Codec

/-! ## Faults -/

/-- How a decoder goes on after a fault. -/
inductive FaultHandling where
  | strict | ignore | replace
  /-- Writes the bytes of a fault as escapes. -/
  | escape
  /-- Keeps each byte from 0x80 on as half of a surrogate pair. -/
  | keepBytes
  /-- Takes halves of surrogate pairs for code points. -/
  | passHalves
  | onlyForEncoding
  | unknown (name : Text)
  deriving DecidableEq

namespace FaultHandling

def ofName (name : Text) : FaultHandling :=
  let named : List (Text × FaultHandling) := [
    ("strict", .strict), ("ignore", .ignore), ("replace", .replace), ("backslashreplace", .escape),
    ("surrogateescape", .keepBytes), ("surrogatepass", .passHalves),
    ("xmlcharrefreplace", .onlyForEncoding), ("namereplace", .onlyForEncoding)]
  (named.lookup name).getD (.unknown name)

/-- What stands for a fault in front of `bytes`, and how many bytes after the first it takes. -/
def resolve (handling : FaultHandling) (codec : Codec) (bytes : List UInt8) (more place : Nat)
    (reason : Text) : Except EncodingFault (Text × Nat) :=
  let faulty := bytes.take (more + 1)
  let fault : EncodingFault := .undecodable codec.name faulty place reason
  match handling with
  | .strict => .error fault
  | .ignore => .ok ([], more)
  | .replace => .ok (Codec.pointText 0xFFFD, more)
  | .escape => .ok (faulty.flatMap fun b => Text.concat ["\\x", hexPadded 2 b.toNat], more)
  | .keepBytes =>
    let kept := (faulty.take 4).takeWhile fun b => 0x80 ≤ b
    if kept = [] then .error fault
    else .ok (kept.flatMap fun b => Codec.pointText (0xDC00 + b.toNat), kept.length - 1)
  | .passHalves =>
    match (codec.half? bytes).filter fun (n, _) => 0xD800 ≤ n && n < 0xE000 with
    | some (n, more) => .ok (Codec.pointText n, more)
    | none => .error fault
  | .onlyForEncoding => .error .onlyForEncoding
  | .unknown name => .error (.unknownHandling name)

end FaultHandling

/-- The text of bytes of which the first stands at `place`. -/
def Codec.decodeFrom (codec : Codec) (handling : FaultHandling) (place : Nat) :
    List UInt8 → Except EncodingFault Text
  | [] => .ok []
  | b :: bs =>
    match codec.front (b :: bs) with
    | .text t more => do
      return t ++ (← codec.decodeFrom handling (place + more + 1) (bs.drop more))
    | .fault more reason => do
      let (t, more) ← handling.resolve codec (b :: bs) more place reason
      return t ++ (← codec.decodeFrom handling (place + more + 1) (bs.drop more))
termination_by bs => bs.length
decreasing_by
  all_goals
    simp only [List.length_drop, List.length_cons]
    omega

end HostCall
