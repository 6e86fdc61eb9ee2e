import HostCall.Text.Codec

/-!
# Encodings

Texts as bytes in an encoding that is chosen by name.  The bytes are read by a codec, which a mark
in front of them may decide.
-/

namespace HostCall

/-- A way to write texts as bytes.  Without an order, a mark in front of the bytes tells it. -/
inductive Encoding where
  | utf8
  /-- UTF-8 behind a mark that may be missing. -/
  | markedUtf8
  | utf16 (order : Option ByteOrder)
  | utf32 (order : Option ByteOrder)
  | ascii
  | latin1
  | page (p : CodePage)
  | escapes
  | pointEscapes

namespace Encoding

/-- The order that a mark in front tells, and whether there is one. -/
def markedOrder (size : Nat) (bytes : List UInt8) : ByteOrder × Bool :=
  let isMark (order : ByteOrder) : Bool :=
    size ≤ bytes.length && order.number (bytes.take size) == 0xFEFF
  if isMark .lowFirst then (.lowFirst, true)
  else if isMark .highFirst then (.highFirst, true)
  else (.lowFirst, false)

/-- The text of bytes. -/
def decode (e : Encoding) (handling : FaultHandling) (bytes : List UInt8) :
    Except EncodingFault Text :=
  let marked (size : Nat) (codec : ByteOrder → Codec) : Except EncodingFault Text :=
    let (order, hasMark) := markedOrder size bytes
    let size := if hasMark then size else 0
    (codec order).decodeFrom handling size (bytes.drop size)
  match e with
  | .utf8 => Codec.utf8.decodeFrom handling 0 bytes
  | .markedUtf8 =>
    let size := if bytes.take 3 = [0xEF, 0xBB, 0xBF] then 3 else 0
    Codec.utf8.decodeFrom handling 0 (bytes.drop size)
  | .utf16 none => marked 2 Codec.utf16
  | .utf16 (some order) => (Codec.utf16 order).decodeFrom handling 0 bytes
  | .utf32 none => marked 4 Codec.utf32
  | .utf32 (some order) => (Codec.utf32 order).decodeFrom handling 0 bytes
  | .ascii => Codec.ascii.decodeFrom handling 0 bytes
  | .latin1 => Codec.latin1.decodeFrom handling 0 bytes
  | .page p => (Codec.ofPage p).decodeFrom handling 0 bytes
  | .escapes => (Codec.ofEscapes "unicodeescape" Codec.escape).decodeFrom handling 0 bytes
  | .pointEscapes =>
    (Codec.ofEscapes "rawunicodeescape" Codec.pointEscape).decodeFrom handling 0 bytes

/-- Why a text has no bytes in UTF-8: the first halves of surrogate pairs in it.  Where bytes are
escaped, a half with the low byte of one that is no text stands for it. -/
def unencodable? (escaped : Bool) (t : Text) : Option EncodingFault :=
  let isByte (c : CodePoint) : Bool := escaped && 0xDC80 ≤ c.val && c.val ≤ 0xDCFF
  let front := t.takeWhile fun c => isByte c || !c.isSurrogate
  match (t.drop front.length).takeWhile CodePoint.isSurrogate with
  | [] => none
  | halves => some (.unencodable "utf-8" halves front.length "surrogates not allowed")

/-! ## Names -/

/-- A name as it is looked up: letters and digits of ASCII and points, in lower case, with one
underscore for whatever stands between them. -/
def plainName (name : Text) : Text :=
  let isKept (c : CodePoint) : Bool := c.val < 0x80 && c.digitValue?.isSome || c = '.'
  let (kept, _) := name.foldl (fun (kept, gap) c =>
    if isKept c then
      (Text.concat [kept, if gap && kept != [] then "_" else [], [c.asciiLower]], false)
    else (kept, true)) (([], false) : Text × Bool)
  kept

/-- The encodings, each with its name and others. -/
def known : List (String × List String × Encoding) := [
  ("utf_8", ["cp65001", "u8", "utf", "utf8", "utf8_ucs2", "utf8_ucs4"], .utf8),
  ("utf_8_sig", [], .markedUtf8),
  ("utf_16", ["u16", "utf16"], .utf16 none),
  ("utf_16_le", ["unicodelittleunmarked", "utf_16le"], .utf16 (some .lowFirst)),
  ("utf_16_be", ["unicodebigunmarked", "utf_16be"], .utf16 (some .highFirst)),
  ("utf_32", ["u32", "utf32"], .utf32 none),
  ("utf_32_le", ["utf_32le"], .utf32 (some .lowFirst)),
  ("utf_32_be", ["utf_32be"], .utf32 (some .highFirst)),
  ("ascii", ["646", "ansi_x3.4_1968", "ansi_x3.4_1986", "ansi_x3_4_1968", "cp367", "csascii",
    "ibm367", "iso646_us", "iso_646.irv_1991", "iso_ir_6", "us", "us_ascii"], .ascii),
  ("latin_1", ["8859", "cp819", "csisolatin1", "ibm819", "iso8859", "iso8859_1", "iso_8859_1",
    "iso_8859_1_1987", "iso_ir_100", "l1", "latin", "latin1"], .latin1),
  ("charmap", [], .latin1),
  ("unicode_escape", [], .escapes),
  ("raw_unicode_escape", [], .pointEscapes)] ++
  CodePage.all.map fun p => (p.name, p.others, .page p)

/-- Changes that read no text out of bytes. -/
def notOfText : List (String × List String) := [
  ("base64_codec", ["base64", "base_64"]), ("bz2_codec", ["bz2"]), ("hex_codec", ["hex"]),
  ("quopri_codec", ["quopri", "quoted_printable", "quotedprintable"]), ("rot_13", ["rot13"]),
  ("uu_codec", ["uu"]), ("zlib_codec", ["zip", "zlib"])]

/-- The encodings that are found without a search, by these plain names. -/
def direct? (plain : Text) : Option Encoding :=
  let named : List (Text × Encoding) := [
    ("utf8", .utf8), ("utf_8", .utf8), ("utf16", .utf16 none), ("utf_16", .utf16 none),
    ("utf32", .utf32 none), ("utf_32", .utf32 none), ("ascii", .ascii), ("us_ascii", .ascii),
    ("latin1", .latin1), ("latin_1", .latin1), ("iso_8859_1", .latin1), ("iso8859_1", .latin1)]
  named.lookup plain

/-- Whether a plain name is among these; a point in it may stand for an underscore of one of the
other names. -/
def isNamed (plain : Text) (name : String) (others : List String) : Bool :=
  let others := others.map Text.ofString
  plain == Text.ofString name || others.contains plain ||
    others.contains (Text.replace '.' '_' plain)

/-- The text of bytes in the encoding of this name. -/
def decodeNamed (name : Text) (handling : FaultHandling) (bytes : List UInt8) :
    Except EncodingFault Text :=
  let plain := plainName name
  match direct? plain with
  | some e => e.decode handling bytes
  | none =>
    match known.find? fun (n, others, _) => isNamed plain n others with
    | some (_, _, e) => (e.decode handling bytes).mapError fun
      | .undecodable codec bs place reason => .undecodable codec bs place reason
      | fault => .indirect name fault
    | none =>
      if notOfText.any fun (n, others) => isNamed plain n others then .error (.notOfText name)
      else .error (.unknownEncoding name)

end Encoding

end HostCall
