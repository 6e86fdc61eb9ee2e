import HostCall.Error
import HostCall.Number.Literal
import HostCall.Value.Display

/-!
# Conversions between numbers

Host values as integers and reals, and scalars of a kind made from them.  `Scalar.ofInt` wraps
around; `Scalar.exactly?` refuses what does not fit.

`Scalar.kind_ofInt` and `Scalar.kind_castTo` say that a scalar made for a kind is of that kind.
-/

namespace HostCall

/-- Bytes as the code points of the same values. -/
def bytesAsText (bs : List UInt8) : Text := bs.filterMap fun b => CodePoint.ofNat? b.toNat

/-- Whether an integer fits into 64 bits with a sign. -/
def fitsLong (n : Int) : Bool := -2 ^ 63 ≤ n && n < 2 ^ 63

namespace Scalar

/-- The scalar of a kind next to an integer: integral kinds wrap around, booleans test for zero,
floating point kinds round. -/
def ofInt (k : Kind) (n : Int) : Scalar :=
  match k with
  | .int => .int (Int32.ofInt n)
  | .boolean => .boolean (n != 0)
  | .long => .long (Int64.ofInt n)
  | .byte => .byte (Int8.ofInt n)
  | .short => .short (Int16.ofInt n)
  | .char => .char (UInt16.ofInt n)
  | .double => .double (Binary.ofInt n)
  | .float => .float (Binary.ofInt n)

theorem kind_ofInt (k : Kind) (n : Int) : (ofInt k n).kind = k := by
  cases k <;> rfl

/-- The scalar of a kind that denotes exactly this integer; floating point kinds round. -/
def exactly? (k : Kind) (n : Int) : Option Scalar :=
  match k with
  | .double | .float => some (ofInt k n)
  | _ => if (ofInt k n).toInt? = some n then some (ofInt k n) else none

/-- The lowest number of an integral kind, which stands for every real out of range. -/
def lowest : Kind → Int
  | .long => -2 ^ 63
  | .int => -2 ^ 31
  | _ => 0

/-- A floating point number cut to an integer of a kind.  Numbers out of range have no meaning;
one value stands for all of them. -/
def truncated (k : Kind) (x : Extended) : Scalar :=
  match x.truncate? with
  | some n =>
    if k = .boolean then .boolean (!x.isZero)
    else if k = .long ∨ k = .int then
      if (exactly? k n).isSome then ofInt k n else ofInt k (lowest k)
    else if (exactly? .int n).isSome then ofInt k n else ofInt k 0
  | none => if k = .boolean then .boolean true else ofInt k (lowest k)

/-- A floating point number as a scalar of a kind. -/
def ofBinary {f : FloatFormat} (k : Kind) (x : Binary f) : Scalar :=
  match k with
  | .double => .double x.convert
  | .float => .float x.convert
  | k => truncated k x.value

/-- A scalar as one of another kind. -/
def castTo (k : Kind) : Scalar → Scalar
  | .double x => if k = .double then .double x else ofBinary k x
  | .float x => if k = .float then .float x else ofBinary k x
  | s => ofInt k (s.toInt?.getD 0)

theorem kind_truncated (k : Kind) (x : Extended) : (truncated k x).kind = k := by
  unfold truncated
  repeat' split
  all_goals first
    | exact kind_ofInt k _
    | (rename_i hb; exact hb.symm)

theorem kind_ofBinary {f : FloatFormat} (k : Kind) (x : Binary f) : (ofBinary k x).kind = k := by
  cases k <;> first | rfl | exact kind_truncated _ _

theorem kind_castTo (k : Kind) (s : Scalar) : (castTo k s).kind = k := by
  cases s with
  | double x =>
    simp only [castTo]
    split
    · rename_i h; exact h.symm
    · exact kind_ofBinary k x
  | float x =>
    simp only [castTo]
    split
    · rename_i h; exact h.symm
    · exact kind_ofBinary k x
  | _ => exact kind_ofInt k _

end Scalar

namespace Value

/-- The integer of a floating point number, cut towards zero. -/
def truncateReal (x : Extended) : Except HostError Int :=
  match x with
  | .nan => .error .nanToInteger
  | .infinite _ => .error .infinityToInteger
  | x => .ok (x.truncate?.getD 0)

/-- The integer that a text writes in a radix, or with zero for it in one that the text names. -/
def readInteger (radix : Nat) (quoted t : Text) : Except HostError Int :=
  (Literal.readInteger radix t).mapError fun
    | .invalid => .badInteger radix quoted
    | .tooLong n => .tooManyDigits n

/-- The real written in a text. -/
def readReal (quoted : Text) (t : Text) : Except HostError Double :=
  match Literal.readDouble t with
  | some x => .ok x
  | none => .error (.badReal quoted)

/-- Bytes of ASCII as text; others are no literal. -/
def literalOfBytes (bs : List UInt8) : Text :=
  if bs.all fun b => b.toNat < 128 then bytesAsText bs else "?"

/-- The integer that a text or bytes write; nothing else does. -/
def writtenInteger? (radix : Nat) : Value → Option (Except HostError Int)
  | .text t => some (readInteger radix t.quoted t)
  | .bytes bs | .byteArray bs =>
    some (readInteger radix (quotedBytes (bs.take 200)) (literalOfBytes bs))
  | _ => none

def scalarToInteger : Scalar → Except HostError Int
  | .double x => truncateReal x.value
  | .float x => truncateReal x.value
  | s => .ok (s.toInt?.getD 0)

/-- The integer of a value that counts or stands for a place: one of the host or a scalar that is no
floating point number. -/
def index? : Value → Option Int
  | .boolean b => some b.toInt
  | .integer n => some n
  | .scalar s => s.toInt?
  | _ => none

/-- The integer of a value that counts or stands for a place, which no array does. -/
def toWhole (v : Value) : Except HostError Int :=
  match v.index?, v with
  | some n, _ => .ok n
  | none, .array .. => .error .scalarIndex
  | none, v => .error (.noIndex v.errorName)

/-- What an array of one item stands for. -/
def onlyItem : List Scalar → Except HostError Scalar
  | [s] => .ok s
  | _ => .error (.raised .type "only length-1 arrays can be converted to Python scalars")

/-- A value as an integer: numbers are cut, texts and bytes are read. -/
def toInteger : Value → Except HostError Int
  | .boolean b => .ok b.toInt
  | .integer n => .ok n
  | .real x => truncateReal x.value
  | .scalar s => scalarToInteger s
  | .array _ items _ => do scalarToInteger (← onlyItem items)
  | v => (v.writtenInteger? 10).getD (.error (.notAnInteger v.errorName))

/-- An integer as a real; too large a one is refused. -/
def integerToReal (n : Int) : Except HostError Double :=
  let x : Double := Binary.ofInt n
  if x.isInfinite then .error .doubleOverflow else .ok x

def scalarToReal : Scalar → Double
  | .double x => x
  | .float x => x.convert
  | s => Binary.ofInt (s.toInt?.getD 0)

/-- A value as a real. -/
def toReal : Value → Except HostError Double
  | .boolean b => .ok (Binary.ofInt b.toInt)
  | .integer n => integerToReal n
  | .real x => .ok x
  | .scalar s => .ok (scalarToReal s)
  | .text t => readReal t.quoted t
  | .bytes bs => readReal (quotedBytes bs) (literalOfBytes bs)
  | .byteArray bs => readReal (quotedByteArray bs) (literalOfBytes bs)
  | .array _ items _ => do return scalarToReal (← onlyItem items)
  | v => .error (.notAReal v.errorName)

/-- The truth of an array of these items' truths. -/
def truthOfItems : List Bool → Except HostError Bool
  | [b] => .ok b
  | [] => .error (.ambiguousTruth true)
  | _ => .error (.ambiguousTruth false)

/-- Whether a value counts as true: zero and what is empty do not. -/
def truth (h : Heap) : Value → Except HostError Bool
  | .null => .ok false
  | .boolean b => .ok b
  | .integer n => .ok (n != 0)
  | .real x => .ok !x.value.isZero
  | .scalar s => .ok !s.value.isZero
  | .text t => .ok !t.isEmpty
  | .bytes bs | .byteArray bs => .ok !bs.isEmpty
  | .array _ items _ => truthOfItems (items.map fun s => !s.value.isZero)
  | .list a | .tuple a => .ok !(h.items a).isEmpty
  | v => .ok ((v.entries? h).all fun entries => !entries.isEmpty)

/-- A scalar of a kind made from an integer; integral kinds refuse what does not fit. -/
def integerToScalar (k : Kind) (n : Int) : Except HostError Scalar :=
  match k with
  | .boolean => .ok (.boolean (n != 0))
  | .double | .float => do return Scalar.ofBinary k (← integerToReal n)
  | k =>
    if !fitsLong n then .error .longOverflow
    else match Scalar.exactly? k n with
      | some s => .ok s
      | none => .error (.outOfBounds n (HostType.scalarPath k))

/-- A scalar of a kind made from one value: numbers are cast and texts are read; nothing becomes
`nan`. -/
def toScalar (h : Heap) (k : Kind) : Value → Except HostError Scalar
  | .scalar s => .ok (s.castTo k)
  | .boolean b => .ok (Scalar.ofInt k b.toInt)
  | .integer n => integerToScalar k n
  | .real x =>
    if k = .double ∨ k = .float then .ok (Scalar.ofBinary k x)
    else if k = .boolean then .ok (.boolean !x.value.isZero)
    else do integerToScalar k (← truncateReal x.value)
  | .null =>
    if k = .double ∨ k = .float then .ok (Scalar.ofBinary k (Binary.nan : Double))
    else if k = .boolean then .ok (.boolean false)
    else .error (.notAnInteger (Value.null).errorName)
  | v =>
    if k = .boolean then do return .boolean (← v.truth h)
    else if k = .double ∨ k = .float then do return Scalar.ofBinary k (← v.toReal)
    else do integerToScalar k (← v.toInteger)

/-- A scalar as a number or boolean of the host. -/
def ofScalar : Scalar → Value
  | .boolean b => .boolean b
  | .double x => .real x
  | .float x => .real x.convert
  | s => .integer (s.toInt?.getD 0)

/-- The code point of a one-character text; otherwise the reason why there is none. -/
def toCodePoint : Value → Except HostError Nat
  | .text [c] => .ok c.val
  | .text t => .error (.notOneCharacter t.length)
  | .bytes [b] | .byteArray [b] => .ok b.toNat
  | .bytes bs | .byteArray bs => .error (.notOneCharacter bs.length)
  | v => .error (.notACharacter v.errorName)

/-- The text of one code point. -/
def character (n : Int) : Except HostError Text :=
  match CodePoint.ofInt? n with
  | some c => .ok [c]
  | none => .error (if n < -2 ^ 31 ∨ 2 ^ 31 ≤ n then .characterOverflow else .notACodePoint)

end Value

end HostCall
