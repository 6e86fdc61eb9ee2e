import HostCall.Value.Basic

/-!
# Values as bytes

Bytes, arrays and scalars show the bytes that they are stored in, the lowest byte of a number
first.
-/

namespace HostCall

/-- The `size` lowest bytes of a number, the lowest first. -/
def lowBytes : (size : Nat) → Nat → List UInt8
  | 0, _ => []
  | size + 1, n => UInt8.ofNat n :: lowBytes size (n / 256)

/-- How many bytes a scalar of the kind takes. -/
def Kind.byteCount : Kind → Nat
  | .boolean | .byte => 1
  | .short | .char => 2
  | .int | .float => 4
  | .long | .double => 8

namespace Scalar

def storedBytes (s : Scalar) : List UInt8 :=
  let size := s.kind.byteCount
  match s with
  | .double x => lowBytes size (if x.isNaN then (Binary.nan : Double).bits else x.bits)
  | .float x => lowBytes size (if x.isNaN then (Binary.nan : Single).bits else x.bits)
  | s => lowBytes size ((s.toInt?.getD 0) % (256 ^ size : Nat)).toNat

end Scalar

/-- The bytes of a value that has some. -/
def Value.buffer? : Value → Option (List UInt8)
  | .bytes bs | .byteArray bs => some bs
  | .scalar s => some s.storedBytes
  | .array _ items _ => some (items.flatMap Scalar.storedBytes)
  | _ => none

end HostCall
