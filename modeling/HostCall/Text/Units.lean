import HostCall.Text.Basic

/-!
# 16-bit units

The UTF-16 form of a text, in which a lone surrogate stands for itself, and the polynomial hash
over it.
-/

namespace HostCall

namespace CodePoint

/-- One unit, or the two halves of a surrogate pair. -/
def units (c : CodePoint) : List Nat :=
  if c.val < 0x10000 then [c.val]
  else [0xD800 + (c.val - 0x10000) / 0x400, 0xDC00 + (c.val - 0x10000) % 0x400]

end CodePoint

namespace Text

def units (t : Text) : List Nat := t.flatMap CodePoint.units

/-- The units as digits in base 31, above the value `h`, modulo `2 ^ 32`. -/
def unitHashFrom (h : Nat) (us : List Nat) : Nat :=
  us.foldl (fun h u => (31 * h + u) % 2 ^ 32) h

def unitHash (t : Text) : Nat := unitHashFrom 0 t.units

theorem units_append (s t : Text) : units (s ++ t) = units s ++ units t := by
  simp [units]

end Text

end HostCall
