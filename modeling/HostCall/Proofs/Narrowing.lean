import HostCall.Proofs.ExactConversion
import HostCall.Value.Arithmetic
import Mathlib.Data.Int.ModEq

/-!
# Narrowing

A register keeps bytes, shorts, chars and ints alike, so the reader narrows what it finds to the
kind that it declares.  Scalars are cast, and integers of the host go through 64 bits, with a sign
or without one: those that do not fit are refused, although their residue would be as good as any.
The refusal quotes the integer, and one with too many digits to be written is an error of the host
instead.  Behind both there is `Scalar.ofInt`, which looks at the residue alone (`ofInt_congr`).  So
a kind has one scalar for each residue (`isResidue_iff`), and the bits that a wider kind drops are
bits that a narrower one would drop as well.

Main statement, `narrow_wraps`: what narrowing gives, where it fails, and that a second narrowing
may pass over the first.
-/

namespace HostCall

open Result

/-- Bits of the integers of a kind.  Booleans and floating point kinds have none. -/
def Kind.bits? : Kind → Option Nat
  | .byte => some 8
  | .short | .char => some 16
  | .int => some 32
  | .long => some 64
  | .boolean | .double | .float => none

theorem Kind.ne_boolean_of_bits? {k : Kind} {w : Nat} (hk : k.bits? = some w) : k ≠ .boolean := by
  rintro rfl
  cases hk

/-! ## Residues -/

/-- The residue by which a kind of so many bits denotes an integer; chars have no sign. -/
def Kind.residue (k : Kind) (w : Nat) (n : Int) : Int :=
  if k = .char then n % 2 ^ w else n.bmod (2 ^ w)

theorem Kind.residue_modEq (k : Kind) (w : Nat) (n : Int) : k.residue w n ≡ n [ZMOD 2 ^ w] := by
  rw [residue]
  split
  · exact Int.mod_modEq n _
  · have hbmod : n.bmod (2 ^ w) % ((2 ^ w : Nat) : Int) = n % ((2 ^ w : Nat) : Int) :=
      Int.bmod_emod
    rw [Nat.cast_pow] at hbmod
    exact hbmod

theorem Kind.residue_congr {k : Kind} {w : Nat} {m n : Int} (h : m ≡ n [ZMOD 2 ^ w]) :
    k.residue w m = k.residue w n := by
  rw [residue, residue]
  split
  · exact h
  · have hmod : m % ((2 ^ w : Nat) : Int) = n % ((2 ^ w : Nat) : Int) := by
      rw [Nat.cast_pow]
      exact h
    rw [← Int.emod_bmod m, ← Int.emod_bmod n, hmod]

namespace Scalar

/-- A scalar of a kind of so many bits that is congruent to an integer. -/
def IsResidue (k : Kind) (w : Nat) (n : Int) (s : Scalar) : Prop :=
  s.kind = k ∧ ∃ m, s.toInt? = some m ∧ m ≡ n [ZMOD 2 ^ w]

variable {k : Kind} {w : Nat}

/-- The scalar that is made from an integer denotes its residue. -/
theorem toInt?_ofInt_residue (hk : k.bits? = some w) (n : Int) :
    (ofInt k n).toInt? = some (k.residue w n) := by
  cases k with
  | byte =>
    cases hk
    exact congrArg some Int8.toInt_ofInt
  | short =>
    cases hk
    exact congrArg some Int16.toInt_ofInt
  | int =>
    cases hk
    exact congrArg some Int32.toInt_ofInt
  | long =>
    cases hk
    exact congrArg some Int64.toInt_ofInt
  | char =>
    cases hk
    have hval : ((UInt16.ofInt n).toNat : Int) = n % 2 ^ 16 := by
      rw [UInt16.ofInt, UInt16.toNat_ofNat']
      omega
    exact congrArg some hval
  | boolean => cases hk
  | double => cases hk
  | float => cases hk

/-- Congruent integers make the same scalar. -/
theorem ofInt_congr (hk : k.bits? = some w) {m n : Int} (h : m ≡ n [ZMOD 2 ^ w]) :
    ofInt k m = ofInt k n := by
  have hm := ofInt_of_toInt? (toInt?_ofInt_residue hk m)
  have hn := ofInt_of_toInt? (toInt?_ofInt_residue hk n)
  rw [kind_ofInt] at hm hn
  rw [← hm, ← hn, Kind.residue_congr h]

/-- A kind has one scalar for each residue. -/
theorem isResidue_iff (hk : k.bits? = some w) {n : Int} {s : Scalar} :
    s.IsResidue k w n ↔ s = ofInt k n := by
  constructor
  · rintro ⟨rfl, m, hm, hmod⟩
    rw [← ofInt_congr hk hmod, ofInt_of_toInt? hm]
  · rintro rfl
    exact ⟨kind_ofInt k n, _, toInt?_ofInt_residue hk n, Kind.residue_modEq k w n⟩

end Scalar

/-! ## What narrowing gives -/

namespace Value

variable {h : Heap} {v : Value} {n : Int} {k : Kind} {w : Nat}

theorem narrow_letter (h : Heap) (v : Value) (k : Kind) :
    v.narrow h [k.letter] = (narrowTo h k v).map .scalar := by
  have hk : Kind.ofText? [k.letter] = some k := Kind.ofLetter?_letter k
  simp only [narrow, hk]

/-- The number of a scalar fits into 64 bits with a sign. -/
theorem fits_of_toInt? {s : Scalar} (hs : s.toInt? = some n) : -2 ^ 63 ≤ n ∧ n < 2 ^ 64 := by
  have hholds := Scalar.holds_of_toInt? hs
  cases hkind : s.kind <;> rw [hkind] at hholds <;> simp only [Kind.Holds] at hholds <;> omega

theorem narrowInteger_of_fits (k : Kind) (hn : -2 ^ 63 ≤ n ∧ n < 2 ^ 64) :
    narrowInteger k n = .ok (Scalar.ofInt k n) := if_pos hn

theorem narrowInteger_of_not_fits (hk : k.bits? = some w) (hn : ¬ (-2 ^ 63 ≤ n ∧ n < 2 ^ 64)) :
    narrowInteger k n = .error .longOverflow := by
  cases k with
  | boolean => cases hk
  | double => cases hk
  | float => cases hk
  | _ => exact if_neg hn

/-- Whatever stands for a number is narrowed as the integer that it stands for. -/
theorem narrowTo_of_denoted? (hv : v.denoted? = some n) (hk : k ≠ .boolean) :
    narrowTo h k v = (narrowInteger k n).mapError (castRefused h k v) := by
  unfold denoted? at hv
  split at hv
  · rename_i c
    cases hv
    simp only [narrowTo, if_neg hk]
  · cases v with
    | boolean b =>
      cases hv
      simp only [narrowTo, if_neg hk]
    | integer m =>
      cases hv
      simp only [narrowTo, if_neg hk]
    | scalar s =>
      have hs : s.toInt? = some n := hv
      rw [narrowInteger_of_fits k (fits_of_toInt? hs), ← Scalar.castTo_eq_ofInt k hs]
      rfl
    | _ => cases hv

theorem narrowTo_boolean (hv : v.denoted? = some n) :
    narrowTo h .boolean v = .ok (.boolean (n != 0)) := by
  unfold denoted? at hv
  split at hv
  · cases hv
    rfl
  · cases v with
    | boolean b =>
      cases hv
      rfl
    | integer m =>
      cases hv
      rfl
    | scalar s => exact congrArg Except.ok (Scalar.castTo_eq_ofInt .boolean hv)
    | _ => cases hv

theorem narrow_of_fits (hv : v.denoted? = some n) (hk : k.bits? = some w)
    (hn : -2 ^ 63 ≤ n ∧ n < 2 ^ 64) :
    v.narrow h [k.letter] = .ok (.scalar (Scalar.ofInt k n)) := by
  rw [narrow_letter, narrowTo_of_denoted? hv (Kind.ne_boolean_of_bits? hk),
    narrowInteger_of_fits k hn]
  rfl

/-- Only the integers of the host do not fit. -/
theorem eq_integer_of_not_fits (hv : v.denoted? = some n) (hn : ¬ (-2 ^ 63 ≤ n ∧ n < 2 ^ 64)) :
    v = .integer n := by
  unfold denoted? at hv
  split at hv
  · rename_i c
    cases hv
    have hc := c.isValid
    omega
  · cases v with
    | integer m =>
      cases hv
      rfl
    | boolean b =>
      cases hv
      have hb := Bool.toInt_bounds b
      omega
    | scalar s => exact absurd (fits_of_toInt? hv) hn
    | _ => cases hv

theorem castRefused_integer (h : Heap) (k : Kind) (n : Int) (cause : HostError) :
    castRefused h k (.integer n) cause =
      if isWritable n then .mismatch (.castValue (Text.ofInt n) k cause)
      else .host .numeralTooLong := by
  have hquoted : (Value.integer n).quoted h = decimalText n := rfl
  rw [castRefused, hquoted, decimalText]
  cases isWritable n <;> rfl

theorem narrow_of_not_fits (hv : v.denoted? = some n) (hk : k.bits? = some w)
    (hn : ¬ (-2 ^ 63 ≤ n ∧ n < 2 ^ 64)) :
    v.narrow h [k.letter] = .error (if isWritable n
      then .mismatch (.castValue (Text.ofInt n) k .longOverflow) else .host .numeralTooLong) := by
  rw [narrow_letter, narrowTo_of_denoted? hv (Kind.ne_boolean_of_bits? hk),
    narrowInteger_of_not_fits hk hn, eq_integer_of_not_fits hv hn, ← castRefused_integer h]
  rfl

/-- A narrowing to a kind that is no wider may pass over the one before it. -/
theorem narrow_narrow {l : Kind} {u : Nat} {a : Value} (hv : v.denoted? = some n)
    (hk : k.bits? = some w) (hl : l.bits? = some u) (hle : u ≤ w)
    (ha : v.narrow h [k.letter] = .ok a) : a.narrow h [l.letter] = v.narrow h [l.letter] := by
  by_cases hn : -2 ^ 63 ≤ n ∧ n < 2 ^ 64
  · rw [narrow_of_fits hv hk hn] at ha
    cases ha
    have hm := Scalar.toInt?_ofInt_residue hk n
    have hmod : k.residue w n ≡ n [ZMOD 2 ^ u] :=
      (Kind.residue_modEq k w n).of_dvd (pow_dvd_pow 2 hle)
    rw [narrow_of_fits hv hl hn, narrow_of_fits (v := .scalar (Scalar.ofInt k n)) hm hl
      (fits_of_toInt? hm), Scalar.ofInt_congr hl hmod]
  · rw [narrow_of_not_fits hv hk hn] at ha
    cases ha

/-- **Narrowing wraps around.**  A value that stands for an integer is narrowed to the one scalar of
an integral kind that is congruent to it, where the integer fits into 64 bits with or without a
sign; elsewhere there is a mismatch if the integer can be written, and an error of the host if it
has too many digits.  As a boolean it is whether the integer is zero, whatever its size.  And a
narrowing to a kind that is no wider may pass over the one before it. -/
theorem narrow_wraps (h : Heap) (v : Value) (n : Int) (hv : v.denoted? = some n) :
    (∀ (k : Kind) (w : Nat), k.bits? = some w →
      (-2 ^ 63 ≤ n → n < 2 ^ 64 → ∃ s, v.narrow h [k.letter] = .ok (.scalar s) ∧
        ∀ s' : Scalar, s'.IsResidue k w n ↔ s' = s) ∧
      (n < -2 ^ 63 ∨ 2 ^ 64 ≤ n →
        (isWritable n = true → ∃ e, v.narrow h [k.letter] = .error (.mismatch e) ∧
          (BridgeError.mismatch e).kind = .argumentMismatch) ∧
        (isWritable n = false → v.narrow h [k.letter] = .error (.host .numeralTooLong)))) ∧
    v.narrow h [Kind.boolean.letter] = .ok (.scalar (.boolean (n != 0))) ∧
    ∀ (k l : Kind) (w u : Nat) (a : Value), k.bits? = some w → l.bits? = some u → u ≤ w →
      v.narrow h [k.letter] = .ok a → a.narrow h [l.letter] = v.narrow h [l.letter] := by
  refine ⟨fun k w hk => ⟨?_, ?_⟩, ?_, ?_⟩
  · intro hlow hhigh
    exact ⟨Scalar.ofInt k n, narrow_of_fits hv hk ⟨hlow, hhigh⟩, fun s' => Scalar.isResidue_iff hk⟩
  · intro hout
    rw [narrow_of_not_fits hv hk (by omega)]
    constructor
    · intro hwritable
      rw [if_pos hwritable]
      exact ⟨_, rfl, rfl⟩
    · intro hwritable
      rw [hwritable, if_neg Bool.false_ne_true]
  · rw [narrow_letter, narrowTo_boolean hv]
    rfl
  · intro k l w u a hk hl hle ha
    exact narrow_narrow hv hk hl hle ha

/-- The integer `2 ^ 64 - 56` is the long `-56`, and that is the byte that it is at once; `2 ^ 64`
is no byte, and true. -/
theorem narrow_around_64_bits :
    let v : Value := .integer (2 ^ 64 - 56)
    let out : Value := .integer (2 ^ 64)
    v.denoted? = some (2 ^ 64 - 56) ∧ out.denoted? = some (2 ^ 64) ∧
      v.narrow {} [Kind.long.letter] = .ok (.scalar (.long (-56))) ∧
      (Value.scalar (.long (-56))).narrow {} [Kind.byte.letter] =
        v.narrow {} [Kind.byte.letter] ∧
      (∃ e, out.narrow {} [Kind.byte.letter] = .error (.mismatch e)) ∧
      out.narrow {} [Kind.boolean.letter] = .ok (.scalar (.boolean true)) := by
  intro v out
  obtain ⟨hwraps, -, htwice⟩ := narrow_wraps {} v (2 ^ 64 - 56) rfl
  obtain ⟨hrefused, hboolean, -⟩ := narrow_wraps {} out (2 ^ 64) rfl
  obtain ⟨s, hs, hunique⟩ := (hwraps .long 64 rfl).1 (by decide) (by decide)
  have hresidue : (Scalar.long (-56)).IsResidue .long 64 (2 ^ 64 - 56) :=
    ⟨rfl, -56, rfl, by decide⟩
  obtain rfl := (hunique _).1 hresidue
  have hwritable : isWritable (2 ^ 64) = true := isWritable_of_lt (by decide)
  obtain ⟨e, he, -⟩ := ((hrefused .byte 8 rfl).2 (.inr (by decide))).1 hwritable
  exact ⟨rfl, rfl, hs, htwice .long .byte 64 8 _ rfl rfl (by decide) hs, ⟨e, he⟩, hboolean⟩

/-- The least integer that has too many digits to be written is no mismatch for an `int`. -/
theorem narrow_long_numeral :
    let n : Int := 10 ^ digitLimit
    (Value.integer n).denoted? = some n ∧ 2 ^ 64 ≤ n ∧
      (Value.integer n).narrow {} [Kind.int.letter] = .error (.host .numeralTooLong) := by
  intro n
  have hpow : 10 ^ 20 ≤ 10 ^ digitLimit := Nat.pow_le_pow_right (by decide) (by decide)
  have hout : (2 : Int) ^ 64 ≤ n := by
    have hcast : ((10 ^ 20 : Nat) : Int) ≤ ((10 ^ digitLimit : Nat) : Int) :=
      Int.ofNat_le.2 hpow
    exact Int.le_trans (by decide) (hcast.trans_eq (Nat.cast_pow 10 digitLimit))
  refine ⟨rfl, hout, ?_⟩
  have hunfit : ¬ (-2 ^ 63 ≤ n ∧ n < 2 ^ 64) := fun hfits => absurd hfits.2 (Int.not_lt.2 hout)
  rw [narrow_of_not_fits (w := 32) rfl rfl hunfit, isWritable_pow_digitLimit]
  rfl

end Value

end HostCall
