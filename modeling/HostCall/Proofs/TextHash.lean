import HostCall.Proofs.Passage
import Mathlib.Algebra.BigOperators.Fin
import Mathlib.Tactic.Ring

/-!
# The hash of a text

The library hashes a text by its 16-bit units: it goes through them with one factor of 31 and one
reduction modulo `2 ^ 32` for each, and gives the result a sign at the very end.  `Text.Utf16` tells
which units a text has, without a computation of them, and `unitPolynomial` is the sum that the hash
stands for.  A run of the loop that starts at `h` is congruent to `h` shifted by the units that are
still to come, with their own sum behind it (`unitHashFrom_modEq`); so reductions in between change
nothing.

Main statement: `hashCode_polynomial` for calls of `hashCode`, and of `concat` before it.
-/

namespace HostCall

open Result

/-! ## Units -/

/-- The units of one code point: itself, or the two halves of its surrogate pair.  A surrogate that
stands alone is below the bound and is its own unit. -/
inductive CodePoint.Utf16 (c : CodePoint) : List Nat → Prop
  | unit (h : c.val < 0x10000) : CodePoint.Utf16 c [c.val]
  | pair {high low : Nat} (hhigh : 0xD800 ≤ high ∧ high < 0xDC00)
      (hlow : 0xDC00 ≤ low ∧ low < 0xE000)
      (hval : c.val = 0x10000 + (high - 0xD800) * 0x400 + (low - 0xDC00)) :
      CodePoint.Utf16 c [high, low]

/-- The units of a text are those of its code points, one after another. -/
inductive Text.Utf16 : Text → List Nat → Prop
  | nil : Text.Utf16 [] []
  | cons {c : CodePoint} {t : Text} {us vs : List Nat} (hc : c.Utf16 us) (ht : Text.Utf16 t vs) :
      Text.Utf16 (c :: t) (us ++ vs)

theorem CodePoint.utf16_units (c : CodePoint) : c.Utf16 c.units := by
  have hvalid := c.isValid
  rw [units]
  split
  · rename_i hunit
    exact .unit hunit
  · refine .pair ⟨?_, ?_⟩ ⟨?_, ?_⟩ ?_ <;> omega

theorem CodePoint.Utf16.eq_units {c : CodePoint} {us : List Nat} (h : c.Utf16 us) :
    us = c.units := by
  cases h with
  | unit h => rw [units, if_pos h]
  | @pair high low hhigh hlow hval =>
    have hlarge : ¬ c.val < 0x10000 := by omega
    have hfirst : 0xD800 + (c.val - 0x10000) / 0x400 = high := by omega
    have hsecond : 0xDC00 + (c.val - 0x10000) % 0x400 = low := by omega
    rw [units, if_neg hlarge, hfirst, hsecond]

namespace Text

theorem utf16_iff {t : Text} {us : List Nat} : t.Utf16 us ↔ us = t.units := by
  constructor
  · intro h
    induction h with
    | nil => rfl
    | cons hc _ ih => rw [units, List.flatMap_cons, hc.eq_units, ih, units]
  · rintro rfl
    induction t with
    | nil => exact .nil
    | cons c t ih =>
      rw [units, List.flatMap_cons]
      exact .cons c.utf16_units ih

/-! ## The sum behind the hash -/

/-- The units as coefficients of powers of 31, the last of them without a factor. -/
def unitPolynomial (us : List Nat) : Nat :=
  ∑ j : Fin us.length, us[j] * 31 ^ (us.length - 1 - j)

theorem unitPolynomial_cons (u : Nat) (us : List Nat) :
    unitPolynomial (u :: us) = u * 31 ^ us.length + unitPolynomial us := by
  show ∑ j : Fin (us.length + 1), (u :: us)[j] * 31 ^ (us.length + 1 - 1 - j) = _
  rw [Fin.sum_univ_succ, unitPolynomial]
  congr 1
  apply Finset.sum_congr rfl
  intro j _
  have hexponent : us.length + 1 - 1 - (j.succ : Nat) = us.length - 1 - j := by
    rw [Fin.val_succ]
    omega
  rw [hexponent]
  rfl

theorem unitPolynomial_append (us vs : List Nat) :
    unitPolynomial (us ++ vs) = unitPolynomial us * 31 ^ vs.length + unitPolynomial vs := by
  induction us with
  | nil => simp [unitPolynomial]
  | cons u us ih =>
    rw [List.cons_append, unitPolynomial_cons, ih, unitPolynomial_cons, List.length_append, pow_add]
    ring

/-- What the loop makes of a start and the units before it. -/
theorem unitHashFrom_modEq (h : Nat) (us : List Nat) :
    unitHashFrom h us ≡ h * 31 ^ us.length + unitPolynomial us [MOD 2 ^ 32] := by
  induction us generalizing h with
  | nil => simp [unitHashFrom, unitPolynomial, Nat.ModEq.refl]
  | cons u us ih =>
    have hstep : (31 * h + u) % 2 ^ 32 ≡ 31 * h + u [MOD 2 ^ 32] := Nat.mod_modEq _ _
    calc unitHashFrom h (u :: us)
        = unitHashFrom ((31 * h + u) % 2 ^ 32) us := rfl
      _ ≡ (31 * h + u) % 2 ^ 32 * 31 ^ us.length + unitPolynomial us [MOD 2 ^ 32] := ih _
      _ ≡ (31 * h + u) * 31 ^ us.length + unitPolynomial us [MOD 2 ^ 32] :=
        (hstep.mul_right _).add_right _
      _ = h * 31 ^ (u :: us).length + unitPolynomial (u :: us) := by
        rw [unitPolynomial_cons, List.length_cons, pow_succ]
        ring

theorem unitHash_modEq (t : Text) : t.unitHash ≡ unitPolynomial t.units [MOD 2 ^ 32] := by
  have h := unitHashFrom_modEq 0 t.units
  rwa [Nat.zero_mul, Nat.zero_add] at h

end Text

/-! ## Calls -/

namespace Library

open Text (unitPolynomial)

theorem textHash_eq (t : Text) :
    Scalar.int (textHash t) = Scalar.ofInt .int (unitPolynomial t.units) := by
  have hmod : ((t.unitHash : Nat) : Int) ≡ unitPolynomial t.units [ZMOD 2 ^ 32] := by
    exact_mod_cast Int.natCast_modEq_iff.2 t.unitHash_modEq
  rw [← Scalar.ofInt_congr (k := .int) rfl hmod]
  rfl

theorem textHash_modEq (t : Text) :
    (textHash t).toInt ≡ unitPolynomial t.units [ZMOD 2 ^ 32] := by
  obtain ⟨-, m, hm, hmod⟩ := (Scalar.isResidue_iff rfl).2 (textHash_eq t)
  cases hm
  exact hmod

theorem textHash_append (s t : Text) :
    (textHash (s ++ t)).toInt ≡
      (textHash s).toInt * 31 ^ t.units.length + (textHash t).toInt [ZMOD 2 ^ 32] := by
  calc (textHash (s ++ t)).toInt
      ≡ unitPolynomial (s ++ t).units [ZMOD 2 ^ 32] := textHash_modEq _
    _ = unitPolynomial s.units * 31 ^ t.units.length + unitPolynomial t.units := by
      rw [Text.units_append, Text.unitPolynomial_append]
      push_cast
      rfl
    _ ≡ (textHash s).toInt * 31 ^ t.units.length + (textHash t).toInt [ZMOD 2 ^ 32] :=
      ((textHash_modEq s).symm.mul_right _).add (textHash_modEq t).symm

theorem call_hashCode (t : Text) (h : Heap) :
    textClass.call "hashCode" [] "I" (.text t) [] h = (.ok (.scalar (.int (textHash t))), h) :=
  HostClass.call_text_method (t := t) (x := .ok (.scalar (.int (textHash t)))) [] ⟨rfl, rfl⟩
    rfl rfl rfl

theorem call_concat (s t : Text) (h : Heap) :
    textClass.call "concat" [.reference textDescriptor] textDescriptor (.text s) [.text t] h =
      (.ok (.text (s ++ t)), h) :=
  HostClass.call_text_method (t := s) (x := .ok (.text (s ++ t))) [.text t] ⟨rfl, rfl⟩ rfl rfl rfl

/-- **The hash is the polynomial of the units.**  A text has one list of units, surrogates that
stand alone included.  The hash of a text is the one `int` that is congruent modulo `2 ^ 32` to the
sum of its units with their powers of 31; and the hash of a concatenation is that of the first text,
shifted by the units of the second, with the hash of the second behind it. -/
theorem hashCode_polynomial (a b : Text) (h : Heap) :
    ∃ (us vs : List Nat) (x y z : Int32),
      (∀ ws, a.Utf16 ws ↔ ws = us) ∧ (∀ ws, b.Utf16 ws ↔ ws = vs) ∧
      textClass.call "hashCode" [] "I" (.text a) [] h = (.ok (.scalar (.int x)), h) ∧
      textClass.call "hashCode" [] "I" (.text b) [] h = (.ok (.scalar (.int y)), h) ∧
      textClass.call "concat" [.reference textDescriptor] textDescriptor (.text a) [.text b] h =
        (.ok (.text (a ++ b)), h) ∧
      textClass.call "hashCode" [] "I" (.text (a ++ b)) [] h = (.ok (.scalar (.int z)), h) ∧
      (∀ w : Scalar, w.IsResidue .int 32 (unitPolynomial us) ↔ w = .int x) ∧
      z.toInt ≡ x.toInt * 31 ^ vs.length + y.toInt [ZMOD 2 ^ 32] := by
  refine ⟨a.units, b.units, textHash a, textHash b, textHash (a ++ b), fun ws => Text.utf16_iff,
    fun ws => Text.utf16_iff, call_hashCode a h, call_hashCode b h, call_concat a b h,
    call_hashCode (a ++ b) h, ?_, textHash_append a b⟩
  intro w
  rw [textHash_eq]
  exact Scalar.isResidue_iff rfl

example : textHash "hello" = 99162322 := by decide

end Library

end HostCall
