import HostCall.Proofs.IntegerText
import Mathlib.Data.Nat.Digits.Lemmas

/-!
# Numerals

A numeral is written by division, most significant digit first, and zero has a digit of its own.  So
the digits are those of `Nat.digits` in reverse order (`digits_eq`), with zero as the exception.
`IsNumeral` tells what a numeral is without a division: lowercase digits of the base with their
positional value, and no zero in front of others.

Main statement, `isNumeral_iff`: there is one such text for each number, and it is the one that is
written.
-/

namespace HostCall

namespace Text

/-! ## Digits -/

theorem digitsOnto_eq {b n : Nat} (hb : 2 ≤ b) (hn : n ≠ 0) (acc : List Nat) :
    digitsOnto b n acc = (Nat.digits b n).reverse ++ acc := by
  induction n using Nat.strongRecOn generalizing acc with
  | ind n ih =>
    rw [digitsOnto]
    by_cases hsmall : n < b ∨ b < 2
    · have hlt : n < b := by omega
      rw [dif_pos hsmall, Nat.digits_of_lt b n hn hlt]
      rfl
    · have hquotient : n / b ≠ 0 := Nat.div_ne_zero_iff.2 ⟨by omega, by omega⟩
      have hdigits : Nat.digits b n = n % b :: Nat.digits b (n / b) :=
        Nat.digits_def' (by omega) (by omega)
      rw [dif_neg hsmall, ih (n / b) (Nat.div_lt_self (by omega) (by omega)) hquotient, hdigits,
        List.reverse_cons, List.append_assoc]
      rfl

theorem digits_eq {b n : Nat} (hb : 2 ≤ b) (hn : n ≠ 0) :
    digits b n = (Nat.digits b n).reverse := by
  rw [digits, digitsOnto_eq hb hn, List.append_nil]

theorem digits_zero {b : Nat} (hb : 2 ≤ b) : digits b 0 = [0] := by
  rw [digits, digitsOnto, dif_pos (.inl (by omega))]

theorem digits_ne_nil {b : Nat} (hb : 2 ≤ b) (n : Nat) : digits b n ≠ [] := by
  by_cases hn : n = 0
  · rw [hn, digits_zero hb]
    exact List.cons_ne_nil 0 []
  · rw [digits_eq hb hn, List.reverse_ne_nil_iff]
    exact Nat.digits_ne_nil_iff_ne_zero.2 hn

theorem lt_of_mem_digits {b n d : Nat} (hb : 2 ≤ b) (hd : d ∈ digits b n) : d < b := by
  by_cases hn : n = 0
  · rw [hn, digits_zero hb, List.mem_singleton] at hd
    omega
  · rw [digits_eq hb hn, List.mem_reverse] at hd
    exact Nat.digits_lt_base hb hd

theorem ofDigits_digits {b : Nat} (hb : 2 ≤ b) (n : Nat) :
    Nat.ofDigits b (digits b n).reverse = n := by
  by_cases hn : n = 0
  · rw [hn, digits_zero hb]
    rfl
  · rw [digits_eq hb hn, List.reverse_reverse, Nat.ofDigits_digits]

/-- Digits that do not begin with a zero are the digits of what they denote. -/
theorem digits_ofDigits {b v : Nat} {vs : List Nat} (hb : 2 ≤ b) (hlt : ∀ w ∈ v :: vs, w < b)
    (hv : v ≠ 0) : digits b (Nat.ofDigits b (v :: vs).reverse) = v :: vs := by
  have hdigits : Nat.digits b (Nat.ofDigits b (v :: vs).reverse) = (v :: vs).reverse := by
    refine Nat.digits_ofDigits b hb _ (fun w hw => hlt w (List.mem_reverse.1 hw)) fun hne => ?_
    rw [List.getLast_reverse]
    exact hv
  have hn : Nat.ofDigits b (v :: vs).reverse ≠ 0 := by
    rw [← Nat.digits_ne_nil_iff_ne_zero (b := b), hdigits, List.reverse_ne_nil_iff]
    exact List.cons_ne_nil v vs
  rw [digits_eq hb hn, hdigits, List.reverse_reverse]

/-! ## Length -/

theorem length_digits_le {b k n : Nat} (hb : 2 ≤ b) (hn : n < b ^ (k + 1)) :
    (digits b n).length ≤ k + 1 := by
  by_cases hzero : n = 0
  · rw [hzero, digits_zero hb]
    exact Nat.le_add_left 1 k
  · rw [digits_eq hb hzero, List.length_reverse]
    exact (Nat.digits_length_le_iff hb n).2 hn

theorem length_ofNat_pos (n : Nat) : 0 < (ofNat n).length := by
  rw [ofNat, numeral, List.length_map]
  exact List.length_pos_iff.2 (digits_ne_nil (by decide) n)

theorem length_ofNat_le {k n : Nat} (hn : n < 10 ^ (k + 1)) : (ofNat n).length ≤ k + 1 := by
  rw [ofNat, numeral, List.length_map]
  exact length_digits_le (by decide) hn

/-! ## Numerals -/

/-- A numeral of `n` in a base. -/
structure IsNumeral (b : Nat) (t : Text) (n : Nat) : Prop where
  ne_nil : t ≠ []
  lowercase : ∀ c ∈ t, ¬ (65 ≤ c.val ∧ c.val ≤ 90)
  zero_alone : ∀ rest, t = .ofChar '0' :: rest → rest = []
  value : ∃ vs, Literal.Digits b t vs ∧ Nat.ofDigits b vs.reverse = n

theorem digits_numeral {b : Nat} (hb : 2 ≤ b) (hb' : b ≤ 36) (n : Nat) :
    Literal.Digits b (numeral b n) (digits b n) := by
  rw [numeral, Literal.Digits, List.forall₂_map_left_iff, List.forall₂_same]
  intro d hd
  have hlt : d < b := lt_of_mem_digits hb hd
  exact ⟨CodePoint.digitValue?_ofDigit (by omega), hlt⟩

/-- Apart from uppercase letters a digit is what its value is written as. -/
theorem eq_ofDigit {c : CodePoint} {d : Nat} (hc : c.digitValue? = some d)
    (hlower : ¬ (65 ≤ c.val ∧ c.val ≤ 90)) : c = CodePoint.ofDigit d := by
  apply CodePoint.ext_val
  rw [CodePoint.digitValue?, if_neg hlower] at hc
  rw [CodePoint.ofDigit]
  split at hc
  · cases hc
    rw [dif_pos (by omega)]
    show c.val = 48 + (c.val - 48)
    omega
  · split at hc
    · cases hc
      rw [dif_neg (by omega), dif_pos (by omega)]
      show c.val = 87 + (c.val - 87)
      omega
    · cases hc

theorem eq_map_ofDigit {b : Nat} {t : Text} {vs : List Nat} (ht : Literal.Digits b t vs)
    (hlower : ∀ c ∈ t, ¬ (65 ≤ c.val ∧ c.val ≤ 90)) : t = vs.map CodePoint.ofDigit := by
  induction ht with
  | nil => rfl
  | @cons c v t vs hc _ ih =>
    obtain ⟨hhead, hrest⟩ := List.forall_mem_cons.1 hlower
    rw [List.map_cons, ← ih hrest, ← eq_ofDigit hc.1 hhead]

theorem lt_of_digits {b : Nat} {t : Text} {vs : List Nat} (ht : Literal.Digits b t vs) :
    ∀ v ∈ vs, v < b := by
  induction ht with
  | nil => exact List.forall_mem_nil _
  | cons hc _ ih => exact List.forall_mem_cons.2 ⟨hc.2, ih⟩

theorem lowercase_ofDigit {d : Nat} (hd : d < 36) :
    ¬ (65 ≤ (CodePoint.ofDigit d).val ∧ (CodePoint.ofDigit d).val ≤ 90) := by
  rw [CodePoint.ofDigit]
  split
  · show ¬ (65 ≤ 48 + d ∧ 48 + d ≤ 90)
    omega
  · show ¬ (65 ≤ 87 + d ∧ 87 + d ≤ 90)
    omega

/-- What is written of a number begins with a zero for zero alone. -/
theorem digits_eq_zero_cons {b n : Nat} {vs : List Nat} (hb : 2 ≤ b)
    (h : digits b n = 0 :: vs) : vs = [] := by
  by_cases hn : n = 0
  · rw [hn, digits_zero hb] at h
    cases h
    rfl
  · rw [digits_eq hb hn] at h
    have hlast := Nat.getLast_digit_ne_zero b hn
    have hreverse : Nat.digits b n = vs.reverse ++ [0] := by
      rw [← List.reverse_reverse (Nat.digits b n), h, List.reverse_cons]
    simp only [hreverse, List.getLast_append_singleton, ne_eq, not_true_eq_false] at hlast

theorem isNumeral_numeral {b : Nat} (hb : 2 ≤ b) (hb' : b ≤ 36) (n : Nat) :
    IsNumeral b (numeral b n) n where
  ne_nil := by
    rw [numeral, ne_eq, List.map_eq_nil_iff]
    exact digits_ne_nil hb n
  lowercase := by
    intro c hc
    obtain ⟨d, hd, rfl⟩ := List.mem_map.1 hc
    have hlt : d < b := lt_of_mem_digits hb hd
    exact lowercase_ofDigit (by omega)
  zero_alone := by
    intro rest hrest
    rw [numeral, List.map_eq_cons_iff] at hrest
    obtain ⟨d, ds, hdigits, hzero, rfl⟩ := hrest
    have hlt : d < b := lt_of_mem_digits hb (hdigits ▸ List.mem_cons_self)
    have hd : d = 0 := by
      have hvalue : (CodePoint.ofDigit d).digitValue? = some d :=
        CodePoint.digitValue?_ofDigit (by omega)
      rw [hzero] at hvalue
      cases hvalue
      rfl
    rw [hd] at hdigits
    rw [digits_eq_zero_cons hb hdigits]
    rfl
  value := ⟨digits b n, digits_numeral hb hb' n, ofDigits_digits hb n⟩

/-- **Numerals are unique.**  A number has one numeral in a base, and that is what is written. -/
theorem isNumeral_iff {b : Nat} (hb : 2 ≤ b) (hb' : b ≤ 36) {t : Text} {n : Nat} :
    IsNumeral b t n ↔ t = numeral b n := by
  constructor
  · rintro ⟨hne, hlower, hzero, vs, hvs, rfl⟩
    have ht : t = vs.map CodePoint.ofDigit := eq_map_ofDigit hvs hlower
    cases vs with
    | nil => exact absurd ht hne
    | cons v vs =>
      by_cases hv : v = 0
      · subst hv
        have hrest : vs.map CodePoint.ofDigit = [] := hzero _ ht
        obtain rfl : vs = [] := List.map_eq_nil_iff.1 hrest
        rw [ht, numeral]
        show _ = (digits b 0).map CodePoint.ofDigit
        rw [digits_zero hb]
      · rw [numeral, digits_ofDigits hb (lt_of_digits hvs) hv, ht]
  · rintro rfl
    exact isNumeral_numeral hb hb' n

/-! ## Signed numerals -/

open Literal in
/-- What is written of an integer is a numeral behind a minus or nothing. -/
theorem exists_ofInt (n : Int) : ∃ sign : Sign, ofInt n = sign.text ++ ofNat n.natAbs ∧
    sign.apply n.natAbs = n := by
  cases n with
  | ofNat n => exact ⟨.none, rfl, rfl⟩
  | negSucc n => exact ⟨.minus, rfl, rfl⟩

end Text

namespace Literal

theorem writes_numeral {b : Nat} (hb : 2 ≤ b) (hb' : b ≤ 36) (sign : Sign) (n : Nat) :
    Writes b [] (sign.text ++ Text.numeral b n) (sign.apply n) := by
  have hwrites : Writes b [] (sign.text ++ Text.numeral b n) _ :=
    .mk sign (Text.isNumeral_numeral hb hb' n).ne_nil (Text.digits_numeral hb hb' n)
  rwa [Text.ofDigits_digits hb] at hwrites

theorem length_splitSign_ofInt {k : Nat} {n : Int} (hn : n.natAbs < 10 ^ (k + 1)) :
    (splitSign (Text.ofInt n)).2.length ≤ k + 1 := by
  obtain ⟨sign, hsign, -⟩ := Text.exists_ofInt n
  have hletters := (Text.digits_numeral (b := 10) (by decide) (by decide) n.natAbs).isSome
  rw [hsign, Text.ofNat, splitSign_sign hletters]
  exact Text.length_ofNat_le hn

end Literal

/-! ## What is read of a numeral -/

namespace Library

open Literal

/-- What a text writes is read where it lies between the bounds. -/
theorem parseInteger_of_writes {b : Nat} {t : Text} {low high n : Int} (hb : 2 ≤ b) (hb' : b ≤ 36)
    (hlimit : isPowerOfTwo b = true ∨ (splitSign t).2.length ≤ digitLimit)
    (ht : Writes b [] t n) (hn : low ≤ n ∧ n ≤ high) :
    parseInteger (some t) b low high = .ok n := by
  obtain ⟨hshape, hread⟩ : isNumeralShape t = true ∧ Value.readInteger b t.quoted t = .ok n :=
    readInteger_of_writes (by omega) (.inl ⟨rfl, hlimit⟩) ht
  exact parseInteger_eq_ok_iff_read.2 ⟨by omega, hn, hshape, hread⟩

/-- Beyond the bounds it is refused. -/
theorem parseInteger_of_out_of_range {b : Nat} {t : Text} {low high n : Int} (hb : 2 ≤ b)
    (hb' : b ≤ 36) (hlimit : isPowerOfTwo b = true ∨ (splitSign t).2.length ≤ digitLimit)
    (ht : Writes b [] t n) (hn : ¬ (low ≤ n ∧ n ≤ high)) :
    parseInteger (some t) b low high = .error (.inputRange t) := by
  obtain ⟨hshape, hread⟩ : isNumeralShape t = true ∧ Value.readInteger b t.quoted t = .ok n :=
    readInteger_of_writes (by omega) (.inl ⟨rfl, hlimit⟩) ht
  have hradix : ¬ ¬ (2 ≤ (b : Int) ∧ (b : Int) ≤ 36) := by omega
  rw [parseInteger, if_neg hradix, hshape, Int.toNat_natCast, hread, Result.ok_bind, if_neg hn]
  rfl

/-- What is written of an integer in decimal is read as that integer. -/
theorem parseInteger_ofInt {k : Nat} {low high n : Int} (hn : low ≤ n ∧ n ≤ high)
    (hsize : n.natAbs < 10 ^ (k + 1)) (hk : k < digitLimit) :
    parseInteger (some (Text.ofInt n)) 10 low high = .ok n := by
  obtain ⟨sign, hsign, happly⟩ := Text.exists_ofInt n
  have hwrites := writes_numeral (b := 10) (by decide) (by decide) sign n.natAbs
  rw [happly, ← Text.ofNat, ← hsign] at hwrites
  have hlength : (splitSign (Text.ofInt n)).2.length ≤ digitLimit :=
    Nat.le_trans (length_splitSign_ofInt hsize) hk
  exact parseInteger_of_writes (by decide) (by decide) (.inr hlength) hwrites hn

end Library

end HostCall
