import HostCall.Proofs.Assignability

/-!
# Conversions between integers, booleans and characters

A boolean stands for zero or one, a character for its code, and a text of one character for the code
of that character.  Between types of this sort `Value.adapt` goes by four ways, which make their
results by different means: an instance is passed on, a scalar is widened by a cast that could wrap
around, a value of the host is unboxed by a constructor that tests the range, and a scalar is boxed.
The cast never meets a number out of range, since every kind holds what the kinds that widen to it
hold (`holds_of_widenings`).

Main statement, `denoted?_of_adapt`: what adaptation gives stands for the number that it was given,
which the declared type holds; all else is a mismatch.
-/

namespace HostCall

open Result

/-! ## What is denoted -/

/-- The kinds of integers, booleans and characters. -/
def Kind.isDiscrete : Kind → Bool
  | .double | .float => false
  | _ => true

/-- The numbers that scalars of a kind denote, floating point numbers apart. -/
def Kind.Holds : Kind → Int → Prop
  | .boolean, n => 0 ≤ n ∧ n < 2
  | .byte, n => -2 ^ 7 ≤ n ∧ n < 2 ^ 7
  | .short, n => -2 ^ 15 ≤ n ∧ n < 2 ^ 15
  | .int, n => -2 ^ 31 ≤ n ∧ n < 2 ^ 31
  | .long, n => -2 ^ 63 ≤ n ∧ n < 2 ^ 63
  | .char, n => 0 ≤ n ∧ n < 2 ^ 16
  | .double, _ | .float, _ => False

namespace HostType

/-- The types of integers, booleans, characters and texts, of the host and scalar. -/
def isDiscrete : HostType → Bool
  | .integer | .boolean | .text => true
  | .scalar k => k.isDiscrete
  | _ => false

/-- The numbers that values of a type denote; a text denotes one as a single character. -/
def Holds : HostType → Int → Prop
  | .integer, _ => True
  | .boolean, n => 0 ≤ n ∧ n < 2
  | .text, n => 0 ≤ n ∧ n < 0x110000
  | .scalar k, n => k.Holds n
  | _, _ => False

end HostType

namespace Value

/-- Integers, booleans, characters and texts, of the host and scalar. -/
def isDiscrete : Value → Bool
  | .integer _ | .boolean _ | .text _ => true
  | .scalar s => s.kind.isDiscrete
  | _ => false

/-- The number that a value stands for: zero or one for a boolean, and its code for a character or a
text of one character. -/
def denoted? : Value → Option Int
  | .text [c] => some c.val
  | v => v.index?

end Value

/-! ## Ranges -/

theorem Bool.toInt_bounds (b : Bool) : 0 ≤ b.toInt ∧ b.toInt < 2 := by
  cases b <;> decide

theorem Kind.holds_of_widenings {k l : Kind} {n : Int} (hl : l ∈ k.widenings)
    (hdiscrete : l.isDiscrete = true) (hn : k.Holds n) : l.Holds n := by
  cases k <;> cases l <;> simp_all [widenings, isDiscrete, Holds] <;> omega

namespace Scalar

theorem holds_of_toInt? {s : Scalar} {n : Int} (h : s.toInt? = some n) : s.kind.Holds n := by
  cases s with
  | int v =>
    cases h
    exact ⟨v.le_toInt, v.toInt_lt⟩
  | boolean b =>
    cases h
    exact Bool.toInt_bounds b
  | long v =>
    cases h
    exact ⟨v.le_toInt, v.toInt_lt⟩
  | byte v =>
    cases h
    exact ⟨v.le_toInt, v.toInt_lt⟩
  | short v =>
    cases h
    exact ⟨v.le_toInt, v.toInt_lt⟩
  | char v =>
    cases h
    have hv := v.toNat_lt
    exact ⟨by omega, by omega⟩
  | double x => cases h
  | float x => cases h

theorem exists_toInt? {s : Scalar} (h : s.kind.isDiscrete = true) : ∃ n, s.toInt? = some n := by
  cases s with
  | double x => cases h
  | float x => cases h
  | _ => exact ⟨_, rfl⟩

/-- The cast to a kind that holds the number does not wrap around. -/
theorem toInt?_ofInt {k : Kind} {n : Int} (h : k.Holds n) : (ofInt k n).toInt? = some n := by
  cases k with
  | int => exact congrArg some (Int32.toInt_ofInt_of_le h.1 h.2)
  | long => exact congrArg some (Int64.toInt_ofInt_of_le h.1 h.2)
  | byte => exact congrArg some (Int8.toInt_ofInt_of_le h.1 h.2)
  | short => exact congrArg some (Int16.toInt_ofInt_of_le h.1 h.2)
  | boolean =>
    obtain ⟨hlow, hhigh⟩ := h
    obtain rfl | rfl : n = 0 ∨ n = 1 := by omega
    · rfl
    · rfl
  | char =>
    obtain ⟨hlow, hhigh⟩ := h
    have hval : (UInt16.ofInt n).toNat = n.toNat := by
      rw [UInt16.ofInt, UInt16.toNat_ofNat']
      omega
    show some ((UInt16.ofInt n).toNat : Int) = some n
    rw [hval, Int.toNat_of_nonneg hlow]
  | double => exact h.elim
  | float => exact h.elim

theorem castTo_eq_ofInt {s : Scalar} {n : Int} (k : Kind) (h : s.toInt? = some n) :
    s.castTo k = ofInt k n := by
  cases s with
  | double x => cases h
  | float x => cases h
  | _ =>
    cases h
    rfl

/-- A scalar is the one of its kind that is made from its number. -/
theorem ofInt_of_toInt? {s : Scalar} {n : Int} (h : s.toInt? = some n) : ofInt s.kind n = s := by
  cases s with
  | int v =>
    cases h
    exact congrArg Scalar.int v.ofInt_toInt
  | long v =>
    cases h
    exact congrArg Scalar.long v.ofInt_toInt
  | byte v =>
    cases h
    exact congrArg Scalar.byte v.ofInt_toInt
  | short v =>
    cases h
    exact congrArg Scalar.short v.ofInt_toInt
  | boolean b =>
    cases h
    cases b <;> rfl
  | char v =>
    cases h
    have hval : (v.toNat : Int) % 65536 = v.toNat := by
      have hv := v.toNat_lt
      omega
    refine congrArg Scalar.char ?_
    show UInt16.ofNat ((v.toNat : Int) % 65536).toNat = v
    rw [hval, Int.toNat_natCast, UInt16.ofNat_toNat]
  | double x => cases h
  | float x => cases h

end Scalar

namespace Value

theorem holds_of_denoted? {v : Value} {n : Int} (h : v.denoted? = some n) : v.typeOf.Holds n := by
  unfold denoted? at h
  split at h
  · rename_i c
    cases h
    have hc := c.isValid
    exact ⟨by omega, by omega⟩
  · cases v with
    | integer m => trivial
    | boolean b =>
      cases h
      exact Bool.toInt_bounds b
    | scalar s => exact Scalar.holds_of_toInt? h
    | _ => cases h

/-- Texts apart, all these values stand for a number. -/
theorem exists_denoted? {v : Value} (hv : v.isDiscrete = true) (htext : v.typeOf ≠ .text) :
    ∃ n, v.denoted? = some n := by
  cases v with
  | integer n => exact ⟨n, rfl⟩
  | boolean b => exact ⟨_, rfl⟩
  | text t => exact absurd rfl htext
  | scalar s => exact Scalar.exists_toInt? hv
  | _ => cases hv

/-! ## The four ways -/

/-- A scalar is made from the integers that its kind holds. -/
theorem integerToScalar_eq_ok_iff {k : Kind} {n : Int} {s : Scalar} (hk : k.isDiscrete = true)
    (hboolean : k ≠ .boolean) : integerToScalar k n = .ok s ↔ k.Holds n ∧ Scalar.ofInt k n = s := by
  have hmade : integerToScalar k n =
      if !fitsLong n then .error .longOverflow
      else if (Scalar.ofInt k n).toInt? = some n then .ok (Scalar.ofInt k n)
      else .error (.outOfBounds n (HostType.scalarPath k)) := by
    cases k with
    | boolean => exact absurd rfl hboolean
    | double => cases hk
    | float => cases hk
    | _ =>
      simp only [integerToScalar, Scalar.exactly?]
      split_ifs <;> rfl
  rw [hmade]
  by_cases hholds : k.Holds n
  · have hlong : fitsLong n = true := by
      cases k <;> simp_all [fitsLong, Kind.Holds] <;> omega
    simp [hholds, hlong, Scalar.toInt?_ofInt hholds]
  · have hwraps : (Scalar.ofInt k n).toInt? ≠ some n := by
      intro hn
      have hkind := Scalar.holds_of_toInt? hn
      rw [Scalar.kind_ofInt] at hkind
      exact hholds hkind
    simp only [hholds, if_neg hwraps, false_and, iff_false]
    split <;> simp

theorem integerToScalar_int {n : Int} (hn : -2 ^ 31 ≤ n ∧ n < 2 ^ 31) :
    integerToScalar .int n = .ok (.int (Int32.ofInt n)) :=
  (integerToScalar_eq_ok_iff rfl (by decide)).2 ⟨hn, rfl⟩

theorem toInt?_of_integerToScalar {k : Kind} {n : Int} {s : Scalar} (hk : k.isDiscrete = true)
    (hboolean : k ≠ .boolean) (h : integerToScalar k n = .ok s) : s.toInt? = some n := by
  obtain ⟨hholds, rfl⟩ := (integerToScalar_eq_ok_iff hk hboolean).1 h
  exact Scalar.toInt?_ofInt hholds

theorem denoted?_of_unbox {k : Kind} {v : Value} {s : Scalar} (hk : k.isDiscrete = true)
    (hv : v.typeOf ∈ k.unboxed) (h : v.unbox k = .ok s) :
    ∃ n, v.denoted? = some n ∧ s.toInt? = some n := by
  cases v with
  | integer n =>
    have hboolean : k ≠ .boolean := by
      rintro rfl
      simp [Kind.unboxed, typeOf] at hv
    exact ⟨n, rfl, toInt?_of_integerToScalar hk hboolean h⟩
  | boolean b =>
    have hboolean : k = .boolean := by
      cases k <;> simp_all [Kind.unboxed, typeOf]
    subst hboolean
    cases h
    refine ⟨b.toInt, rfl, ?_⟩
    exact Scalar.toInt?_ofInt (Bool.toInt_bounds b)
  | text t =>
    have hboolean : k ≠ .boolean := by
      rintro rfl
      simp [Kind.unboxed, typeOf] at hv
    obtain ⟨n, hn, hs⟩ := bind_eq_ok_iff.1 h
    obtain ⟨c, rfl⟩ : ∃ c, t = [c] := by
      rcases t with _ | ⟨c, _ | ⟨d, rest⟩⟩
      · cases hn
      · exact ⟨c, rfl⟩
      · cases hn
    cases hn
    exact ⟨c.val, rfl, toInt?_of_integerToScalar hk hboolean hs⟩
  | real x => cases k <;> simp_all [Kind.unboxed, Kind.isDiscrete, typeOf]
  | _ => cases h

theorem denoted?_box {s : Scalar} (hs : s.kind.isDiscrete = true) :
    (box s).denoted? = s.toInt? := by
  cases s with
  | char c =>
    rw [box, CodePoint.ofNat?_toNat]
    rfl
  | double x => cases hs
  | float x => cases hs
  | _ => rfl

/-- A conversion keeps the number. -/
theorem denoted?_of_convert {position : Int} {v a : Value} {d : HostType}
    (hv : v.isDiscrete = true) (hd : d.isDiscrete = true) (h : v.convert position d = .ok a) :
    ∃ n, v.denoted? = some n ∧ a.denoted? = some n := by
  unfold convert at h
  split at h
  -- a scalar widened
  · rename_i k s
    split at h
    · rename_i hwidens
      cases h
      obtain ⟨n, hn⟩ := Scalar.exists_toInt? hv
      have hholds := Kind.holds_of_widenings hwidens hd (Scalar.holds_of_toInt? hn)
      refine ⟨n, hn, ?_⟩
      rw [Scalar.castTo_eq_ofInt k hn]
      exact Scalar.toInt?_ofInt hholds
    · cases h
  -- a host value unboxed
  · rename_i k _
    split at h
    · rename_i htype
      rw [mapError_eq_ok_iff, map_eq_ok_iff] at h
      obtain ⟨s, hs, rfl⟩ := h
      exact denoted?_of_unbox hd htype hs
    · cases h
  -- a scalar boxed
  · rename_i s _
    split at h
    · cases h
      obtain ⟨n, hn⟩ := Scalar.exists_toInt? hv
      exact ⟨n, hn, (denoted?_box hv).trans hn⟩
    · cases h
  · cases h

/-- None of these types decides itself what is below it. -/
theorem mayDecide_of_isDiscrete {v : Value} {d : HostType} (hv : v.isDiscrete = true)
    (hd : d.isDiscrete = true) : v.typeOf.mayDecide d = false := by
  cases v with
  | integer _ | boolean _ | text _ | scalar _ =>
    cases d with
    | declared c => cases hd
    | _ => rfl
  | _ => cases hv

/-- A type below another one is that type, or that of booleans where integers are declared. -/
theorem typeOf_of_isSubtype {u : Universe} {v : Value} {d : HostType} (hv : v.isDiscrete = true)
    (hd : d.isDiscrete = true) (h : u.isSubtype v.typeOf d = true) :
    v.typeOf = d ∨ v.typeOf = .boolean ∧ d = .integer := by
  have hnumber : (d == .number) = false := by cases d <;> first | rfl | cases hd
  have hsequence : (d == .declared HostType.sequence) = false := by
    cases d <;> first | rfl | cases hd
  rw [Universe.isSubtype, hnumber, hsequence, Bool.false_and, Bool.false_and, Bool.or_false,
    Bool.or_false, List.elem_eq_mem, decide_eq_true_iff] at h
  cases v with
  | integer n =>
    have hmem : d ∈ [HostType.integer, .object] := h
    cases d <;> simp_all [HostType.isDiscrete, typeOf]
  | boolean b =>
    have hmem : d ∈ [HostType.boolean, .integer, .object] := h
    cases d <;> simp_all [HostType.isDiscrete, typeOf]
  | text t =>
    have hmem : d ∈ [HostType.text, .object] := h
    cases d <;> simp_all [HostType.isDiscrete, typeOf]
  | scalar s =>
    have hmem : d ∈ HostType.scalar s.kind :: HostType.scalarAncestors s.kind ++ [.object] := h
    cases d <;> cases s <;>
      simp_all [HostType.isDiscrete, typeOf, HostType.scalarAncestors, Scalar.kind,
        Kind.isDiscrete, isDiscrete]
  | _ => cases hv

/-- Between these types a value of a type below the declared one is passed on, and any other is
converted. -/
theorem adapt_of_isDiscrete {u : Universe} {position : Int} {v : Value} {d : HostType}
    (hv : v.isDiscrete = true) (hd : d.isDiscrete = true) :
    v.adapt u position d = if u.isSubtype v.typeOf d then .ok v
      else (v.convert position d).mapError .mismatch := by
  have hnull : v ≠ .null := by
    rintro rfl
    cases hv
  have hunknown : v ≠ .unknown := by
    rintro rfl
    cases hv
  have hobject : d ≠ .object := by
    rintro rfl
    cases hd
  have harray : d.isArrayType = false := by cases d <;> first | rfl | cases hd
  have hadmits : u.admits v d = .ok (u.isSubtype v.typeOf d) := by
    rw [Universe.admits, harray, if_neg Bool.false_ne_true]
    exact Universe.isInstance_eq_isSubtype fun h => by simp [mayDecide_of_isDiscrete hv hd] at h
  rw [adapt_of_known hnull hunknown, if_neg hobject, hadmits, harray]
  cases u.isSubtype v.typeOf d <;> rfl

/-- Adaptation keeps the number, and the declared type holds it. -/
theorem exists_of_adapt {u : Universe} {position : Int} {v a : Value} {d : HostType}
    (hv : v.isDiscrete = true) (hd : d.isDiscrete = true)
    (htexts : ¬ (v.typeOf = .text ∧ d = .text)) (h : v.adapt u position d = .ok a) :
    ∃ n, v.denoted? = some n ∧ a.denoted? = some n ∧ d.Holds n := by
  rw [adapt_of_isDiscrete hv hd] at h
  cases hsubtype : u.isSubtype v.typeOf d with
  | true =>
    rw [hsubtype, if_pos rfl] at h
    cases h
    have htext : v.typeOf ≠ .text := by
      intro htext
      obtain hsame | ⟨hboolean, -⟩ := typeOf_of_isSubtype hv hd hsubtype
      · exact htexts ⟨htext, hsame ▸ htext⟩
      · rw [htext] at hboolean
        cases hboolean
    obtain ⟨n, hn⟩ := exists_denoted? hv htext
    refine ⟨n, hn, hn, ?_⟩
    obtain hsame | ⟨-, rfl⟩ := typeOf_of_isSubtype hv hd hsubtype
    · exact hsame ▸ holds_of_denoted? hn
    · trivial
  | false =>
    rw [hsubtype, if_neg Bool.false_ne_true, mapError_eq_ok_iff] at h
    obtain ⟨n, hn, ha⟩ := denoted?_of_convert hv hd h
    obtain ⟨-, htype⟩ := typeOf_of_convert h
    exact ⟨n, hn, ha, htype ▸ holds_of_denoted? ha⟩

/-- **Adaptation never wraps.**  Between integers, booleans, characters and texts, two texts apart,
what adaptation gives stands for the same number as what it was given, and the declared type holds
that number.  Where the declared type does not hold it, or a text is not one character and so
stands for none, the argument is a mismatch. -/
theorem denoted?_of_adapt (u : Universe) (position : Int) (v : Value) (d : HostType)
    (hv : v.isDiscrete = true) (hd : d.isDiscrete = true)
    (htexts : ¬ (v.typeOf = .text ∧ d = .text)) :
    (∀ a, v.adapt u position d = .ok a →
      ∃ n, v.denoted? = some n ∧ a.denoted? = some n ∧ d.Holds n) ∧
    ((∀ n, v.denoted? = some n → ¬ d.Holds n) →
      ∃ e, v.adapt u position d = .error (.mismatch e) ∧
        (BridgeError.mismatch e).kind = .argumentMismatch) := by
  constructor
  · intro a h
    exact exists_of_adapt hv hd htexts h
  · intro hout
    cases h : v.adapt u position d with
    | error e =>
      rw [adapt_of_isDiscrete hv hd] at h
      split at h
      · cases h
      · obtain ⟨e, -, rfl⟩ := mapError_eq_error_iff.1 h
        exact ⟨e, rfl, rfl⟩
    | ok a =>
      obtain ⟨n, hn, -, hholds⟩ := exists_of_adapt hv hd htexts h
      exact absurd hholds (hout n hn)

/-- A byte widens to a long with its sign, and an integer that no byte holds is refused. -/
theorem adapt_signed_byte :
    (∃ a, (scalar (.byte (-5))).adapt {} 0 (.scalar .long) = .ok a ∧ a.denoted? = some (-5)) ∧
      ∃ e, (integer 300).adapt {} 0 (.scalar .byte) = .error (.mismatch e) := by
  constructor
  · obtain ⟨hkept, -⟩ :=
      denoted?_of_adapt {} 0 (.scalar (.byte (-5))) (.scalar .long) rfl rfl (by decide)
    have hadapt : (scalar (.byte (-5))).adapt {} 0 (.scalar .long) = .ok (.scalar (.long (-5))) :=
      rfl
    obtain ⟨n, hn, ha, -⟩ := hkept _ hadapt
    obtain rfl : -5 = n := Option.some.inj hn
    exact ⟨_, hadapt, ha⟩
  · obtain ⟨-, hrefused⟩ :=
      denoted?_of_adapt {} 0 (.integer 300) (.scalar .byte) rfl rfl (by decide)
    have hrange : ∀ n, (integer 300).denoted? = some n → ¬ (HostType.scalar .byte).Holds n := by
      intro n hn
      obtain rfl : 300 = n := Option.some.inj hn
      exact fun hholds => absurd hholds.2 (by decide)
    obtain ⟨e, he, -⟩ := hrefused hrange
    exact ⟨e, he⟩

end Value

end HostCall
