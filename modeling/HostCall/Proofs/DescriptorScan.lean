import HostCall.Proofs.DescriptorGrammar

/-!
# Scanning a parameter list

A parameter list is read by a loop over places: `endFrom` finds where the descriptor at a place
ends, and the loop goes on from there.  `Scan` says what such a loop has read on its way from one
place to another.  `splitAll` cuts the text instead and measures what is left, and both are the same
reader (`exists_scan`): it stops at the end of the text, or at the first place where no descriptor
begins.  Since every descriptor has at least one code point, no scan takes more steps than the text
is long.

Main statement, `split_inverse`: splitting takes concatenations of descriptors apart, only these,
and each in one way.
-/

namespace HostCall

open Result

namespace Descriptor

/-! ## Descriptors by their place -/

/-- Where the descriptor at a place ends is told by its length. -/
theorem endFrom_natCast (t : Text) (i : Nat) :
    endFrom t i = match headLength (t.drop i) with
      | .ok n => .ok ((i + n : Nat) : Int)
      | .error e => .error (.fault e) := by
  have hstart : ¬ (i : Int) < -(t.length : Int) := by omega
  have hsign : ¬ (i : Int) < 0 := by omega
  have hplace : ¬ (i : Int) + dimensions (t.drop i) < 0 := by omega
  rw [endFrom, if_neg hstart, headLength]
  simp only [if_neg hsign, Int.toNat_natCast]
  by_cases hdim : dimensions (t.drop i) > maxDimensions
  · rw [if_pos hdim, if_pos hdim]
  · rw [if_neg hdim, if_neg hdim]
    cases hcore : component (t.drop i) with
    | nil => rfl
    | cons c rest =>
      simp only [hplace, and_false, if_false]
      cases coreLength (c :: rest) with
      | error e => rfl
      | ok n =>
        refine congrArg Except.ok ?_
        push_cast
        omega

theorem endFrom_eq_ok_iff {t : Text} {i : Nat} {j : Int} :
    endFrom t i = .ok j ↔ ∃ n, headLength (t.drop i) = .ok n ∧ j = (i + n : Nat) := by
  rw [endFrom_natCast]
  cases headLength (t.drop i) with
  | error e => simp
  | ok n =>
    simp only [Except.ok.injEq, exists_eq_left']
    exact eq_comm

/-- A descriptor ends behind the place where it begins, and within the text. -/
theorem lt_of_endFrom {t : Text} {i j : Nat} (h : endFrom t i = .ok j) : i < j ∧ j ≤ t.length := by
  obtain ⟨n, hn, hj⟩ := endFrom_eq_ok_iff.1 h
  obtain ⟨hpos, hle⟩ := headLength_bounds hn
  rw [List.length_drop] at hle
  omega

/-! ## Runs of the loop -/

/-- What the loop reads from one place to another: a descriptor at a place within the text, and what
follows from its end on. -/
inductive Scan (t : Text) : Nat → List Text → Nat → Prop
  | here (i : Nat) : Scan t i [] i
  | part {i j k : Nat} {ds : List Text} : i < t.length → endFrom t i = .ok j → Scan t j ds k →
    Scan t i ((t.take j).drop i :: ds) k

/-- Each part takes the scan at least one place on, and none takes it out of the text. -/
theorem Scan.bounds {t : Text} {i k : Nat} {ds : List Text} (h : Scan t i ds k)
    (hi : i ≤ t.length) : i + ds.length ≤ k ∧ k ≤ t.length := by
  induction h with
  | here i => exact ⟨Nat.le_refl i, hi⟩
  | part hlt hend rest ih =>
    obtain ⟨hstep, hin⟩ := lt_of_endFrom hend
    obtain ⟨hle, hk⟩ := ih hin
    rw [List.length_cons]
    omega

/-- Cutting off the first descriptor. -/
theorem splitAll_drop {t : Text} {i n : Nat} (hn : headLength (t.drop i) = .ok n) :
    splitAll (t.drop i) = (splitAll (t.drop (i + n))).map ((t.take (i + n)).drop i :: ·) := by
  have hvalue := isValue_of_headLength hn
  have hparts : t.drop i = (t.drop i).take n ++ t.drop (i + n) := by
    rw [← List.drop_drop, List.take_append_drop]
  have hpart : (t.take (i + n)).drop i = (t.drop i).take n := by
    rw [List.drop_take, Nat.add_sub_cancel_left]
  rw [hpart, hparts, List.take_append_of_le_length, List.take_take, Nat.min_self]
  · rw [splitAll_cons hvalue]
  · have hle := (headLength_bounds hn).2
    rw [List.length_take]
    omega

/-- From every place a scan comes to the end of the text, having read what splitting gives, or to a
place where no descriptor begins, for which splitting fails. -/
theorem exists_scan (t : Text) {i : Nat} (hi : i ≤ t.length) :
    ∃ ds k, Scan t i ds k ∧ ((k = t.length ∧ splitAll (t.drop i) = .ok ds) ∨
      k < t.length ∧ ∃ e, endFrom t k = .error (.fault e) ∧ splitAll (t.drop i) = .error e) := by
  induction hleft : t.length - i using Nat.strongRecOn generalizing i with
  | ind left ih =>
    rcases Nat.lt_or_ge i t.length with hlt | hge
    · cases hhead : headLength (t.drop i) with
      | error e =>
        have hne : t.drop i ≠ [] := fun hnil => by
          rw [List.drop_eq_nil_iff] at hnil
          omega
        refine ⟨[], i, .here i, .inr ⟨hlt, e, ?_, ?_⟩⟩
        · rw [endFrom_natCast, hhead]
        · rw [splitAll, if_neg hne]
          split
          · rename_i e' he
            rw [hhead] at he
            cases he
            rfl
          · rename_i n hn
            rw [hhead] at hn
            cases hn
      | ok n =>
        have hend : endFrom t i = .ok ((i + n : Nat) : Int) := by rw [endFrom_natCast, hhead]
        obtain ⟨hstep, hin⟩ := lt_of_endFrom hend
        obtain ⟨ds, k, hscan, hout⟩ := ih (t.length - (i + n)) (by omega) hin rfl
        refine ⟨_, k, .part hlt hend hscan, ?_⟩
        rw [splitAll_drop hhead]
        rcases hout with ⟨hk, hds⟩ | ⟨hk, e, he, hds⟩
        · exact .inl ⟨hk, by rw [hds]; rfl⟩
        · exact .inr ⟨hk, e, he, by rw [hds]; rfl⟩
    · obtain rfl : i = t.length := Nat.le_antisymm hi hge
      refine ⟨[], t.length, .here _, .inl ⟨rfl, ?_⟩⟩
      rw [List.drop_length, splitAll]
      rfl

/-! ## Splitting and concatenation -/

/-- The parts that a text is split into are mapped to value types, and they make up the text. -/
theorem split_eq_ok_iff_parse {t : Text} {ds : List Text} :
    split t = .ok ds ↔ (∀ d ∈ ds, ∃ v, ValueType.parse d = .ok v) ∧ ds.flatten = t := by
  simp only [split_eq_ok_iff, ValueType.exists_parse_iff]

/-- A list of accepted descriptors is read back from their concatenation. -/
theorem split_flatten {ds : List Text} (hds : ∀ d ∈ ds, ∃ v, ValueType.parse d = .ok v) :
    split ds.flatten = .ok ds :=
  split_eq_ok_iff_parse.2 ⟨hds, rfl⟩

/-- **Splitting is the inverse of concatenation.**  Accepted descriptors are read back from their
concatenation.  A text that is split is the concatenation of the parts, each of which is accepted;
so the texts that are split are the concatenations of accepted descriptors, and no text is one of
two lists.  Surrogates make no difference.  Whatever the text, the scan ends: no scan has more parts
than the text has code points, and one comes to the end of the text, or to a place where no
descriptor begins and splitting fails. -/
theorem split_inverse :
    (∀ ds : List Text, (∀ d ∈ ds, ∃ v, ValueType.parse d = .ok v) → split ds.flatten = .ok ds) ∧
    (∀ t : Text, ∀ ds, split t = .ok ds →
      ds.flatten = t ∧ ∀ d ∈ ds, ∃ v, ValueType.parse d = .ok v) ∧
    (∀ t : Text, (∃ ds, split t = .ok ds) ↔
      ∃ ds : List Text, (∀ d ∈ ds, ∃ v, ValueType.parse d = .ok v) ∧ ds.flatten = t) ∧
    (∀ ds ds' : List Text, (∀ d ∈ ds, ∃ v, ValueType.parse d = .ok v) →
      (∀ d ∈ ds', ∃ v, ValueType.parse d = .ok v) → ds.flatten = ds'.flatten → ds = ds') ∧
    ∀ t : Text, (∀ ds k, Scan t 0 ds k → ds.length ≤ t.length) ∧
      ∃ ds k, Scan t 0 ds k ∧ ((k = t.length ∧ split t = .ok ds) ∨
        k < t.length ∧ ∃ e, endFrom t k = .error (.fault e) ∧
          split t = .error (.descriptor e t)) := by
  refine ⟨fun ds => split_flatten, fun t ds hds => ?_, fun t => ?_, ?_, fun t => ⟨?_, ?_⟩⟩
  · obtain ⟨hparts, hflat⟩ := split_eq_ok_iff_parse.1 hds
    exact ⟨hflat, hparts⟩
  · simp only [split_eq_ok_iff_parse]
  · intro ds ds' hds hds' hflat
    have hsplit := split_flatten hds
    rw [hflat, split_flatten hds'] at hsplit
    exact (Except.ok.inj hsplit).symm
  · intro ds k hscan
    have hbounds := hscan.bounds (Nat.zero_le _)
    omega
  · obtain ⟨ds, k, hscan, hout⟩ := exists_scan t (Nat.zero_le _)
    rw [List.drop_zero] at hout
    refine ⟨ds, k, hscan, ?_⟩
    rcases hout with ⟨hk, hds⟩ | ⟨hk, e, he, hds⟩
    · exact .inl ⟨hk, by rw [split, hds]; rfl⟩
    · exact .inr ⟨hk, e, he, by rw [split, hds]; rfl⟩

/-- An array and a class between letters. -/
theorem split_mixed_parameters :
    let ds : List Text := [[.ofChar 'I'], "[[J", "La/b;", [.ofChar 'Z']]
    (∀ d ∈ ds, ∃ v, ValueType.parse d = .ok v) ∧
      split "I[[JLa/b;Z" = .ok ds ∧ ds.flatten = "I[[JLa/b;Z" := by
  intro ds
  have hds : ∀ d ∈ ds, ∃ v, ValueType.parse d = .ok v := by
    simp only [ds, List.forall_mem_cons]
    exact ⟨⟨_, rfl⟩, ⟨_, rfl⟩, ⟨_, rfl⟩, ⟨_, rfl⟩, List.forall_mem_nil _⟩
  obtain ⟨hread, hparts, -⟩ := split_inverse
  have hsplit : split "I[[JLa/b;Z" = .ok ds := hread ds hds
  exact ⟨hds, hsplit, (hparts _ ds hsplit).1⟩

end Descriptor

end HostCall
