import HostCall.Proofs.Passage

/-!
# Searching texts

Five members tell where one text stands in another, each in its own way: as a least index, as a
truth value about any place or about one end, or by giving the part itself.  `StandsAt` is what they
have in common, and `IsFirst` what a search does with it.  Indices are `int` values, and the end of
a part is a sum that may wrap around; but the end of a part that exists does not (`occursAt_iff`).

A search for a code point goes through the text of one code point, and not every `int` has one.

Main statements: `search_coherent` for a text, and `indexOf_code` for a code point.
-/

namespace HostCall

open Result

namespace Library

variable {s t : Text} {h : Heap}

/-! ## Members on texts -/

theorem call_length (hs : s.length < 2 ^ 31) :
    textClass.call "length" [] "I" (.text s) [] h =
      (.ok (.scalar (.int (Int32.ofInt s.length))), h) := by
  refine HostClass.call_text_method (t := s) (x := .ok (.scalar (.int (Int32.ofInt s.length)))) []
    ⟨rfl, rfl⟩ rfl rfl ?_
  have hlength : (Value.text s).length h = .ok s.length := rfl
  have hscalar := Value.integerToScalar_int (n := s.length) (by omega)
  rw [List.map_nil, Resolver.unary_call, map_read_apply, hlength, ok_bind, hscalar]
  rfl

theorem indexOf_bounds (t s : Text) : -1 ≤ indexOf t s ∧ indexOf t s ≤ s.length := by
  rw [indexOf]
  cases hfind : Text.find? t s with
  | none =>
    dsimp only
    omega
  | some i =>
    have hi := (Text.find?_eq_some_iff.1 hfind).1
    dsimp only
    omega

theorem toInt_ofInt_indexOf (hs : s.length < 2 ^ 31) :
    (Int32.ofInt (indexOf t s)).toInt = indexOf t s := by
  have hbounds := indexOf_bounds t s
  exact Int32.toInt_ofInt_of_le (by omega) (by omega)

theorem call_indexOf (hs : s.length < 2 ^ 31) :
    textClass.call "indexOf" [.reference textDescriptor] "I" (.text s) [.text t] h =
      (.ok (.scalar (.int (Int32.ofInt (indexOf t s)))), h) := by
  have hbounds := indexOf_bounds t s
  have hscalar := Value.integerToScalar_int (n := indexOf t s) (by omega)
  refine HostClass.call_text_variant (t := s)
    (x := .ok (.scalar (.int (Int32.ofInt (indexOf t s))))) [.text t] ⟨rfl, rfl⟩ rfl (by decide)
    (by decide) (List.mem_of_getElem? (i := 1) rfl) rfl ?_
  have hfound : findText (.text s) (.text t) =
      .ok (.scalar (.int (Int32.ofInt (indexOf t s)))) := by
    show (Value.integerToScalar .int (indexOf t s)).map Value.scalar = _
    rw [hscalar]
    rfl
  rw [List.map_singleton, Resolver.binary_call]
  refine update_of_map ?_
  show (findText (.text s) (.text t)).map (fun v => (v, h)) = _
  rw [hfound]

theorem call_contains (s t : Text) (h : Heap) :
    textClass.call "contains" [.reference Passage.charsDescriptor] "Z" (.text s) [.text t] h =
      (.ok (.boolean (Text.contains t s)), h) :=
  HostClass.call_text_method (t := s) (x := .ok (.boolean (Text.contains t s))) [.chars t]
    ⟨rfl, rfl⟩ rfl rfl rfl

theorem call_startsWith (s t : Text) (h : Heap) :
    textClass.call "startsWith" [.reference textDescriptor] "Z" (.text s) [.text t] h =
      (.ok (.boolean (Text.startsWith t s)), h) :=
  HostClass.call_text_method (t := s) (x := .ok (.boolean (Text.startsWith t s))) [.text t]
    ⟨rfl, rfl⟩ rfl rfl rfl

theorem call_endsWith (s t : Text) (h : Heap) :
    textClass.call "endsWith" [.reference textDescriptor] "Z" (.text s) [.text t] h =
      (.ok (.boolean (Text.endsWith t s)), h) :=
  HostClass.call_text_method (t := s) (x := .ok (.boolean (Text.endsWith t s))) [.text t]
    ⟨rfl, rfl⟩ rfl rfl rfl

theorem denoted?_int (n : Int32) : (Value.scalar (.int n)).denoted? = some n.toInt := rfl

/-- What lies between two bounds of a text. -/
def textBetween (s : Text) (i j : Int) : Except HostError Value :=
  if 0 ≤ i ∧ i ≤ j ∧ j ≤ s.length then .ok (.text (Value.part i.toNat j.toNat s))
  else .error (.citing [i, j] (.rangeOutside i j s.length))

theorem sliceBetween_text (h : Heap) (s : Text) (i j : Int) :
    sliceBetween h (.text s) i j = (textBetween s i j).map fun v => (v, h) := by
  rw [textBetween]
  show (if i < 0 ∨ j > s.length ∨ i > j then _ else _) = _
  by_cases hbounds : 0 ≤ i ∧ i ≤ j ∧ j ≤ s.length
  · rw [if_neg (by omega), if_pos hbounds]
    rfl
  · rw [if_pos (by omega), if_neg hbounds]
    rfl

theorem update_sliceBetween (h : Heap) (s : Text) (i j : Int) :
    HostM.update (fun h => sliceBetween h (.text s) i j) h = (textBetween s i j, h) :=
  update_of_map (sliceBetween_text h s i j)

theorem call_substring (s : Text) (i : Int32) (h : Heap) :
    textClass.call "substring" [.primitive .int] textDescriptor (.text s) [.scalar (.int i)] h =
      ((textBetween s i.toInt s.length).mapError fun e =>
        .wrapping e (.target (Resolver.label textClass "substring") e), h) := by
  refine HostClass.call_text_variant (t := s) [.int i (denoted?_int i)] ⟨rfl, rfl⟩ rfl
    (by decide) (by decide) (List.mem_of_getElem? (i := 0) rfl) rfl ?_
  rw [List.map_singleton, Passage.received_int]
  exact update_sliceBetween h s i.toInt s.length

theorem call_substring_range (s : Text) (i j : Int32) (h : Heap) :
    textClass.call "substring" [.primitive .int, .primitive .int] textDescriptor (.text s)
        [.scalar (.int i), .scalar (.int j)] h =
      ((textBetween s i.toInt j.toInt).mapError fun e =>
        .wrapping e (.target (Resolver.label textClass "substring") e), h) := by
  refine HostClass.call_text_variant (t := s)
    [.int i (denoted?_int i), .int j (denoted?_int j)] ⟨rfl, rfl⟩ rfl
    (by decide) (by decide) (List.mem_of_getElem? (i := 1) rfl) rfl ?_
  rw [List.map_cons, List.map_singleton, Passage.received_int, Passage.received_int]
  exact update_sliceBetween h s i.toInt j.toInt

/-! ## First places -/

/-- The least index with a property, or minus one where no index has it. -/
def IsFirst (P : Nat → Prop) (r : Int) : Prop :=
  (r = -1 ∧ ∀ i, ¬ P i) ∨ ∃ i : Nat, r = i ∧ P i ∧ ∀ j < i, ¬ P j

theorem IsFirst.congr {P Q : Nat → Prop} {r : Int} (hr : IsFirst P r) (h : ∀ i, P i ↔ Q i) :
    IsFirst Q r := by
  rcases hr with ⟨hr, hnone⟩ | ⟨i, hr, hi, hleast⟩
  · exact .inl ⟨hr, fun i hi => hnone i ((h i).2 hi)⟩
  · exact .inr ⟨i, hr, (h i).1 hi, fun j hj hq => hleast j hj ((h j).2 hq)⟩

theorem IsFirst.eq_zero_iff {P : Nat → Prop} {r : Int} (hr : IsFirst P r) : r = 0 ↔ P 0 := by
  rcases hr with ⟨rfl, hnone⟩ | ⟨i, rfl, hi, hleast⟩
  · exact iff_of_false (by decide) (hnone 0)
  · constructor
    · intro hzero
      obtain rfl : i = 0 := by omega
      exact hi
    · intro hzero
      by_contra hne
      exact hleast 0 (by omega) hzero

/-- The same for a property of the indices that a call takes. -/
theorem IsFirst.toInt {P : Nat → Prop} {Q : Int32 → Prop} {r : Int32} (hr : IsFirst P r.toInt)
    (h : ∀ i : Int32, Q i ↔ 0 ≤ i.toInt ∧ P i.toInt.toNat) :
    -1 ≤ r ∧ (0 ≤ r → Q r ∧ ∀ i < r, ¬ Q i) ∧ (r = -1 ↔ ∀ i, ¬ Q i) := by
  have hone : (-1 : Int32).toInt = -1 := rfl
  have hzero : (0 : Int32).toInt = 0 := rfl
  simp only [Int32.le_iff_toInt_le, Int32.lt_iff_toInt_lt, ← Int32.toInt_inj, hone, hzero]
  rcases hr with ⟨hr, hnone⟩ | ⟨i, hr, hi, hleast⟩
  · refine ⟨by omega, fun hnonneg => absurd hnonneg (by omega), iff_of_true hr fun j hj => ?_⟩
    exact hnone _ ((h j).1 hj).2
  · have hto : r.toInt.toNat = i := by omega
    have hq : Q r := (h r).2 ⟨by omega, by rwa [hto]⟩
    refine ⟨by omega, fun _ => ⟨hq, fun j hj hqj => ?_⟩, iff_of_false (by omega) fun hall => ?_⟩
    · obtain ⟨hnonneg, hj'⟩ := (h j).1 hqj
      exact hleast j.toInt.toNat (by omega) hj'
    · exact hall r hq

/-- The needle stands at an index. -/
def StandsAt (t s : Text) (i : Nat) : Prop := i ≤ s.length ∧ t <+: s.drop i

theorem isFirst_indexOf (t s : Text) : IsFirst (StandsAt t s) (indexOf t s) := by
  rw [indexOf]
  cases hfind : Text.find? t s with
  | none =>
    have hnone := Text.find?_eq_none_iff.1 hfind
    exact .inl ⟨rfl, fun i hi => hnone i hi.1 hi.2⟩
  | some i =>
    obtain ⟨hi, hprefix, hleast⟩ := Text.find?_eq_some_iff.1 hfind
    exact .inr ⟨i, rfl, ⟨hi, hprefix⟩, fun j hj hstands => hleast j hj hstands.2⟩

theorem contains_eq (t s : Text) : Text.contains t s = decide (0 ≤ indexOf t s) := by
  rw [Text.contains, indexOf]
  cases Text.find? t s with
  | none => rfl
  | some i => simp

theorem startsWith_iff (t s : Text) : Text.startsWith t s = true ↔ StandsAt t s 0 := by
  rw [Text.startsWith, List.isPrefixOf_iff_prefix, StandsAt, List.drop_zero]
  exact ⟨fun h => ⟨Nat.zero_le _, h⟩, fun h => h.2⟩

theorem textBetween_eq_iff {i j : Int} :
    textBetween s i j = .ok (.text t) ↔
      (0 ≤ i ∧ i ≤ j ∧ j ≤ s.length) ∧ Value.part i.toNat j.toNat s = t := by
  rw [textBetween]
  by_cases hbounds : 0 ≤ i ∧ i ≤ j ∧ j ≤ s.length
  · rw [if_pos hbounds]
    simp [hbounds]
  · rw [if_neg hbounds]
    simp [hbounds]

/-- A needle stands where the part of its length is the needle. -/
theorem part_eq_iff {i : Nat} (hi : i + t.length ≤ s.length) :
    Value.part i (i + t.length) s = t ↔ StandsAt t s i := by
  rw [Value.part, List.drop_take, Nat.add_sub_cancel_left, StandsAt, List.prefix_iff_eq_take]
  constructor
  · intro h
    exact ⟨by omega, h.symm⟩
  · rintro ⟨-, h⟩
    exact h.symm

theorem StandsAt.le {i : Nat} (h : StandsAt t s i) : i + t.length ≤ s.length := by
  have hlength := h.2.length_le
  rw [List.length_drop] at hlength
  have hi := h.1
  omega

/-! ## Occurrences -/

/-- The part that begins at an index and is as long as the needle is the needle. -/
def OccursAt (s t : Text) (h : Heap) (n i : Int32) : Prop :=
  textClass.call "substring" [.primitive .int, .primitive .int] textDescriptor (.text s)
    [.scalar (.int i), .scalar (.int (i + n))] h = (.ok (.text t), h)

theorem outcome_eq_ok_iff {x : Except HostError Value} {f : HostError → Failure} {v : Value} :
    ((x.mapError f, h) : Except Failure Value × Heap) = (.ok v, h) ↔ x = .ok v := by
  rw [Prod.mk.injEq, mapError_eq_ok_iff]
  exact and_iff_left rfl

theorem occursAt_iff {n i : Int32} (hs : s.length < 2 ^ 31) (hn : n.toInt = t.length) :
    OccursAt s t h n i ↔ 0 ≤ i.toInt ∧ StandsAt t s i.toInt.toNat := by
  rw [OccursAt, call_substring_range, outcome_eq_ok_iff, textBetween_eq_iff, Int32.toInt_add, hn]
  have hlow := i.le_toInt
  have hhigh := i.toInt_lt
  have hlt := n.toInt_lt
  -- An end beyond the range of `int` wraps around to a negative one, which no part has.
  have hend : (i.toInt + t.length).bmod (2 ^ 32) =
      if i.toInt + t.length < 2 ^ 31 then i.toInt + t.length else i.toInt + t.length - 2 ^ 32 := by
    rw [Int.bmod_def]
    omega
  rw [hend]
  constructor
  · rintro ⟨hbounds, hpart⟩
    have hfits : i.toInt + t.length < 2 ^ 31 := by
      by_contra hlarge
      rw [if_neg hlarge] at hbounds
      omega
    rw [if_pos hfits] at hbounds hpart
    have hto : (i.toInt + t.length).toNat = i.toInt.toNat + t.length := by omega
    rw [hto] at hpart
    exact ⟨hbounds.1, (part_eq_iff (by omega)).1 hpart⟩
  · rintro ⟨hnonneg, hstands⟩
    have hle := hstands.le
    have hto : (i.toInt + t.length).toNat = i.toInt.toNat + t.length := by omega
    rw [if_pos (by omega), hto]
    exact ⟨by omega, (part_eq_iff hle).2 hstands⟩

/-- A text ends with another where the part behind the difference of the lengths is the other. -/
theorem endsWith_iff {m n : Int32} (hm : m.toInt = s.length) (hn : n.toInt = t.length) :
    Text.endsWith t s = true ↔ n ≤ m ∧
      textClass.call "substring" [.primitive .int] textDescriptor (.text s)
        [.scalar (.int (m - n))] h = (.ok (.text t), h) := by
  rw [Text.endsWith, List.isSuffixOf_iff_suffix, List.suffix_iff_eq_drop, call_substring,
    outcome_eq_ok_iff, textBetween_eq_iff, Int32.le_iff_toInt_le, hm, hn]
  have hmlt := m.toInt_lt
  have hnlt := n.toInt_lt
  have hpart : Value.part (m - n).toInt.toNat (s.length : Int).toNat s =
      s.drop (m - n).toInt.toNat := by
    rw [Value.part, Int.toNat_natCast, List.take_length]
  have hdifference : (m - n).toInt = (s.length : Int) - t.length := by
    rw [Int32.toInt_sub, hm, hn, Int.bmod_def]
    omega
  rw [hpart, hdifference]
  constructor
  · intro hdrop
    have hlength := congrArg List.length hdrop
    rw [List.length_drop] at hlength
    have hto : ((s.length : Int) - t.length).toNat = s.length - t.length := by omega
    rw [hto]
    exact ⟨by omega, by omega, hdrop.symm⟩
  · rintro ⟨hle, -, hdrop⟩
    have hto : ((s.length : Int) - t.length).toNat = s.length - t.length := by omega
    rw [hto] at hdrop
    exact hdrop.symm

/-- **Searches agree.**  The index that is found is the least one where the part of the needle's
length is the needle, and minus one stands for none.  The needle is contained when the index is not
negative, stands at the beginning when it is zero, and at the end when the part behind the
difference of the lengths is the needle. -/
theorem search_coherent (s t : Text) (hs : s.length < 2 ^ 31) (ht : t.length < 2 ^ 31) (h : Heap) :
    ∃ (r m n : Int32) (e : Bool),
      textClass.call "indexOf" [.reference textDescriptor] "I" (.text s) [.text t] h =
        (.ok (.scalar (.int r)), h) ∧
      textClass.call "length" [] "I" (.text s) [] h = (.ok (.scalar (.int m)), h) ∧
      textClass.call "length" [] "I" (.text t) [] h = (.ok (.scalar (.int n)), h) ∧
      -1 ≤ r ∧
      (0 ≤ r → OccursAt s t h n r ∧ ∀ i < r, ¬ OccursAt s t h n i) ∧
      (r = -1 ↔ ∀ i, ¬ OccursAt s t h n i) ∧
      textClass.call "contains" [.reference Passage.charsDescriptor] "Z" (.text s) [.text t] h =
        (.ok (.boolean (decide (0 ≤ r))), h) ∧
      textClass.call "startsWith" [.reference textDescriptor] "Z" (.text s) [.text t] h =
        (.ok (.boolean (decide (r = 0))), h) ∧
      textClass.call "endsWith" [.reference textDescriptor] "Z" (.text s) [.text t] h =
        (.ok (.boolean e), h) ∧
      (e = true ↔ n ≤ m ∧
        textClass.call "substring" [.primitive .int] textDescriptor (.text s)
          [.scalar (.int (m - n))] h = (.ok (.text t), h)) := by
  have hr := toInt_ofInt_indexOf (t := t) hs
  have hm : (Int32.ofInt s.length).toInt = s.length := Int32.toInt_ofInt_of_le (by omega) (by omega)
  have hn : (Int32.ofInt t.length).toInt = t.length := Int32.toInt_ofInt_of_le (by omega) (by omega)
  have hfirst := isFirst_indexOf t s
  have hcontains : 0 ≤ Int32.ofInt (indexOf t s) ↔ 0 ≤ indexOf t s := by
    rw [Int32.le_iff_toInt_le, hr]
    exact Iff.rfl
  have hstarts : Int32.ofInt (indexOf t s) = 0 ↔ Text.startsWith t s = true := by
    rw [startsWith_iff, ← hfirst.eq_zero_iff, ← Int32.toInt_inj, hr]
    exact Iff.rfl
  rw [← hr] at hfirst
  obtain ⟨hlow, hoccurs, hnone⟩ := hfirst.toInt fun i => occursAt_iff (h := h) hs hn
  refine ⟨Int32.ofInt (indexOf t s), Int32.ofInt s.length, Int32.ofInt t.length,
    Text.endsWith t s, call_indexOf hs, call_length hs, call_length ht, hlow, hoccurs, hnone, ?_,
    ?_, call_endsWith s t h, endsWith_iff hm hn⟩
  · rw [call_contains, contains_eq, decide_eq_decide.2 hcontains]
  · rw [call_startsWith, Bool.eq_iff_iff.2 (hstarts.symm.trans decide_eq_true_iff.symm)]

/-- In `baab` the text `ab` stands at its end alone, and `endsWith` finds it there. -/
theorem search_coherent_at_end :
    let s : Text := "baab"
    let t : Text := "ab"
    s.length < 2 ^ 31 ∧ t.length < 2 ^ 31 ∧
      OccursAt s t {} 2 2 ∧ (∀ i < 2, ¬ OccursAt s t {} 2 i) ∧
      textClass.call "substring" [.primitive .int] textDescriptor (.text s) [.scalar (.int 2)] {} =
        (.ok (.text t), {}) := by
  intro s t
  have hs : s.length < 2 ^ 31 := by decide
  have ht : t.length < 2 ^ 31 := by decide
  obtain ⟨r, m, n, e, hindex, hm, hn, -, hoccurs, -, -, -, hends, hend⟩ :=
    search_coherent s t hs ht {}
  rw [call_indexOf hs] at hindex
  rw [call_length hs] at hm
  rw [call_length ht] at hn
  rw [call_endsWith] at hends
  cases hindex
  cases hm
  cases hn
  cases hends
  obtain ⟨hhere, hbefore⟩ := hoccurs (by decide)
  obtain ⟨-, hpart⟩ := hend.1 (by decide)
  have hplace : Int32.ofInt s.length - Int32.ofInt t.length = 2 := by decide
  rw [hplace] at hpart
  exact ⟨hs, ht, hhere, hbefore, hpart⟩

/-! ## Searching for a code point -/

/-- The code point at an index has a number. -/
def CodeAt (s : Text) (n : Int) (i : Nat) : Prop := ∃ x, s[i]? = some x ∧ (x.val : Int) = n

theorem standsAt_singleton (x : CodePoint) (s : Text) (i : Nat) :
    StandsAt [x] s i ↔ CodeAt s x.val i := by
  have hhead : (s.drop i).head? = s[i]? := List.head?_drop
  rw [StandsAt, CodeAt, ← hhead]
  cases hdrop : s.drop i with
  | nil => simp
  | cons y rest =>
    have hi : i < s.length := by
      by_contra hle
      rw [List.drop_eq_nil_of_le (by omega)] at hdrop
      cases hdrop
    rw [List.cons_prefix_cons, List.head?_cons]
    constructor
    · rintro ⟨-, rfl, -⟩
      exact ⟨x, rfl, rfl⟩
    · rintro ⟨z, hz, hval⟩
      cases hz
      exact ⟨by omega, CodePoint.ext_val (by omega), List.nil_prefix⟩

theorem call_indexOf_code (s : Text) {c : Int32} {v : Value} (hv : v.denoted? = some c.toInt) :
    textClass.call "indexOf" [.primitive .int] "I" (.text s) [v] h =
      ((findCode (.text s) (.scalar (.int c))).mapError fun e =>
        .wrapping e (.target (Resolver.label textClass "indexOf") e), h) := by
  refine HostClass.call_text_variant (t := s) [.int c hv] ⟨rfl, rfl⟩ rfl (by decide) (by decide)
    (List.mem_of_getElem? (i := 0) rfl) rfl ?_
  rw [List.map_singleton, Passage.received_int, Resolver.binary_call]
  exact update_of_map (f := fun h => placeFound h (.text s) _ _) rfl

/-- The number of a code point is searched for as a text of one. -/
theorem findCode_of_code {c : Int32} {x : CodePoint} (hx : (x.val : Int) = c.toInt)
    (hs : s.length < 2 ^ 31) :
    findCode (.text s) (.scalar (.int c)) = .ok (.scalar (.int (Int32.ofInt (indexOf [x] s)))) := by
  have hbounds := indexOf_bounds [x] s
  have hscalar := Value.integerToScalar_int (n := indexOf [x] s) (by omega)
  have hchar : Value.character c.toInt = .ok [x] := by
    have hcode : CodePoint.ofInt? x.val = some x := CodePoint.ofNat?_val x
    rw [← hx, Value.character, hcode]
  show (do findText (.text s) (.text (← Value.character c.toInt))) = _
  rw [hchar]
  show (Value.integerToScalar .int (indexOf [x] s)).map Value.scalar = _
  rw [hscalar]
  rfl

/-- Any other number is refused before the search. -/
theorem findCode_of_no_code {c : Int32} (hc : c.toInt < 0 ∨ 0x110000 ≤ c.toInt) :
    findCode (.text s) (.scalar (.int c)) = .error .notACodePoint := by
  have hlow := c.le_toInt
  have hhigh := c.toInt_lt
  have hcode : CodePoint.ofInt? c.toInt = none := by
    cases hn : c.toInt with
    | ofNat n =>
      have hcast : Int.ofNat n = (n : Int) := rfl
      exact dif_neg (by omega)
    | negSucc n => rfl
  have hchar : Value.character c.toInt = .error .notACodePoint := by
    rw [Value.character, hcode, if_neg (by omega)]
  show (do findText (.text s) (.text (← Value.character c.toInt))) = _
  rw [hchar]
  rfl

/-- **A search for a code point is as partial as code points are.**  The least index of a code point
is found, or minus one where there is none, and a number that is no code point is refused as a bad
value whatever the text holds. -/
theorem indexOf_code (s : Text) (c : Int32) (v : Value) (h : Heap) (hs : s.length < 2 ^ 31)
    (hv : v.denoted? = some c.toInt) :
    (0 ≤ c.toInt → c.toInt < 0x110000 → ∃ r : Int32,
      textClass.call "indexOf" [.primitive .int] "I" (.text s) [v] h =
        (.ok (.scalar (.int r)), h) ∧ IsFirst (CodeAt s c.toInt) r.toInt) ∧
    (c.toInt < 0 ∨ 0x110000 ≤ c.toInt → ∃ e : HostError,
      textClass.call "indexOf" [.primitive .int] "I" (.text s) [v] h =
        (.error (.bridge (.target (Resolver.label textClass "indexOf") e)), h) ∧
      e.kind = .value) := by
  rw [call_indexOf_code s hv]
  constructor
  · intro hlow hhigh
    obtain ⟨x, hx⟩ : ∃ x : CodePoint, (x.val : Int) = c.toInt :=
      ⟨⟨c.toInt.toNat, by omega⟩, Int.toNat_of_nonneg hlow⟩
    refine ⟨Int32.ofInt (indexOf [x] s), ?_, ?_⟩
    · rw [findCode_of_code hx hs]
      rfl
    · rw [toInt_ofInt_indexOf hs, ← hx]
      exact (isFirst_indexOf [x] s).congr (standsAt_singleton x s)
  · intro hc
    refine ⟨.notACodePoint, ?_, rfl⟩
    rw [findCode_of_no_code hc]
    rfl

/-- The letter `b` is found in `abcb` at its first place, and minus one is refused. -/
theorem indexOf_code_letter :
    let s : Text := "abcb"
    s.length < 2 ^ 31 ∧ (Value.integer 98).denoted? = some 98 ∧
      (∃ r : Int32, textClass.call "indexOf" [.primitive .int] "I" (.text s) [.integer 98] {} =
        (.ok (.scalar (.int r)), {}) ∧ IsFirst (CodeAt s 98) r.toInt) ∧
      ∃ e : HostError, textClass.call "indexOf" [.primitive .int] "I" (.text s) [.integer (-1)] {} =
        (.error (.bridge (.target (Resolver.label textClass "indexOf") e)), {}) ∧
        e.kind = .value := by
  intro s
  have hs : s.length < 2 ^ 31 := by decide
  obtain ⟨hfound, -⟩ := indexOf_code s 98 (.integer 98) {} hs rfl
  obtain ⟨-, hrefused⟩ := indexOf_code s (-1) (.integer (-1)) {} hs rfl
  exact ⟨hs, rfl, hfound (by decide) (by decide), hrefused (.inl (by decide))⟩

/-- In `abc` a search for minus one fails, although there is no such code point to find. -/
theorem indexOf_not_total :
    ¬ ∀ (s : Text) (c : Int32) (h : Heap), s.length < 2 ^ 31 → ∃ r : Int32,
      textClass.call "indexOf" [.primitive .int] "I" (.text s) [.scalar (.int c)] h =
        (.ok (.scalar (.int r)), h) ∧ IsFirst (CodeAt s c.toInt) r.toInt := by
  intro hall
  obtain ⟨r, hcall, -⟩ := hall "abc" (-1) {} (by decide)
  rw [call_indexOf_code _ (denoted?_int (-1)), findCode_of_no_code (.inl (by decide))] at hcall
  cases hcall

end Library

end HostCall
