import HostCall.Signature
import HostCall.Proofs.Result
import HostCall.Proofs.Search

/-!
# The grammar of descriptors

`IsValue` tells which texts are descriptors of values, without a reader: up to 255 brackets and a
core behind them.  The reader measures the descriptor at the head of a text, and it goes on no
longer than the descriptor does (`headLength_append`), so no descriptor is the beginning of another.
That makes a text of descriptors one thing only: `splitAll_eq_ok_iff` says that the parts are read
back whatever they are, and that nothing else is read.
-/

namespace HostCall

open Result

/-- A text that no surrogate stands in. -/
def Text.IsScalar (t : Text) : Prop := ∀ c ∈ t, c.isSurrogate = false

instance (t : Text) : Decidable t.IsScalar :=
  inferInstanceAs (Decidable (∀ c ∈ t, c.isSurrogate = false))

namespace Descriptor

def brackets (n : Nat) : Text := List.replicate n '['

/-- The descriptors without brackets: the letter of a kind, or the name of a class. -/
inductive IsCore : Text → Prop
  | letter (k : Kind) : IsCore [k.letter]
  | named {name : Text} (hne : name ≠ []) (hname : terminator ∉ name) :
    IsCore ('L' :: (name ++ [terminator]))

/-- The descriptors of values. -/
inductive IsValue : Text → Prop
  | mk {n : Nat} {core : Text} (hn : n ≤ maxDimensions) (hcore : IsCore core) :
    IsValue (brackets n ++ core)

/-! ## The head of a text -/

theorem IsCore.exists_cons {core : Text} (h : IsCore core) :
    ∃ c rest, core = c :: rest ∧ isBracket c = false := by
  cases h with
  | letter k => exact ⟨k.letter, [], rfl, by cases k <;> rfl⟩
  | named _ _ => exact ⟨'L', _, rfl, rfl⟩

theorem isBracket_of_mem {n : Nat} {c : CodePoint} (h : c ∈ brackets n) : isBracket c = true :=
  beq_iff_eq.2 (List.eq_of_mem_replicate h)

theorem dimensions_brackets {core : Text} (h : IsCore core) (n : Nat) (rest : Text) :
    dimensions (brackets n ++ core ++ rest) = n := by
  obtain ⟨c, core', rfl, hc⟩ := h.exists_cons
  rw [dimensions, List.append_assoc, List.takeWhile_append_of_pos fun _ => isBracket_of_mem,
    List.cons_append, List.takeWhile_cons_of_neg (by simp [hc]), List.append_nil, brackets,
    List.length_replicate]

theorem component_brackets_cons {c : CodePoint} (hc : isBracket c = false) (n : Nat)
    (rest : Text) : component (brackets n ++ c :: rest) = c :: rest := by
  rw [component, List.dropWhile_append_of_pos fun _ => isBracket_of_mem,
    List.dropWhile_cons_of_neg (by simp [hc])]

theorem component_brackets {core : Text} (h : IsCore core) (n : Nat) (rest : Text) :
    component (brackets n ++ core ++ rest) = core ++ rest := by
  obtain ⟨c, core', rfl, hc⟩ := h.exists_cons
  rw [List.append_assoc, List.cons_append, component_brackets_cons hc]

theorem coreLength_letter (k : Kind) (rest : Text) :
    coreLength (k.letter :: rest) = .ok 1 := by
  have hL : k.letter ≠ ('L' : CodePoint) := by cases k <;> decide
  rw [coreLength, if_neg hL, if_pos (by rw [Kind.ofLetter?_letter]; rfl)]

theorem coreLength_named {name : Text} (hne : name ≠ []) (hname : terminator ∉ name)
    (rest : Text) : coreLength ('L' :: (name ++ terminator :: rest)) = .ok (name.length + 2) := by
  have hfind : (name ++ terminator :: rest).findIdx? (· == terminator) = some name.length :=
    Text.findIdx?_eq_some_iff.2 ⟨name, terminator, rest, rfl, rfl, beq_self_eq_true _,
      Text.beq_eq_false_of_notMem hname⟩
  obtain ⟨n, hn⟩ := Nat.exists_eq_succ_of_ne_zero (mt List.eq_nil_of_length_eq_zero hne)
  rw [coreLength, if_pos rfl, hfind, hn]
  rfl

theorem coreLength_append {core : Text} (h : IsCore core) (rest : Text) :
    coreLength (core ++ rest) = .ok core.length := by
  cases h with
  | letter k => exact coreLength_letter k rest
  | @named name hne hname =>
    rw [List.cons_append, List.append_assoc, List.singleton_append, coreLength_named hne hname]
    simp

/-- The descriptor at the head of a text is measured whatever stands behind it. -/
theorem headLength_append {d : Text} (h : IsValue d) (rest : Text) :
    headLength (d ++ rest) = .ok d.length := by
  obtain ⟨hn, hcore⟩ := h
  rw [headLength, dimensions_brackets hcore, component_brackets hcore,
    if_neg (Nat.not_lt.2 hn), coreLength_append hcore, List.length_append, brackets,
    List.length_replicate]
  rfl

theorem isCore_of_coreLength {t : Text} {n : Nat} (h : coreLength t = .ok n) :
    IsCore (t.take n) := by
  cases t with
  | nil => cases h
  | cons c rest =>
    rw [coreLength] at h
    split at h
    · rename_i hL
      split at h
      · cases h
      · cases h
      · rename_i i hi hfind
        cases h
        obtain ⟨name, c, rest', rfl, rfl, hc, hname⟩ := Text.findIdx?_eq_some_iff.1 hfind
        obtain rfl := beq_iff_eq.1 hc
        have htake : (name ++ terminator :: rest').take (name.length + 1) =
            name ++ [terminator] := by
          rw [List.take_length_add_append, List.take_succ_cons, List.take_zero]
        rw [hL, List.take_succ_cons, htake]
        refine .named (fun hnil => ?_) fun hmem => ?_
        · subst hnil
          exact hi rfl
        · exact Bool.false_ne_true ((hname _ hmem).symm.trans (beq_self_eq_true _))
    · split at h
      · rename_i hkind
        cases h
        obtain ⟨k, hk⟩ := Option.isSome_iff_exists.1 hkind
        rw [← Kind.letter_of_ofLetter? hk]
        exact .letter k
      · split at h <;> cases h

theorem takeWhile_isBracket (t : Text) : t.takeWhile isBracket = brackets (dimensions t) :=
  List.eq_replicate_of_mem fun c hc =>
    beq_iff_eq.1 (List.all_eq_true.1 (List.all_takeWhile (p := isBracket)) c hc)

theorem take_dimensions_add (t : Text) (k : Nat) :
    t.take (dimensions t + k) = brackets (dimensions t) ++ (component t).take k := by
  rw [← takeWhile_isBracket]
  calc t.take (dimensions t + k)
      = (t.takeWhile isBracket ++ component t).take (dimensions t + k) := by
        rw [component, List.takeWhile_append_dropWhile]
    _ = t.takeWhile isBracket ++ (component t).take k := List.take_length_add_append k

theorem isValue_of_headLength {t : Text} {n : Nat} (h : headLength t = .ok n) :
    IsValue (t.take n) := by
  rw [headLength] at h
  split at h
  · cases h
  · rename_i hdim
    obtain ⟨k, hk, rfl⟩ := map_eq_ok_iff.1 h
    rw [take_dimensions_add]
    exact .mk (Nat.not_lt.1 hdim) (isCore_of_coreLength hk)

/-! ## Whole texts -/

theorem IsValue.ne_nil {d : Text} (h : IsValue d) : d ≠ [] := by
  obtain ⟨-, hcore⟩ := h
  obtain ⟨c, rest, rfl, -⟩ := hcore.exists_cons
  exact List.append_ne_nil_of_right_ne_nil _ (List.cons_ne_nil c rest)

theorem headLength_eq_length_iff {t : Text} : headLength t = .ok t.length ↔ IsValue t := by
  constructor
  · intro h
    have hvalue := isValue_of_headLength h
    rwa [List.take_length] at hvalue
  · intro h
    have hhead := headLength_append h []
    rwa [List.append_nil] at hhead

theorem check_eq_ok_iff {t : Text} : check t = .ok () ↔ IsValue t := by
  constructor
  · intro h
    rw [check] at h
    split at h
    · cases h
    split at h
    · cases h
    rename_i n hn
    split at h
    · rename_i hlen
      exact headLength_eq_length_iff.1 (hlen ▸ hn)
    · cases h
  · intro h
    rw [check, if_neg h.ne_nil, headLength_eq_length_iff.2 h]
    exact if_pos rfl

theorem splitAll_cons {d : Text} (h : IsValue d) (rest : Text) :
    splitAll (d ++ rest) = (splitAll rest).map (d :: ·) := by
  have hne : d ++ rest ≠ [] := List.append_ne_nil_of_left_ne_nil h.ne_nil rest
  rw [splitAll, if_neg hne]
  split
  · rename_i e he
    rw [headLength_append h] at he
    cases he
  · rename_i n hn
    rw [headLength_append h] at hn
    cases hn
    rw [List.take_left, List.drop_left]

/-- **A text is split into the descriptors that it is put together from.** -/
theorem splitAll_eq_ok_iff {t : Text} {ds : List Text} :
    splitAll t = .ok ds ↔ (∀ d ∈ ds, IsValue d) ∧ ds.flatten = t := by
  constructor
  · intro h
    induction t using splitAll.induct generalizing ds with
    | case1 =>
      rw [splitAll] at h
      cases h
      exact ⟨by simp, rfl⟩
    | case2 t hne e hhead =>
      rw [splitAll, if_neg hne] at h
      split at h
      · cases h
      · rename_i n hn
        rw [hhead] at hn
        cases hn
    | case3 t hne n hhead ih =>
      rw [splitAll, if_neg hne] at h
      split at h
      · cases h
      rename_i n' hn'
      obtain rfl : n = n' := Except.ok.inj (hhead.symm.trans hn')
      obtain ⟨rest, hrest, rfl⟩ := map_eq_ok_iff.1 h
      obtain ⟨hall, hflat⟩ := ih hrest
      refine ⟨List.forall_mem_cons.2 ⟨isValue_of_headLength hhead, hall⟩, ?_⟩
      rw [List.flatten_cons, hflat, List.take_append_drop]
  · rintro ⟨hds, rfl⟩
    induction ds with
    | nil =>
      rw [splitAll]
      rfl
    | cons d ds ih =>
      obtain ⟨hd, hds⟩ := List.forall_mem_cons.1 hds
      rw [List.flatten_cons, splitAll_cons hd, ih hds]
      rfl

theorem split_eq_ok_iff {t : Text} {ds : List Text} :
    split t = .ok ds ↔ (∀ d ∈ ds, IsValue d) ∧ ds.flatten = t := by
  rw [split, mapError_eq_ok_iff, splitAll_eq_ok_iff]

/-! ## Classes and arrays -/

/-- The descriptors of classes and arrays. -/
def IsReference (t : Text) : Prop := IsValue t ∧ ∀ k : Kind, t ≠ [k.letter]

/-- A reference type is an array, or a class in its wrapper. -/
theorem IsReference.cases {t : Text} (h : IsReference t) :
    (∃ rest : Text, t = ('[' : CodePoint) :: rest) ∨
      ∃ name : Text, name ≠ [] ∧ terminator ∉ name ∧
        t = ('L' : CodePoint) :: (name ++ [terminator]) := by
  obtain ⟨hvalue, hletter⟩ := h
  cases hvalue with
  | @mk n core hn hcore =>
    cases n with
    | zero =>
      cases hcore with
      | letter k => exact absurd rfl (hletter k)
      | @named name hne hname => exact .inr ⟨name, hne, hname, rfl⟩
    | succ n => exact .inl ⟨brackets n ++ core, rfl⟩

theorem binaryName_class (name : Text) :
    binaryName ('L' :: (name ++ [terminator])) = Text.replace '/' '.' name := by
  have hends : Text.endsWith ";" ('L' :: (name ++ [terminator])) = true :=
    List.isSuffixOf_iff_suffix.2 ⟨'L' :: name, rfl⟩
  have hbracket : Text.startsWith "[" ('L' :: (name ++ [terminator])) = false := rfl
  have hL : Text.startsWith "L" ('L' :: (name ++ [terminator])) = true := rfl
  rw [binaryName, hbracket, hL, hends, if_neg Bool.false_ne_true, Bool.and_true, if_pos rfl,
    List.drop_one, List.tail_cons, List.dropLast_concat]

theorem IsReference.binaryName_ne_nil {t : Text} (h : IsReference t) : binaryName t ≠ [] := by
  obtain ⟨rest, rfl⟩ | ⟨name, hne, -, rfl⟩ := h.cases
  · exact List.cons_ne_nil _ _
  · rw [binaryName_class]
    exact mt List.map_eq_nil_iff.1 hne

end Descriptor

/-! ## Value types -/

theorem Text.IsScalar.replace {t : Text} (h : t.IsScalar) {old new : CodePoint}
    (hnew : new.isSurrogate = false) : (Text.replace old new t).IsScalar := by
  intro c hc
  obtain ⟨c', hc', rfl⟩ := List.mem_map.1 hc
  split
  · exact hnew
  · exact h c' hc'

theorem Text.IsScalar.binaryName {t : Text} (h : t.IsScalar) : (binaryName t).IsScalar := by
  unfold HostCall.binaryName
  split
  · exact h.replace rfl
  split
  · refine Text.IsScalar.replace (fun c hc => h c ?_) rfl
    exact List.mem_of_mem_drop ((List.dropLast_sublist _).subset hc)
  · exact h

theorem FieldInput.check_text {t : Text} (h : t.IsScalar) (hne : t ≠ []) (field : Text) :
    (FieldInput.text t).check field = .ok t := by
  have hany : t.any CodePoint.isSurrogate = false :=
    List.any_eq_false.2 fun c hc => Bool.eq_false_iff.1 (h c hc)
  rw [check, hany, if_neg Bool.false_ne_true, if_neg hne]

/-- The texts that are value types are the descriptors, with surrogates or without. -/
theorem ValueType.parse_eq_ok_iff {t : Text} {v : ValueType} :
    parse t = .ok v ↔ Descriptor.IsValue t ∧ v = ofDescriptor t := by
  rw [parse, map_eq_ok_iff, ← Descriptor.check_eq_ok_iff]
  constructor
  · rintro ⟨_, hcheck, rfl⟩
    exact ⟨hcheck, rfl⟩
  · rintro ⟨hcheck, rfl⟩
    exact ⟨(), hcheck, rfl⟩

theorem ValueType.exists_parse_iff {t : Text} :
    (∃ v, parse t = .ok v) ↔ Descriptor.IsValue t := by
  simp only [parse_eq_ok_iff, exists_and_left, exists_eq, and_true]

end HostCall
