import HostCall.Proofs.ReferenceGrammar

/-!
# Surrogates in references

The scans of descriptors and references stop at some code points and pass over all others, and so
over surrogates.  The fields of a value type take any text, so a descriptor with a surrogate is read
like any other.  The names and the return type of a signature take none: a reference that scans from
end to end is refused for those of its parts that hold one, and for these only, since the parameters
are value types already.

Main statement, `refused_iff_surrogates`: a text is read, refused or malformed, and which of the
three is told by the reference that it is the text of, if there is one.
-/

namespace HostCall

open Result Descriptor

/-- A text that is not empty is taken unless it holds a surrogate. -/
theorem FieldInput.check_eq {t : Text} (hne : t ≠ []) (field : Text) :
    (FieldInput.text t).check field =
      if t.IsScalar then .ok t else .error ⟨field, .surrogates⟩ := by
  split
  · rename_i h
    exact check_text h hne field
  · rename_i h
    have hany : t.any CodePoint.isSurrogate = true := by
      rw [← Bool.not_eq_false]
      intro hnone
      exact h fun c hc => Bool.eq_false_iff.2 (List.any_eq_false.1 hnone c hc)
    rw [check, if_pos hany]

/-! ## Names with surrogates -/

theorem Text.isScalar_replace_iff {t : Text} {old new : CodePoint} (hold : old.isSurrogate = false)
    (hnew : new.isSurrogate = false) : (Text.replace old new t).IsScalar ↔ t.IsScalar := by
  refine ⟨fun h c hc => ?_, fun h => h.replace hnew⟩
  by_cases heq : c = old
  · exact heq ▸ hold
  · have hmem := List.mem_map_of_mem (f := fun c => if c = old then new else c) hc
    rw [if_neg heq] at hmem
    exact h c hmem

/-- The name of a class or an array has the surrogates of its descriptor. -/
theorem Descriptor.IsReference.isScalar_binaryName_iff {t : Text} (h : IsReference t) :
    (binaryName t).IsScalar ↔ t.IsScalar := by
  obtain ⟨rest, rfl⟩ | ⟨name, -, -, rfl⟩ := h.cases
  · exact Text.isScalar_replace_iff rfl rfl
  · rw [binaryName_class, Text.isScalar_replace_iff rfl rfl]
    constructor
    · intro hname
      refine List.forall_mem_cons.2 ⟨rfl, List.forall_mem_append.2 ⟨hname, ?_⟩⟩
      exact List.forall_mem_singleton.2 rfl
    · intro hall
      exact (List.forall_mem_append.1 (List.forall_mem_cons.1 hall).2).1

/-! ## References -/

namespace Reference

/-- The errors of the fields of a signature that hold a surrogate; an owner is held twice. -/
def surrogateErrors (p : Reference) : List FieldError :=
  (if p.owner.IsScalar then []
    else [⟨"class_name", .surrogates⟩, ⟨"class_binary_name", .surrogates⟩]) ++
  (if p.name.IsScalar then [] else [⟨"method_name", .surrogates⟩]) ++
  if p.returnType.IsScalar then [] else [⟨"return_type", .surrogates⟩]

theorem surrogateErrors_eq_nil_iff {p : Reference} : p.surrogateErrors = [] ↔
    p.owner.IsScalar ∧ p.name.IsScalar ∧ p.returnType.IsScalar := by
  rw [surrogateErrors, List.append_eq_nil_iff, List.append_eq_nil_iff, and_assoc]
  have hif : ∀ {q : Prop} [Decidable q] (e : FieldError) (es : List FieldError),
      (if q then [] else e :: es) = [] ↔ q := by
    intro q _ e es
    split <;> simp [*]
  exact and_congr (hif _ _) (and_congr (hif _ _) (hif _ _))

end Reference

namespace Signature

variable {p : Reference} {isStatic : Bool}

/-- The fields of a reference are taken unless one holds a surrogate. -/
theorem checked_reference (hp : p.WellFormed) (isStatic : Bool) :
    checked (.text p.owner) (.text (binaryName p.owner)) (.text p.name)
        (p.parameters.map ValueType.ofDescriptor) (.text p.returnType) (.boolean isStatic) =
      if p.surrogateErrors = [] then .ok (p.signature isStatic)
      else .error (.refused p.surrogateErrors) := by
  split
  · rename_i hnone
    obtain ⟨ho, hn, hr⟩ := Reference.surrogateErrors_eq_nil_iff.1 hnone
    exact checked_of_isScalar hp ho hn hr isStatic
  · rename_i hsome
    have howner : IsReference p.owner := hp.owner_isReference
    have hany := mt Reference.surrogateErrors_eq_nil_iff.2 hsome
    rw [checked, FieldInput.check_eq howner.1.ne_nil, FieldInput.check_eq howner.binaryName_ne_nil,
      FieldInput.check_eq hp.name_ne_nil,
      FieldInput.check_eq (returnType_ne_nil hp.returnType_isValue), Reference.surrogateErrors]
    simp only [howner.isScalar_binaryName_iff]
    by_cases ho : p.owner.IsScalar
    · rw [if_pos ho, if_pos ho, if_pos ho]
      by_cases hn : p.name.IsScalar
      · rw [if_pos hn, if_pos hn, if_neg fun hr => hany ⟨ho, hn, hr⟩,
          if_neg fun hr => hany ⟨ho, hn, hr⟩]
        rfl
      · rw [if_neg hn, if_neg hn]
        by_cases hr : p.returnType.IsScalar
        · rw [if_pos hr, if_pos hr]
          rfl
        · rw [if_neg hr, if_neg hr]
          rfl
    · rw [if_neg ho, if_neg ho, if_neg ho]
      by_cases hn : p.name.IsScalar <;> by_cases hr : p.returnType.IsScalar <;>
        simp only [hn, hr, if_true, if_false] <;> rfl

/-- A reference is read, or refused for its surrogates. -/
theorem parse_reference (hp : p.WellFormed) (isStatic : Bool) : parse p.text isStatic =
    if p.surrogateErrors = [] then .ok (p.signature isStatic)
    else .error (.refused p.surrogateErrors) := by
  rw [parse_text hp, checked_reference hp]

/-- **Texts that are refused instead of malformed.**  A value type is read from every descriptor,
with surrogates or without.  A method reference is read from the text of a reference whose owner,
name and return type hold no surrogate; it is refused where one of them does, for the fields that
hold one; and it is malformed where the text is that of no reference. -/
theorem refused_iff_surrogates (t : Text) :
    (∀ v, ValueType.parse t = .ok v ↔ IsValue t ∧ v = ValueType.ofDescriptor t) ∧
    ∀ isStatic,
      (∀ s, parse t isStatic = .ok s ↔ ∃ p : Reference, p.WellFormed ∧ p.text = t ∧
        (p.owner.IsScalar ∧ p.name.IsScalar ∧ p.returnType.IsScalar) ∧
          s = p.signature isStatic) ∧
      (∀ es, parse t isStatic = .error (.refused es) ↔ ∃ p : Reference, p.WellFormed ∧ p.text = t ∧
        ¬ (p.owner.IsScalar ∧ p.name.IsScalar ∧ p.returnType.IsScalar) ∧
          es = p.surrogateErrors) ∧
      ((∃ e, parse t isStatic = .error (.malformed e)) ↔
        ¬ ∃ p : Reference, p.WellFormed ∧ p.text = t) := by
  refine ⟨fun v => ValueType.parse_eq_ok_iff, fun isStatic => ?_⟩
  simp only [← Reference.surrogateErrors_eq_nil_iff]
  obtain ⟨e, he⟩ | ⟨p, hp, rfl, -⟩ := malformed_or_checked t isStatic
  · have hno : ∀ p : Reference, p.WellFormed → p.text ≠ t := by
      rintro p hp rfl
      rw [parse_reference hp] at he
      split at he <;> cases he
    rw [he]
    refine ⟨fun s => ?_, fun es => ?_, iff_of_true ⟨e, rfl⟩ fun ⟨p, hp, ht⟩ => hno p hp ht⟩
    · exact iff_of_false (fun h => by cases h) fun ⟨p, hp, ht, _⟩ => hno p hp ht
    · exact iff_of_false (fun h => by cases h) fun ⟨p, hp, ht, _⟩ => hno p hp ht
  · refine ⟨fun s => ⟨fun h => ?_, ?_⟩, fun es => ⟨fun h => ?_, ?_⟩, ?_⟩
    · rw [parse_reference hp] at h
      split at h
      · rename_i hnone
        exact ⟨p, hp, rfl, hnone, (Except.ok.inj h).symm⟩
      · cases h
    · rintro ⟨q, hq, hqt, hnone, rfl⟩
      rw [← hqt, parse_reference hq, if_pos hnone]
    · rw [parse_reference hp] at h
      split at h
      · cases h
      · rename_i hsome
        cases h
        exact ⟨p, hp, rfl, hsome, rfl⟩
    · rintro ⟨q, hq, hqt, hsome, rfl⟩
      rw [← hqt, parse_reference hq, if_neg hsome]
    · refine iff_of_false ?_ fun h => h ⟨p, hp, rfl⟩
      rintro ⟨e, he⟩
      rw [parse_reference hp] at he
      split at he <;> cases he

/-- A method of a class whose name is one surrogate is neither read nor malformed. -/
theorem lone_surrogate_not_malformed :
    let t : Text := 'L' :: ⟨0xD800, by decide⟩ :: Text.ofString ";->f()V"
    parse t false =
        .error (.refused [⟨"class_name", .surrogates⟩, ⟨"class_binary_name", .surrogates⟩]) ∧
      ¬ ∀ (t : Text) (isStatic : Bool), (∃ s, parse t isStatic = .ok s) ∨
        ∃ e, parse t isStatic = .error (.malformed e) := by
  intro t
  let p : Reference := ⟨['L', ⟨0xD800, by decide⟩, ';'], "f", [], "V"⟩
  have hp : p.WellFormed := {
    owner_isReference := ⟨check_eq_ok_iff.1 rfl, fun k => by cases k <;> decide⟩
    separator_not_in_owner := by decide +kernel
    name_ne_nil := by decide
    name_isPlain := ⟨by decide, by decide⟩
    parameters_isValue := List.forall_mem_nil _
    parameters_isPlain := List.forall_mem_nil _
    returnType_isValue := .inl rfl
    returnType_isPlain := ⟨by decide, by decide⟩ }
  have hrefused : parse t false = .error (.refused p.surrogateErrors) := by
    show parse p.text false = _
    rw [parse_reference hp, if_neg (by decide)]
  refine ⟨hrefused, fun hall => ?_⟩
  obtain ⟨v, hv⟩ | ⟨e, he⟩ := hall t false
  · rw [hrefused] at hv
    cases hv
  · rw [hrefused] at he
    cases he

end Signature

end HostCall
