import HostCall.Proofs.DescriptorGrammar

/-!
# Names of classes with dots

`binaryName` takes a class out of its wrapper and puts dots for slashes, and `internalName` is meant
to go back.  Dots and slashes are no difficulty: they are exchanged back where the descriptor has no
dot of its own (`Text.replace_replace_of_notMem`).  The wrapper is: it is put around a name again
only where the name does not read as something else without it.  `IsBare` tells the names for which
it is left off, the letters and whatever begins with a bracket.

Main statement, `internalName_binaryName_iff`: a class or an array comes back as it was, unless it
is a class with such a name, and that one comes back without its wrapper.
-/

namespace HostCall

namespace Text

/-- Replacing is undone by replacing back where the new code point did not stand before. -/
theorem replace_replace_of_notMem {old new : CodePoint} {t : Text} (h : new ∉ t) :
    Text.replace new old (Text.replace old new t) = t := by
  rw [replace, replace, List.map_map]
  refine (List.map_congr_left fun c hc => ?_).trans (List.map_id t)
  have hne : c ≠ new := fun heq => h (heq ▸ hc)
  show (if (if c = old then new else c) = new then old else if c = old then new else c) = c
  by_cases hold : c = old
  · rw [if_pos hold, if_pos rfl, hold]
  · rw [if_neg hold, if_neg hne]

/-- A text of one code point that replacing does not touch comes from no other text. -/
theorem replace_eq_singleton {old new c : CodePoint} {t : Text} (hnew : c ≠ new) :
    Text.replace old new t = [c] ↔ t = [c] ∧ c ≠ old := by
  constructor
  · intro h
    obtain ⟨c', rfl, hc'⟩ := List.map_eq_singleton_iff.1 h
    by_cases hold : c' = old
    · rw [if_pos hold] at hc'
      exact absurd hc'.symm hnew
    · rw [if_neg hold] at hc'
      subst hc'
      exact ⟨rfl, hold⟩
  · rintro ⟨rfl, hold⟩
    rw [replace, List.map_singleton, if_neg hold]

/-- Replacing other code points leaves a bracket in front. -/
theorem startsWith_bracket_replace {old new : CodePoint} (hold : old ≠ '[') (hnew : new ≠ '[')
    (t : Text) : Text.startsWith "[" (Text.replace old new t) = Text.startsWith "[" t := by
  have hhead : ∀ (c : CodePoint) (rest : Text), Text.startsWith "[" (c :: rest) = ('[' == c) :=
    fun c rest => Bool.and_true _
  cases t with
  | nil => rfl
  | cons c rest =>
    rw [replace, List.map_cons, hhead, hhead]
    by_cases hc : c = old
    · rw [if_pos hc, hc, beq_eq_false_iff_ne.2 hnew.symm, beq_eq_false_iff_ne.2 hold.symm]
    · rw [if_neg hc]

end Text

namespace Descriptor

/-- The names that read as a kind, as void or as an array where no wrapper stands around them. -/
def IsBare (name : Text) : Prop :=
  Text.startsWith "[" name = true ∨ (Kind.ofText? name).isSome = true ∨ name = voidDescriptor

instance (name : Text) : Decidable (IsBare name) := inferInstanceAs (Decidable (_ ∨ _ ∨ _))

theorem isBare_replace {name : Text} : IsBare (Text.replace '/' '.' name) ↔ IsBare name := by
  have hkind : (Kind.ofText? (Text.replace '/' '.' name)).isSome = true ↔
      (Kind.ofText? name).isSome = true := by
    simp only [Option.isSome_iff_exists, Kind.ofText?_eq_some_iff]
    refine exists_congr fun k => ?_
    rw [Text.replace_eq_singleton (by cases k <;> decide)]
    exact and_iff_left (by cases k <;> decide)
  have hvoid : Text.replace '/' '.' name = voidDescriptor ↔ name = voidDescriptor := by
    show _ = [CodePoint.ofChar 'V'] ↔ _ = [CodePoint.ofChar 'V']
    rw [Text.replace_eq_singleton (by decide)]
    exact and_iff_left (by decide)
  rw [IsBare, Text.startsWith_bracket_replace (by decide) (by decide), hkind, hvoid]
  exact Iff.rfl

theorem internalName_of_not_isBare {name : Text} (h : ¬ IsBare name) :
    internalName name = ('L' :: (Text.replace '.' '/' name ++ [terminator]) : Text) := by
  obtain ⟨hbracket, hletter⟩ := not_or.1 h
  obtain ⟨hkind, hvoid⟩ := not_or.1 hletter
  rw [internalName, if_neg hbracket, if_neg (by simp [hkind, hvoid])]
  rfl

theorem internalName_of_isBare {name : Text} (h : IsBare name) :
    internalName name = Text.replace '.' '/' name := by
  by_cases hbracket : Text.startsWith "[" name = true
  · rw [internalName, if_pos hbracket]
  · have hletter := h.resolve_left hbracket
    rw [internalName, if_neg hbracket, if_pos (by simpa using hletter)]
    -- a letter is no dot
    rcases hletter with hkind | rfl
    · obtain ⟨k, hk⟩ := Option.isSome_iff_exists.1 hkind
      rw [Kind.ofText?_eq_some_iff.1 hk]
      cases k <;> rfl
    · rfl

/-! ## Back and forth -/

theorem internalName_binaryName_array {rest : Text}
    (hdot : ('.' : CodePoint) ∉ ('[' :: rest : Text)) :
    internalName (binaryName ('[' :: rest)) = ('[' :: rest : Text) := by
  have hname : binaryName ('[' :: rest) = Text.replace '/' '.' ('[' :: rest) := if_pos rfl
  have hback : ∀ t : Text, Text.startsWith "[" t = true → internalName t = t.replace '.' '/' :=
    fun t ht => if_pos ht
  rw [hname, hback _ (Text.startsWith_bracket_replace (by decide) (by decide) _),
    Text.replace_replace_of_notMem hdot]

theorem internalName_binaryName_class {name : Text} (hdot : ('.' : CodePoint) ∉ name) :
    internalName (binaryName ('L' :: (name ++ [terminator]))) =
      if IsBare name then name else ('L' :: (name ++ [terminator]) : Text) := by
  rw [binaryName_class]
  by_cases hbare : IsBare name
  · rw [if_pos hbare, internalName_of_isBare (isBare_replace.2 hbare),
      Text.replace_replace_of_notMem hdot]
  · rw [if_neg hbare, internalName_of_not_isBare (mt isBare_replace.1 hbare),
      Text.replace_replace_of_notMem hdot]

/-- **Which descriptors come back from the name with dots.**  An accepted class or array without a
dot does, unless it is a class whose name reads as a kind, as void or as an array without the
wrapper.  Such a class comes back as its name with slashes, which is another type or none. -/
theorem internalName_binaryName_iff {d : Text} {v : ValueType} (hparse : ValueType.parse d = .ok v)
    (href : v.isReference = true) (hdot : ('.' : CodePoint) ∉ d) :
    (internalName (binaryName d) = d ↔
      ∀ name : Text, d = ('L' :: (name ++ [terminator]) : Text) → ¬ IsBare name) ∧
    ∀ name : Text, d = ('L' :: (name ++ [terminator]) : Text) → IsBare name →
      internalName (binaryName d) = name := by
  obtain ⟨hvalue, rfl⟩ := ValueType.parse_eq_ok_iff.1 hparse
  have hletter : ∀ k : Kind, d ≠ [k.letter] := by
    intro k hk
    rw [ValueType.ofDescriptor, Kind.ofText?_eq_some_iff.2 hk] at href
    cases href
  rcases IsReference.cases ⟨hvalue, hletter⟩ with ⟨rest, rfl⟩ | ⟨name, -, -, rfl⟩
  · have hclass : ∀ name : Text,
        ('[' :: rest : Text) ≠ ('L' :: (name ++ [terminator]) : Text) :=
      fun name h => absurd (List.cons.inj h).1 (by decide)
    exact ⟨iff_of_true (internalName_binaryName_array hdot) fun name h => absurd h (hclass name),
      fun name h => absurd h (hclass name)⟩
  · have hname : ∀ name' : Text,
        ('L' :: (name ++ [terminator]) : Text) = ('L' :: (name' ++ [terminator]) : Text) →
          name' = name :=
      fun name' h => (List.append_cancel_right (List.cons.inj h).2).symm
    rw [internalName_binaryName_class fun h =>
      hdot (List.mem_cons_of_mem _ (List.mem_append_left _ h))]
    by_cases hbare : IsBare name
    · rw [if_pos hbare]
      refine ⟨iff_of_false (fun h => ?_) fun h => h name rfl hbare,
        fun name' h _ => (hname _ h).symm⟩
      -- the wrapper makes a text longer
      have hlength := congrArg List.length h
      rw [List.length_cons, List.length_append] at hlength
      omega
    · rw [if_neg hbare]
      refine ⟨iff_of_true rfl fun name' h => (hname _ h).symm ▸ hbare, fun name' h hbare' => ?_⟩
      exact absurd (hname _ h ▸ hbare') hbare

/-- A class in a package, and the class of the name `I`. -/
theorem internalName_binaryName_package_and_letter :
    internalName (binaryName "La/B;") = "La/B;" ∧ internalName (binaryName "LI;") = "I" := by
  have hpackage : ValueType.parse "La/B;" = .ok (.reference "La/B;") := rfl
  have hletter : ValueType.parse "LI;" = .ok (.reference "LI;") := rfl
  refine ⟨(internalName_binaryName_iff hpackage rfl (by decide)).1.2 fun name h => ?_,
    (internalName_binaryName_iff hletter rfl (by decide)).2 "I" rfl (by decide)⟩
  obtain rfl : name = "a/B" := (List.append_cancel_right (List.cons.inj h).2).symm
  decide

/-- The class of the name `I` comes back as a kind. -/
theorem internalName_binaryName_ne :
    ¬ ∀ (d : Text) (v : ValueType), ValueType.parse d = .ok v → v.isReference = true →
      ('.' : CodePoint) ∉ d → internalName (binaryName d) = d := by
  intro h
  have hletter := h "LI;" (.reference "LI;") rfl rfl (by decide)
  exact absurd hletter (by decide)

end Descriptor

end HostCall
