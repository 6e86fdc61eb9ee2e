import HostCall.Resolver
import HostCall.Proofs.DescriptorGrammar

/-!
# What a class name resolves to

`resolveClass_eq` takes one step of resolution: a denied name fails, an array of classes resolves
when the class of its components does, and any other name is looked up.

`NamesClass` says which classes a name speaks of, without a resolver.  Main statement,
`resolveClass_of_denied`: a name that speaks of a denied class resolves to nothing.
-/

namespace HostCall

open Result Descriptor

namespace Resolver

variable {r : Resolver}

theorem resolveClass_eq (r : Resolver) (name : Text) :
    r.resolveClass name =
      if r.isDenied name then .error (.bridge (.access (.deniedType name)))
      else if Text.startsWith "[" name then
        if (Kind.ofText? (component name)).isSome then
          let t : HostType := if dimensions name = 1 then .array else .list
          .ok ⟨name, t, t⟩
        else (r.resolveClass (componentName name)).map fun _ => ⟨name, .list, .list⟩
      else r.resolvePlain name := by
  rw [resolveClass]
  split
  · rfl
  · split
    · dsimp only
      split
      · rfl
      · cases r.resolveClass (componentName name) <;> rfl
    · rfl

theorem resolveClass_of_isDenied {name : Text} (h : name ∈ r.settings.deniedTypes) :
    r.resolveClass name = .error (.bridge (.access (.deniedType name))) := by
  have hdenied : r.isDenied name = true := List.elem_eq_true_of_mem h
  rw [resolveClass_eq, if_pos hdenied]

end Resolver

/-- The classes that a name speaks of: the one of that name, and for an array of a class, however
deep, that class. -/
inductive NamesClass (name : Text) : Text → Prop
  | itself : NamesClass name name
  | component {n : Nat} {c : Text}
    (harray : name = brackets (n + 1) ++ ('L' :: (c ++ [terminator]) : Text)) :
    NamesClass name (c.replace '/' '.')

theorem Text.replace_replace (a b : CodePoint) (t : Text) :
    Text.replace b a (Text.replace a b t) = Text.replace b a t := by
  simp only [replace, List.map_map]
  refine List.map_congr_left fun c _ => ?_
  by_cases hc : c = a
  · simp [hc]
  · simp [hc]

theorem Text.replace_of_notMem {old : CodePoint} {t : Text} (h : old ∉ t) (new : CodePoint) :
    Text.replace old new t = t := by
  refine (List.map_congr_left fun c hc => ?_).trans (List.map_id t)
  have hne : c ≠ old := fun heq => h (heq ▸ hc)
  exact if_neg hne

/-- An array of a class has no scalars. -/
theorem Descriptor.ofText?_component (n : Nat) (c : Text) :
    Kind.ofText? (component (brackets (n + 1) ++ ('L' :: (c ++ [terminator]) : Text))) = none := by
  rw [component_brackets_cons rfl]
  cases c <;> rfl

/-- The component of an array of a class is named without brackets and wrapper. -/
theorem Resolver.componentName_brackets (n : Nat) (c : Text) :
    componentName (brackets (n + 1) ++ ('L' :: (c ++ [terminator]) : Text)) =
      c.replace '/' '.' := by
  have hreplace : Text.replace '.' '/' ('L' :: (c ++ [terminator])) =
      ('L' :: (Text.replace '.' '/' c ++ [terminator]) : Text) := by
    rw [Text.replace, List.map_cons, List.map_append]
    rfl
  rw [componentName, component_brackets_cons rfl, hreplace, binaryName_class,
    Text.replace_replace]

/-- **A name that speaks of a denied class resolves to nothing.** -/
theorem Resolver.resolveClass_of_denied {r : Resolver} {name c : Text} (hc : NamesClass name c)
    (hdenied : c ∈ r.settings.deniedTypes) :
    ∃ d, r.resolveClass name = .error (.bridge (.access (.deniedType d))) := by
  cases hc with
  | itself => exact ⟨name, resolveClass_of_isDenied hdenied⟩
  | @component n c harray =>
    by_cases hname : name ∈ r.settings.deniedTypes
    · exact ⟨name, resolveClass_of_isDenied hname⟩
    -- the array itself is not denied, and its component is resolved next
    have hallowed : r.isDenied name = false := by simpa [isDenied] using hname
    have hbracket : Text.startsWith "[" name = true := by
      rw [harray]
      rfl
    have hkind : Kind.ofText? (component name) = none := by
      rw [harray, ofText?_component]
    refine ⟨c.replace '/' '.', ?_⟩
    rw [resolveClass_eq, hallowed, if_neg Bool.false_ne_true, if_pos hbracket, hkind,
      if_neg (by simp), harray, componentName_brackets, resolveClass_of_isDenied hdenied]
    rfl

theorem Descriptor.binaryName_array {t : Text} (harray : Text.startsWith "[" t = true)
    (hplain : ∀ c ∈ t, c ≠ '/') : binaryName t = t := by
  rw [binaryName, if_pos harray]
  exact Text.replace_of_notMem (fun hslash => hplain _ hslash rfl) '.'

/-- An array of arrays of scalars is a list, whatever the scalars are. -/
theorem Resolver.typeOfDescriptor_nested {r : Resolver} (k : Kind) {n : Nat}
    (hn : n + 2 ≤ maxDimensions) (hallowed : r.isDenied (brackets (n + 2) ++ [k.letter]) = false) :
    r.typeOfDescriptor (brackets (n + 2) ++ [k.letter]) = .ok .list := by
  have harray : Text.startsWith "[" (brackets (n + 2) ++ [k.letter]) = true := rfl
  have hvalue : IsValue (brackets (n + 2) ++ [k.letter]) := .mk hn (.letter k)
  have hplain : ∀ c ∈ brackets (n + 2) ++ [k.letter], c ≠ '/' := by
    intro c hc
    rcases List.mem_append.1 hc with hc | hc
    · rw [List.eq_of_mem_replicate hc]
      decide
    · rw [List.mem_singleton.1 hc]
      cases k <;> decide
  have hparse : ValueType.parse (brackets (n + 2) ++ [k.letter]) =
      .ok (.reference (brackets (n + 2) ++ [k.letter])) :=
    ValueType.parse_eq_ok_iff.2 ⟨hvalue, rfl⟩
  have hdimensions := dimensions_brackets (.letter k) (n + 2) []
  have hcomponent := component_brackets (.letter k) (n + 2) []
  rw [List.append_nil] at hdimensions hcomponent
  rw [typeOfDescriptor, hparse]
  dsimp only
  rw [hostType, binaryName_array harray hplain, resolveClass_eq, hallowed,
    if_neg Bool.false_ne_true, if_pos harray, hcomponent, hdimensions, List.append_nil,
    Kind.ofText?_eq_some_iff.2 rfl]
  rfl

end HostCall
