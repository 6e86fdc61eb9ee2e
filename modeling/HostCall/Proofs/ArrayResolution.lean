import HostCall.Proofs.ClassName
import HostCall.Proofs.ResolutionFailure

/-!
# Resolution of arrays

An array of classes is a list, once the class of its components is found; an array of scalars needs
no class.  The name of the component is what stands behind all brackets, taken through two
conversions that undo each other where no slash stands in it, so the component of an array of arrays
is never an array, and yet a name can bring one back: a class name may itself begin with brackets.

`Run` is an execution of the resolution of a name as it goes, with the number of names that it
resolves below each other.  Before a name brings back an array it has lost a bracket and the wrapper
of a class (`length_componentName_array`).  Main statement, `resolveClass_array`: an array follows
its component, and every name has exactly one execution, which goes down no further than a third of
its length.
-/

namespace HostCall

open Result Descriptor

theorem Descriptor.dimensions_pos {t : Text} (h : Text.startsWith "[" t = true) :
    0 < dimensions t := by
  obtain ⟨rest, rfl⟩ := List.isPrefixOf_iff_prefix.1 h
  exact Nat.succ_pos _

theorem Descriptor.startsWith_component (t : Text) : Text.startsWith "[" (component t) = false := by
  apply Bool.eq_false_iff.2
  intro h
  obtain ⟨rest, hrest⟩ := List.isPrefixOf_iff_prefix.1 h
  have hhead := List.head?_dropWhile_not isBracket t
  rw [show t.dropWhile isBracket = Text.ofString "[" ++ rest from hrest.symm] at hhead
  cases hhead

namespace Resolver

variable {r : Resolver} {name : Text} {depth : Nat} {x : Except Failure HostClass}

/-! ## Executions -/

/-- An execution of the resolution of a name.  It resolves `depth` more names, each the component of
the one before. -/
inductive Run (r : Resolver) : Nat → Text → Except Failure HostClass → Prop
  | denied {name : Text} (denied : r.isDenied name = true) :
    Run r 0 name (.error (.bridge (.access (.deniedType name))))
  | scalars {name : Text} {k : Kind} {t : HostType} (allowed : r.isDenied name = false)
    (array : Text.startsWith "[" name = true) (scalar : Kind.ofText? (component name) = some k)
    (type : t = if dimensions name = 1 then .array else .list) : Run r 0 name (.ok ⟨name, t, t⟩)
  | component {name : Text} {depth : Nat} {x : Except Failure HostClass}
    (allowed : r.isDenied name = false) (array : Text.startsWith "[" name = true)
    (reference : Kind.ofText? (component name) = none)
    (rest : Run r depth (componentName name) x) :
    Run r (depth + 1) name (x.map fun _ => ⟨name, .list, .list⟩)
  | plain {name : Text} (allowed : r.isDenied name = false)
    (plain : Text.startsWith "[" name = false) : Run r 0 name (r.resolvePlain name)

/-- What an execution gives is what the name resolves to. -/
theorem Run.eq_resolveClass (h : r.Run depth name x) : x = r.resolveClass name := by
  induction h with
  | denied hdenied => rw [resolveClass_eq, if_pos hdenied]
  | scalars hallowed harray hscalar htype =>
    rw [resolveClass_eq, hallowed, if_neg Bool.false_ne_true, if_pos harray, hscalar, htype]
    rfl
  | component hallowed harray hreference _ ih =>
    rw [resolveClass_of_reference hallowed harray hreference, ih]
  | plain hallowed hplain =>
    rw [resolveClass_eq, hallowed, if_neg Bool.false_ne_true, hplain, if_neg Bool.false_ne_true]

/-- A component that is an array was written in the wrapper of a class. -/
theorem length_componentName_array (harray : Text.startsWith "[" name = true)
    (hagain : Text.startsWith "[" (componentName name) = true) :
    (componentName name).length + 3 ≤ name.length := by
  have hdimensions := dimensions_pos harray
  have hlength := dimensions_add_component name
  have hbare : Text.startsWith "[" ((component name).replace '.' '/') = false := by
    rw [Text.startsWith_bracket_replace (by decide) (by decide), startsWith_component]
  have hreplaced : ((component name).replace '.' '/').length = (component name).length :=
    List.length_map _
  rw [componentName, binaryName, hbare, if_neg Bool.false_ne_true] at hagain ⊢
  split at hagain
  · rename_i hwrapper
    rw [if_pos hwrapper, Text.replace, List.length_map, List.length_dropLast, List.length_drop]
    rw [Text.startsWith_bracket_replace (by decide) (by decide)] at hagain
    -- what begins with a bracket is not empty, so that both ends have been taken off
    have hinner := dimensions_pos hagain
    have hbound := dimensions_add_component ((component name).replace '.' '/' |>.drop 1).dropLast
    rw [List.length_dropLast, List.length_drop] at hbound
    omega
  · rw [hbare] at hagain
    cases hagain

/-- An execution goes down at most a third of the length of the name. -/
theorem Run.depth_le (h : r.Run depth name x) : 3 * depth ≤ name.length + 2 := by
  induction h with
  | denied _ => exact Nat.zero_le _
  | scalars _ _ _ _ => exact Nat.zero_le _
  | plain _ _ => exact Nat.zero_le _
  | @component name depth x hallowed harray hreference hrest ih =>
    have hpos := dimensions_pos harray
    have hlength := dimensions_add_component name
    cases hrest with
    | component _ hagain _ _ =>
      have hshort := length_componentName_array harray hagain
      omega
    | denied _ => omega
    | scalars _ _ _ _ => omega
    | plain _ _ => omega

/-- Every name has an execution. -/
theorem exists_run (r : Resolver) (name : Text) :
    ∃ depth, r.Run depth name (r.resolveClass name) := by
  induction name using Resolver.resolveClass.induct r with
  | case1 name hdenied =>
    refine ⟨0, ?_⟩
    rw [resolveClass_eq, if_pos hdenied]
    exact .denied hdenied
  | case2 name hdenied harray component hkind =>
    have hallowed := Bool.eq_false_iff.2 hdenied
    obtain ⟨k, hk⟩ := Option.isSome_iff_exists.1 hkind
    refine ⟨0, ?_⟩
    rw [resolveClass_eq, if_neg hdenied, if_pos harray, if_pos hkind]
    exact .scalars hallowed harray hk rfl
  | case3 name hdenied harray component hkind ih =>
    have hallowed := Bool.eq_false_iff.2 hdenied
    have hreference := Option.not_isSome_iff_eq_none.1 hkind
    obtain ⟨depth, hrun⟩ := ih
    refine ⟨depth + 1, ?_⟩
    rw [resolveClass_of_reference hallowed harray hreference]
    exact .component hallowed harray hreference hrun
  | case4 name hdenied hplain =>
    refine ⟨0, ?_⟩
    rw [resolveClass_eq, if_neg hdenied, if_neg hplain]
    exact .plain (Bool.eq_false_iff.2 hdenied) (Bool.eq_false_iff.2 hplain)

/-! ## Arrays and their components -/

theorem resolveClass_array_class {n : Nat} {c : Text}
    (hname : name = brackets (n + 1) ++ ('L' :: (c ++ [terminator]) : Text))
    (hslash : CodePoint.ofChar '/' ∉ c) (hallowed : name ∉ r.settings.deniedTypes) :
    r.resolveClass name = (r.resolveClass c).map fun _ => ⟨name, .list, .list⟩ := by
  have hdenied : r.isDenied name = false := by simpa [isDenied] using hallowed
  have harray : Text.startsWith "[" name = true := by
    rw [hname]
    rfl
  have hreference : Kind.ofText? (component name) = none := by
    rw [hname, ofText?_component]
  have hcomponent : componentName name = c := by
    rw [hname, componentName_brackets]
    exact Text.replace_of_notMem hslash '.'
  rw [resolveClass_of_reference hdenied harray hreference, hcomponent]

theorem resolveClass_array_scalar {n : Nat} {k : Kind}
    (hname : name = brackets (n + 1) ++ [k.letter]) (hallowed : name ∉ r.settings.deniedTypes) :
    r.resolveClass name =
      .ok ⟨name, if n = 0 then .array else .list, if n = 0 then .array else .list⟩ := by
  have hdenied : r.isDenied name = false := by simpa [isDenied] using hallowed
  have harray : Text.startsWith "[" name = true := by
    rw [hname]
    rfl
  have hdimensions := dimensions_brackets (.letter k) (n + 1) []
  have hcomponent := component_brackets (.letter k) (n + 1) []
  rw [List.append_nil, ← hname] at hdimensions hcomponent
  rw [List.append_nil] at hcomponent
  rw [resolveClass_eq, hdenied, if_neg Bool.false_ne_true, if_pos harray,
    Kind.ofText?_eq_some_iff.2 hcomponent, hdimensions]
  by_cases hn : n = 0
  · rw [if_pos hn, hn]
    rfl
  · rw [if_neg hn]
    have hmany : ¬ n + 1 = 1 := by omega
    simp only [hmany, if_false]
    rfl

/-- **An array follows its component.**  Take an array that is not denied, of any number of
dimensions.  Where its component is a class whose name has no slash, the array is a list exactly
when that name resolves, and it fails with the same error otherwise.  Where its component is a
scalar, it is an array of scalars if it has one dimension, and a list if it has more.  The
resolution of any name ends: it has an execution, which resolves no more names one below the other
than a third of the length of the name, and every execution gives what the name resolves to. -/
theorem resolveClass_array (r : Resolver) :
    (∀ (n : Nat) (c name : Text), name = brackets (n + 1) ++ ('L' :: (c ++ [terminator]) : Text) →
      CodePoint.ofChar '/' ∉ c → name ∉ r.settings.deniedTypes →
      (r.resolveClass name = .ok ⟨name, .list, .list⟩ ↔ ∃ x, r.resolveClass c = .ok x) ∧
      (∀ f, r.resolveClass name = .error f ↔ r.resolveClass c = .error f)) ∧
    (∀ (n : Nat) (k : Kind) (name : Text), name = brackets (n + 1) ++ [k.letter] →
      name ∉ r.settings.deniedTypes →
      ∃ t : HostType, t = (if n = 0 then .array else .list) ∧
        r.resolveClass name = .ok ⟨name, t, t⟩) ∧
    (∀ name, (∃ depth, r.Run depth name (r.resolveClass name)) ∧
      ∀ depth x, r.Run depth name x → x = r.resolveClass name ∧ 3 * depth ≤ name.length + 2) := by
  refine ⟨fun n c name hname hslash hallowed => ?_, fun n k name hname hallowed => ?_,
    fun name => ⟨exists_run r name, fun depth x h => ⟨h.eq_resolveClass, h.depth_le⟩⟩⟩
  · have heq := resolveClass_array_class hname hslash hallowed
    constructor
    · rw [heq, map_eq_ok_iff]
      exact exists_congr fun x => and_iff_left rfl
    · intro f
      rw [heq, map_eq_error_iff]
  · exact ⟨_, rfl, resolveClass_array_scalar hname hallowed⟩

/-- Arrays of a bound class, of a class that is missing, and of arrays of scalars. -/
theorem resolveClass_array_of_arrays :
    let bound : HostClass := ⟨"a.B", .text, .text⟩
    let r : Resolver := ⟨{}, ({} : Registry).add bound, { deniedTypes := ["a.D"] }⟩
    r.resolveClass "[[La.B;" = .ok ⟨"[[La.B;", .list, .list⟩ ∧
      r.resolveClass "[La.C;" = .error (.bridge (.resolution (.classNotFound "a.C"))) ∧
      r.resolveClass "[La.D;" = .error (.bridge (.access (.deniedType "a.D"))) ∧
      r.resolveClass "[I" = .ok ⟨"[I", .array, .array⟩ ∧
      r.resolveClass "[L[I;" = .ok ⟨"[L[I;", .list, .list⟩ ∧
      ∃ depth, r.Run depth "[L[I;" (r.resolveClass "[L[I;") ∧ 3 * depth ≤ 7 := by
  intro bound r
  obtain ⟨hclass, hscalar, hrun⟩ := r.resolveClass_array
  have hbound : r.resolveClass "a.B" = .ok bound := by
    rw [resolveClass_eq]
    rfl
  have hmissing : r.resolveClass "a.C" =
      .error (.bridge (.resolution (.classNotFound "a.C"))) := by
    rw [resolveClass_eq]
    rfl
  have hdenied : r.resolveClass "a.D" = .error (.bridge (.access (.deniedType "a.D"))) := by
    rw [resolveClass_eq]
    rfl
  obtain ⟨t, rfl, hrow⟩ := hscalar 0 .int "[I" rfl (by decide)
  obtain ⟨depth, hdepth⟩ := (hrun "[L[I;").1
  refine ⟨(hclass 1 "a.B" _ rfl (by decide) (by decide)).1.2 ⟨bound, hbound⟩,
    ((hclass 0 "a.C" _ rfl (by decide) (by decide)).2 _).2 hmissing,
    ((hclass 0 "a.D" _ rfl (by decide) (by decide)).2 _).2 hdenied, hrow,
    (hclass 0 "[I" _ rfl (by decide) (by decide)).1.2 ⟨_, hrow⟩, depth, hdepth, ?_⟩
  exact ((hrun "[L[I;").2 depth _ hdepth).2

/-- No execution can go further down than this one. -/
example : ∃ x, (Resolver.mk {} {} {}).Run 2 "[L[;" x ∧
    3 * 2 = (Text.ofString "[L[;").length + 2 :=
  ⟨_, .component rfl rfl rfl (.component rfl rfl rfl (.plain rfl rfl)), rfl⟩

end Resolver

end HostCall
