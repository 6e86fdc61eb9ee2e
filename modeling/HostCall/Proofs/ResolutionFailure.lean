import HostCall.Proofs.HostCode
import HostCall.Proofs.ImportPath

/-!
# How the resolution of a class name fails

Resolution has two errors of its own: access is denied, or the class is not resolved.  A module that
is missing becomes one of these, since only a shorter module is tried for it, and where all modules
that are there load, nothing else is left that importing can raise for the module of a cut, but for
two faults of its name: an empty name, and a name that begins with a dot.

A cut of a path has such a name exactly when the path itself begins with a dot
(`dot_of_mem_cuts`, `importType_of_dot`).  Main statement, `resolveClass_refused_iff`: resolution
gives a class of the name it was asked for, and fails with its own errors alone unless it comes to a
path that begins with a dot, in an alias or below an empty root; there it always fails with an error
of import.
-/

namespace HostCall

open Result Descriptor

/-! ## Modules that are there load -/

namespace Universe

/-- Every module that is there can be imported. -/
def Clean (u : Universe) : Prop := ∀ name e, u.modules.lookup name ≠ some (.failing e)

variable {u : Universe} {e : HostError}

/-- Where all modules load, importing one after another fails at one that is missing. -/
theorem noModule_of_loadChain (hu : u.Clean) {parent : Option (Text × HostModule)}
    {names : List Text} (hne : names ≠ []) (h : u.loadChain parent names = .error e) :
    ∃ n p, e = .noModule n p := by
  induction names generalizing parent with
  | nil => exact absurd rfl hne
  | cons name rest ih =>
    rw [loadChain_cons] at h
    split at h
    · rename_i m hm
      by_cases hrest : rest = []
      · subst hrest
        cases h
      · exact ih hrest h
    · rename_i e' hfailing
      exact absurd hfailing (hu name e')
    · cases h
      exact ⟨name, _, rfl⟩

/-- Where all modules load, a well-formed name fails only because a module is missing. -/
theorem noModule_of_load (hu : u.Clean) {name : Text} (hne : name ≠ [])
    (hdot : Text.startsWith "." name = false) (h : u.load name = .error e) :
    ∃ n p, e = .noModule n p := by
  rw [load, if_neg hne, hdot, if_neg Bool.false_ne_true] at h
  exact noModule_of_loadChain hu (enclosing_ne_nil name) h

end Universe

/-! ## Registries that are filled by registration -/

/-- The registries that registrations make from a fresh one. -/
inductive Registry.Filled : Registry → Prop
  | fresh : Filled {}
  | add {r : Registry} (h : Filled r) (e : HostClass) : Filled (r.add e)

/-- An entry stands under its own name. -/
theorem Registry.Filled.name_of_lookup {r : Registry} (h : r.Filled) {name : Text} {e : HostClass}
    (he : r.lookup name = some e) : e.name = name := by
  induction h with
  | fresh => cases he
  | @add r _ e' ih =>
    rw [lookup_add] at he
    split at he
    · rename_i heq
      cases he
      exact (beq_iff_eq.1 heq).symm
    · exact ih he

/-! ## Import of a path -/

/-- The errors of resolution: access is denied, or the class is not resolved. -/
inductive Failure.Refused : Failure → Prop
  | access (e : AccessError) : Refused (.bridge (.access e))
  | resolution (e : ResolutionError) : Refused (.bridge (.resolution e))

namespace Resolver

variable {r : Resolver} {path home name : Text} {names : List Text} {gated : Bool} {f : Failure}

/-- Only a path that begins with a dot is cut behind a module without a name, or with a name that
begins with a dot. -/
theorem dot_of_mem_cuts (hcut : (home, names) ∈ cuts path)
    (h : home = [] ∨ Text.startsWith "." home = true) : Text.startsWith "." path = true := by
  obtain ⟨rest, rfl, -⟩ := exists_of_mem_cuts hcut
  rcases h with rfl | h
  · rfl
  · have hpre := List.isPrefixOf_iff_prefix.1 h
    exact List.isPrefixOf_iff_prefix.2 (hpre.trans (List.prefix_append home _))

/-- A cut fails with the errors of resolution, or its module raises another error while it is loaded
than that a module is missing. -/
theorem error_of_tryCut (h : r.tryCut path gated home names = .error f) :
    f.Refused ∨ ∃ c e, f = .host c ∧ r.world.load home = .error e ∧ ∀ n p, e ≠ .noModule n p := by
  rw [tryCut] at h
  split at h
  · split at h
    · cases h
    · cases h
      exact .inl (.resolution _)
  · rename_i e hother hload
    have hother' : ∀ n p, e ≠ .noModule n p := fun n p heq => hother n p heq
    split at h
    · rw [Failure.wrapping] at h
      split at h
      · rename_i reason _
        cases h
        exact .inr ⟨reason, e, rfl, hload, hother'⟩
      · cases h
        exact .inl (.resolution _)
    · cases h
      exact .inr ⟨e, e, rfl, hload, hother'⟩
  · split at h
    · cases h
      exact .inl (.access _)
    split at h
    · cases h
    · split at h
      · cases h
        exact .inl (.access _)
      · cases h
    · cases h
      exact .inl (.resolution _)

theorem error_of_importType (h : r.importType path gated = .error f) :
    f.Refused ∨ ∃ c e home names, f = .host c ∧ (home, names) ∈ cuts path ∧
      r.world.load home = .error e ∧ ∀ n p, e ≠ .noModule n p := by
  rw [importType] at h
  generalize cuts path = tried at h ⊢
  induction tried with
  | nil =>
    cases h
    exact .inl (.resolution _)
  | cons cut rest ih =>
    rw [tryCuts] at h
    rcases bind_eq_error_iff.1 h with hcut | ⟨found, -, h⟩
    · rcases error_of_tryCut hcut with hrefused | ⟨c, e, hf, hload⟩
      · exact .inl hrefused
      · exact .inr ⟨c, e, cut.1, cut.2, hf, List.mem_cons_self, hload⟩
    · cases found with
      | some t => cases h
      | none =>
        rcases ih h with hrefused | ⟨c, e, home, names, hf, hmem, hload⟩
        · exact .inl hrefused
        · exact .inr ⟨c, e, home, names, hf, List.mem_cons_of_mem cut hmem, hload⟩

/-- Where all modules load, a path that does not begin with a dot fails with the errors of
resolution. -/
theorem refused_of_importType (hu : r.world.Clean) (hdot : Text.startsWith "." path = false)
    (h : r.importType path gated = .error f) : f.Refused := by
  rcases error_of_importType h with hrefused | ⟨-, e, home, names, -, hcut, hload, hother⟩
  · exact hrefused
  exfalso
  have hne : home ≠ [] := by
    intro hnil
    rw [dot_of_mem_cuts hcut (.inl hnil)] at hdot
    cases hdot
  have hhome : Text.startsWith "." home = false := by
    apply Bool.eq_false_iff.2
    intro hhome
    rw [dot_of_mem_cuts hcut (.inr hhome)] at hdot
    cases hdot
  -- only a missing module is left
  obtain ⟨n, p, hmissing⟩ := Universe.noModule_of_load hu hne hhome hload
  exact hother n p hmissing

/-- How the import of a path that begins with a dot fails, by what stands before its last dot. -/
def dotFault (home : Text) : HostError := if home = [] then .emptyModule else .noPackage home

/-- A path is cut first at its last dot. -/
theorem exists_first_cut (h : CodePoint.ofChar '.' ∈ path) :
    ∃ home last names rest, path = home ++ ('.' :: last : Text) ∧ CodePoint.ofChar '.' ∉ last ∧
      cuts path = (home, names) :: rest := by
  have hlen : 2 ≤ (Text.splitOn '.' path).length := by
    by_contra hshort
    have hjoin := Text.join_splitOn '.' path
    rcases hparts : Text.splitOn '.' path with _ | ⟨p, _ | ⟨q, ps⟩⟩
    · rw [hparts] at hjoin
      subst hjoin
      cases h
    · rw [hparts, Text.join_singleton] at hjoin
      subst hjoin
      exact Text.notMem_of_mem_splitOn (hparts ▸ List.mem_singleton_self p) h
    · rw [hparts, List.length_cons, List.length_cons] at hshort
      omega
  obtain ⟨k, hk⟩ := Nat.exists_eq_add_of_le hlen
  have hpath := Text.eq_join_take_append (Nat.succ_pos k)
    (show k + 1 < (Text.splitOn '.' path).length by omega)
  -- one piece stands behind the last dot
  obtain ⟨last, hlast⟩ : ∃ last, (Text.splitOn '.' path).drop (k + 1) = [last] := by
    apply List.length_eq_one_iff.1
    rw [List.length_drop]
    omega
  have hmem : last ∈ Text.splitOn '.' path :=
    List.mem_of_mem_drop (hlast ▸ List.mem_singleton_self last)
  rw [hlast, Text.join_singleton] at hpath
  have hcuts : ∃ names rest, cuts path =
      (Text.join [('.' : CodePoint)] ((Text.splitOn '.' path).take (k + 1)), names) :: rest := by
    rw [cuts, show (Text.splitOn '.' path).length - 1 = k + 1 by omega, List.range_succ,
      List.map_append, List.reverse_append]
    exact ⟨_, _, rfl⟩
  obtain ⟨names, rest, hcuts⟩ := hcuts
  exact ⟨_, last, names, rest, hpath, Text.notMem_of_mem_splitOn hmem, hcuts⟩

/-- A path that begins with a dot is cut first behind a name that no module can have. -/
theorem importType_of_dot (r : Resolver) (gated : Bool) (hdot : Text.startsWith "." path = true) :
    ∃ home last, path = home ++ ('.' :: last : Text) ∧ CodePoint.ofChar '.' ∉ last ∧
      r.importType path gated = .error (.host (dotFault home)) := by
  obtain ⟨tail, rfl⟩ := List.isPrefixOf_iff_prefix.1 hdot
  have hmem : CodePoint.ofChar '.' ∈ Text.ofString "." ++ tail := List.mem_cons_self
  obtain ⟨home, last, names, rest, hpath, hlast, hcuts⟩ := exists_first_cut hmem
  refine ⟨home, last, hpath, hlast, ?_⟩
  have hload : r.world.load home = .error (dotFault home) := by
    rw [Universe.load, dotFault]
    cases home with
    | nil => rfl
    | cons c home =>
      obtain ⟨rfl, -⟩ := List.cons.inj hpath
      rfl
  have htry : r.tryCut (Text.ofString "." ++ tail) gated home names =
      .error (.host (dotFault home)) := by
    rw [tryCut, hload, dotFault]
    by_cases hhome : home = []
    · rw [if_pos hhome]
      rfl
    · rw [if_neg hhome]
      rfl
  rw [importType, hcuts, tryCuts, htry]
  rfl

/-! ## Resolution of a name -/

/-- The path that is imported for a name: what it stands for, the name itself below a root, or for
an array the path that is imported for its component. -/
inductive Imported (r : Resolver) : Text → Text → Prop
  | standsFor {name path : Text} (allowed : r.isDenied name = false)
    (plain : Text.startsWith "[" name = false)
    (found : r.settings.aliases.lookup name = some path) :
    Imported r name path
  | root {name : Text} (allowed : r.isDenied name = false) (unbound : r.Unbound name)
    (importable : r.isImportable name = true) : Imported r name name
  | component {name path : Text} (allowed : r.isDenied name = false)
    (array : Text.startsWith "[" name = true) (reference : Kind.ofText? (component name) = none)
    (rest : Imported r (componentName name) path) : Imported r name path

theorem resolveClass_of_alias (hallowed : r.isDenied name = false)
    (hplain : Text.startsWith "[" name = false)
    (hfound : r.settings.aliases.lookup name = some path) :
    r.resolveClass name = (r.importType path false).map (r.ofHostType name) := by
  rw [resolveClass_eq, hallowed, if_neg Bool.false_ne_true, hplain, if_neg Bool.false_ne_true,
    resolvePlain, hfound]
  dsimp only
  cases r.importType path false <;> rfl

theorem resolveClass_of_reference (hallowed : r.isDenied name = false)
    (harray : Text.startsWith "[" name = true) (hreference : Kind.ofText? (component name) = none) :
    r.resolveClass name =
      (r.resolveClass (componentName name)).map fun _ => ⟨name, .list, .list⟩ := by
  rw [resolveClass_eq, hallowed, if_neg Bool.false_ne_true, if_pos harray, hreference]
  rfl

theorem name_ofHostType (r : Resolver) (name : Text) (t : HostType) :
    (r.ofHostType name t).name = name := by
  rw [ofHostType]
  split <;> rfl

/-- A class is given under the name that was asked for. -/
theorem name_of_resolveClass (hregistry : r.registry.Filled) {c : HostClass}
    (h : r.resolveClass name = .ok c) : c.name = name := by
  rw [resolveClass_eq] at h
  split at h
  · cases h
  split at h
  · split at h
    · cases h
      rfl
    · obtain ⟨_, -, rfl⟩ := map_eq_ok_iff.1 h
      rfl
  · rw [resolvePlain] at h
    split at h
    · obtain ⟨t, -, h⟩ := bind_eq_ok_iff.1 h
      cases h
      exact name_ofHostType r name t
    · split at h
      · rename_i e he
        cases h
        exact hregistry.name_of_lookup he
      · split at h
        · obtain ⟨t, -, h⟩ := bind_eq_ok_iff.1 h
          cases h
          exact name_ofHostType r name t
        · cases h

/-- Resolution fails with its own errors, or as the import of a path does. -/
theorem error_of_resolveClass (h : r.resolveClass name = .error f) :
    f.Refused ∨ ∃ path gated, r.Imported name path ∧ r.importType path gated = .error f := by
  induction name using Resolver.resolveClass.induct r with
  | case1 name hdenied =>
    rw [resolveClass_eq, if_pos hdenied] at h
    cases h
    exact .inl (.access _)
  | case2 name hdenied harray component hkind =>
    rw [resolveClass_eq, if_neg hdenied, if_pos harray, if_pos hkind] at h
    cases h
  | case3 name hdenied harray component hkind ih =>
    have hallowed := Bool.eq_false_iff.2 hdenied
    have hreference := Option.not_isSome_iff_eq_none.1 hkind
    rw [resolveClass_of_reference hallowed harray hreference, map_eq_error_iff] at h
    rcases ih h with hrefused | ⟨path, gated, hpath, himport⟩
    · exact .inl hrefused
    · exact .inr ⟨path, gated, .component hallowed harray hreference hpath, himport⟩
  | case4 name hdenied hplain =>
    have hallowed := Bool.eq_false_iff.2 hdenied
    have hplain := Bool.eq_false_iff.2 hplain
    cases halias : r.settings.aliases.lookup name with
    | some path =>
      rw [resolveClass_of_alias hallowed hplain halias, map_eq_error_iff] at h
      exact .inr ⟨path, false, .standsFor hallowed hplain halias, h⟩
    | none =>
      cases hbound : r.registry.lookup name with
      | some e =>
        rw [resolveClass_eq, if_neg hdenied, hplain, if_neg Bool.false_ne_true, resolvePlain,
          halias, hbound] at h
        cases h
      | none =>
        have hunbound : r.Unbound name := ⟨hplain, halias, hbound⟩
        rw [resolveClass_of_unbound hunbound hallowed] at h
        split at h
        · rename_i himportable
          rw [map_eq_error_iff] at h
          exact .inr ⟨name, true, .root hallowed hunbound himportable, h⟩
        · cases h
          exact .inl (.resolution _)

/-- Where no path that is imported begins with a dot, resolution fails with its own errors. -/
theorem refused_of_resolveClass (hu : r.world.Clean)
    (hpaths : ∀ path, r.Imported name path → Text.startsWith "." path = false)
    (h : r.resolveClass name = .error f) : f.Refused := by
  rcases error_of_resolveClass h with hrefused | ⟨path, gated, hpath, himport⟩
  · exact hrefused
  · exact refused_of_importType hu (hpaths path hpath) himport

/-- Where a path that is imported begins with a dot, resolution fails with an error of import. -/
theorem resolveClass_of_dot (hpath : r.Imported name path)
    (hdot : Text.startsWith "." path = true) :
    ∃ home last, path = home ++ ('.' :: last : Text) ∧ CodePoint.ofChar '.' ∉ last ∧
      r.resolveClass name = .error (.host (dotFault home)) := by
  induction hpath with
  | standsFor hallowed hplain hfound =>
    obtain ⟨home, last, hparts, hlast, herror⟩ := importType_of_dot r false hdot
    refine ⟨home, last, hparts, hlast, ?_⟩
    rw [resolveClass_of_alias hallowed hplain hfound, herror]
    rfl
  | root hallowed hunbound himportable =>
    obtain ⟨home, last, hparts, hlast, herror⟩ := importType_of_dot r true hdot
    refine ⟨home, last, hparts, hlast, ?_⟩
    rw [resolveClass_of_unbound hunbound hallowed, if_pos himportable, herror]
    rfl
  | component hallowed harray hreference _ ih =>
    obtain ⟨home, last, hparts, hlast, herror⟩ := ih hdot
    refine ⟨home, last, hparts, hlast, ?_⟩
    rw [resolveClass_of_reference hallowed harray hreference, herror]
    rfl

/-- **Resolution fails with its own errors, but for paths that begin with a dot.**  Where all
modules load, a class is given under the name that was asked for.  Every failure is a denied access
or a class that is not resolved, exactly when no path that is imported for the name begins with a
dot.  A path that does always ends in an error of import: what stands before its last dot is empty,
or names a module from a package that is not known. -/
theorem resolveClass_refused_iff (r : Resolver) (hworld : r.world.Clean)
    (hregistry : r.registry.Filled) (name : Text) :
    (∀ c, r.resolveClass name = .ok c → c.name = name) ∧
    ((∀ f, r.resolveClass name = .error f → f.Refused) ↔
      ∀ path, r.Imported name path → Text.startsWith "." path = false) ∧
    (∀ path, r.Imported name path → Text.startsWith "." path = true →
      ∃ home last, path = home ++ ('.' :: last : Text) ∧ CodePoint.ofChar '.' ∉ last ∧
        r.resolveClass name =
          .error (.host (if home = [] then .emptyModule else .noPackage home))) := by
  refine ⟨fun c hc => name_of_resolveClass hregistry hc, ⟨fun hrefused path hpath => ?_, ?_⟩, ?_⟩
  · apply Bool.eq_false_iff.2
    intro hdot
    obtain ⟨home, last, -, -, herror⟩ := resolveClass_of_dot hpath hdot
    cases hrefused _ herror
  · intro hpaths f hf
    exact refused_of_resolveClass hworld hpaths hf
  · intro path hpath hdot
    exact resolveClass_of_dot hpath hdot

/-- An array of a bound class, an array of a missing one, and an array of a class that stands for a
path with a dot in front. -/
theorem refused_beside_dotted :
    let home : HostModule := { isPackage := true }
    let bound : HostClass := ⟨"b.B", .text, .text⟩
    let r : Resolver := ⟨{ modules := [("p", .present home)] }, ({} : Registry).add bound,
      { aliases := [("a.A", ".m.C")], importRoots := ["p"] }⟩
    r.world.Clean ∧ r.registry.Filled ∧
      (∀ c, r.resolveClass "[Lb.B;" = .ok c → c.name = "[Lb.B;") ∧
      (∀ f, r.resolveClass "[Lp.C;" = .error f → f.Refused) ∧
      ∃ home last, (".m.C" : Text) = home ++ ('.' :: last : Text) ∧
        CodePoint.ofChar '.' ∉ last ∧ r.resolveClass "[La.A;" =
          .error (.host (if home = [] then .emptyModule else .noPackage home)) := by
  intro home bound r
  have hworld : r.world.Clean := by
    intro name e h
    rw [List.lookup_cons] at h
    split at h <;> cases h
  have hregistry : r.registry.Filled := .add .fresh bound
  have hpaths : ∀ path, r.Imported "[Lp.C;" path → Text.startsWith "." path = false := by
    intro path hpath
    cases hpath with
    | standsFor _ hplain _ => cases hplain
    | root _ hunbound _ => cases hunbound.plain
    | component _ _ _ hrest =>
      cases hrest with
      | standsFor _ _ hfound => cases hfound
      | root _ _ _ => rfl
      | component _ harray _ _ => cases harray
  have hdotted : r.Imported "[La.A;" ".m.C" := .component rfl rfl rfl (.standsFor rfl rfl rfl)
  exact ⟨hworld, hregistry, (r.resolveClass_refused_iff hworld hregistry "[Lb.B;").1,
    (r.resolveClass_refused_iff hworld hregistry "[Lp.C;").2.1.2 hpaths,
    (r.resolveClass_refused_iff hworld hregistry "[La.A;").2.2 ".m.C" hdotted rfl⟩

/-- Not every failure of resolution is one of its own, also where there is no module at all. -/
theorem not_refused_of_alias :
    ¬ ∀ (r : Resolver) (name : Text), r.world.Clean → r.registry.Filled →
      (∃ c, r.resolveClass name = .ok c ∧ c.name = name) ∨
        ∃ f, r.resolveClass name = .error f ∧ f.Refused := by
  intro h
  let r : Resolver := ⟨{}, {}, { aliases := [("x.Y", ".Foo")] }⟩
  have herror : r.resolveClass "x.Y" = .error (.host .emptyModule) := by
    rw [resolveClass_eq]
    rfl
  rcases h r "x.Y" nofun .fresh with ⟨c, hc, -⟩ | ⟨f, hf, hrefused⟩
  · rw [herror] at hc
    cases hc
  · rw [herror] at hf
    cases hf
    cases hrefused

end Resolver

end HostCall
