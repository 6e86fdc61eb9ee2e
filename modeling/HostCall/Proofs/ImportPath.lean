import HostCall.Proofs.Resolution
import HostCall.Proofs.Search

/-!
# The classes that import can reach

A name that is no array, stands for no other and is not bound is the path of a class: a module
stands in front, and the names behind it lead on from the module.  Where the module ends is found by
trial, the longest first, so what holds of the class that is found has to hold whichever trial
succeeds.

`Trail` says what names lead to one after another, without the checks that a search makes on the
way, and `trail_of_reach` that a search which succeeds has passed no module.

Main statement, `confined_import`: an imported class lies under a root by its name and by its
module, and a name outside all roots imports nothing.
-/

namespace HostCall

open Result

/-! ## Paths and their roots -/

/-- The text is the root, or goes on from it behind a dot. -/
def Text.Below (root t : Text) : Prop := t = root ∨ ∃ rest, t = root ++ ('.' :: rest : Text)

theorem Resolver.isUnder_iff {roots : List Text} {name : Text} :
    isUnder roots name = true ↔ ∃ root ∈ roots, Text.Below root name := by
  rw [isUnder, List.any_eq_true]
  refine exists_congr fun root => and_congr_right fun _ => ?_
  rw [Bool.or_eq_true, beq_iff_eq, Text.startsWith, List.isPrefixOf_iff_prefix]
  refine or_congr_right (exists_congr fun rest => ?_)
  rw [List.append_assoc]
  exact eq_comm

/-- The names of a path behind its module: dots and dollar signs stand between them. -/
def Resolver.pathNames (rest : Text) : List Text :=
  (Text.splitOn '.' rest).flatMap (Text.splitOn '$')

/-- A name has a module around it, if only its own. -/
theorem Universe.enclosing_ne_nil (name : Text) : enclosing name ≠ [] := by
  rw [enclosing, Ne, List.map_eq_nil_iff, List.range_eq_nil, List.length_eq_zero_iff]
  exact Text.splitOn_ne_nil '.' name

/-- A cut parts a path at one of its dots. -/
theorem Resolver.exists_of_mem_cuts {path home : Text} {names : List Text}
    (h : (home, names) ∈ cuts path) :
    ∃ rest, path = home ++ ('.' :: rest : Text) ∧ names = pathNames rest := by
  obtain ⟨n, hn, hcut⟩ := List.mem_map.1 h
  rw [List.mem_reverse, List.mem_map] at hn
  obtain ⟨k, hk, rfl⟩ := hn
  rw [List.mem_range] at hk
  obtain ⟨rfl, rfl⟩ := Prod.mk.inj hcut
  have hback : (Text.splitOn '.' path).drop (k + 1) ≠ [] := by
    intro hnil
    have hlen := congrArg List.length hnil
    rw [List.length_drop, List.length_nil] at hlen
    omega
  refine ⟨Text.join [('.' : CodePoint)] ((Text.splitOn '.' path).drop (k + 1)), ?_, ?_⟩
  · exact Text.eq_join_take_append (Nat.succ_pos k) (Nat.add_lt_of_lt_sub hk)
  · rw [pathNames, Text.splitOn_join hback fun p hp =>
      Text.notMem_of_mem_splitOn (List.mem_of_mem_drop hp)]

/-! ## Trails -/

/-- What names lead to one after another, when `get` says what the first of them finds.  A trail may
pass anything, private or a module. -/
inductive Universe.Trail (u : Universe) :
    (Text → Option Attribute) → List Text → List Attribute → Prop
  | nil {get : Text → Option Attribute} : Trail u get [] []
  | cons {get : Text → Option Attribute} {name : Text} {a : Attribute} {names : List Text}
      {objects : List Attribute} (found : get name = some a)
      (rest : Trail u (u.follow? a) names objects) : Trail u get (name :: names) (a :: objects)

namespace Universe

theorem trail_of_walk {u : Universe} {a b : Attribute} {names : List Text}
    (h : u.walk a names = some b) :
    ∃ objects, u.Trail (u.follow? a) names objects ∧ Attribute.module ∉ objects ∧
      (a :: objects).getLast? = some b := by
  induction names generalizing a with
  | nil => exact ⟨[], .nil, List.not_mem_nil, h⟩
  | cons name names ih =>
    rw [walk] at h
    split at h
    · cases h
    · cases h
    · rename_i c hne hfound
      obtain ⟨objects, htrail, hnone, hlast⟩ := ih h
      refine ⟨c :: objects, .cons hfound htrail, ?_, ?_⟩
      · exact List.not_mem_cons_of_ne_of_not_mem (fun heq => hne heq.symm) hnone
      · rw [List.getLast?_cons_cons]
        exact hlast

/-- A search that succeeds has followed a trail that passes no module. -/
theorem trail_of_reach {u : Universe} {m : HostModule} {b : Attribute} {names : List Text}
    (h : u.reach m names = some b) :
    ∃ objects, u.Trail (fun name => m.attributes.lookup name) names objects ∧
      Attribute.module ∉ objects ∧ objects.getLast? = some b := by
  cases names with
  | nil => cases h
  | cons name names =>
    rw [reach] at h
    split at h
    · cases h
    · cases h
    · rename_i a hne hfound
      obtain ⟨objects, htrail, hnone, hlast⟩ := trail_of_walk h
      exact ⟨a :: objects, .cons hfound htrail,
        List.not_mem_cons_of_ne_of_not_mem (fun heq => hne heq.symm) hnone, hlast⟩

end Universe

/-! ## Imported classes -/

namespace Resolver

variable {r : Resolver}

/-- A cut gives a class only if its module loads, its names are public and lead to the class without
passing a module, and the class is defined under a root where that is asked. -/
theorem exists_module_of_tryCut {path home : Text} {names : List Text} {gated : Bool} {t : HostType}
    (h : r.tryCut path gated home names = .ok (some t)) :
    ∃ m, r.world.load home = .ok m ∧ (∀ n ∈ names, Text.startsWith "_" n = false) ∧
      r.world.reach m names = some (.type t) ∧ (gated = true → r.isImportable t.home = true) := by
  rw [tryCut] at h
  split at h
  · split at h <;> cases h
  · split at h <;> cases h
  rename_i m hload
  split at h
  · cases h
  rename_i hpublic
  split at h
  · cases h
  · rename_i t' hreach
    split at h
    · cases h
    rename_i hunder
    cases h
    refine ⟨m, hload, fun n hn => ?_, hreach, fun hgated => ?_⟩
    · rw [Bool.not_eq_true, List.any_eq_false] at hpublic
      exact Bool.eq_false_iff.2 (hpublic n hn)
    · simpa [hgated] using hunder
  · cases h

/-- The cut at which the class of a path is found: the longer modules have given nothing. -/
def FoundAt (r : Resolver) (path : Text) (cut : Text × List Text) (t : HostType) : Prop :=
  ∃ longer shorter, cuts path = longer ++ cut :: shorter ∧
    (∀ c ∈ longer, r.tryCut path true c.1 c.2 = .ok none) ∧
    r.tryCut path true cut.1 cut.2 = .ok (some t)

theorem exists_cut_of_tryCuts {path : Text} {gated : Bool} {t : HostType}
    {cuts : List (Text × List Text)} (h : r.tryCuts path gated cuts = .ok t) :
    ∃ longer cut shorter, cuts = longer ++ cut :: shorter ∧
      (∀ c ∈ longer, r.tryCut path gated c.1 c.2 = .ok none) ∧
      r.tryCut path gated cut.1 cut.2 = .ok (some t) := by
  induction cuts with
  | nil => cases h
  | cons cut rest ih =>
    obtain ⟨home, names⟩ := cut
    rw [tryCuts] at h
    obtain ⟨found, hfound, h⟩ := bind_eq_ok_iff.1 h
    cases found with
    | some t' =>
      cases h
      exact ⟨[], (home, names), rest, rfl, nofun, hfound⟩
    | none =>
      obtain ⟨longer, cut, shorter, hcuts, hlonger, hcut⟩ := ih h
      refine ⟨(home, names) :: longer, cut, shorter, congrArg _ hcuts, ?_, hcut⟩
      exact List.forall_mem_cons.2 ⟨hfound, hlonger⟩

/-- A path leads to a class: a module stands in front where the class is found, and the names behind
it, all of them public, lead from the module to the class without passing a module. -/
def LeadsTo (r : Resolver) (path : Text) (t : HostType) : Prop :=
  ∃ home rest m objects, path = home ++ ('.' :: rest : Text) ∧
    r.FoundAt path (home, pathNames rest) t ∧ r.world.load home = .ok m ∧
    r.world.Trail (fun name => m.attributes.lookup name) (pathNames rest) objects ∧
    objects.getLast? = some (.type t) ∧ (∀ n ∈ pathNames rest, Text.startsWith "_" n = false) ∧
    Attribute.module ∉ objects

theorem leadsTo_of_importType {path : Text} {t : HostType}
    (h : r.importType path true = .ok t) : r.LeadsTo path t ∧ r.isImportable t.home = true := by
  obtain ⟨longer, ⟨home, names⟩, shorter, hcuts, hlonger, hcut⟩ := exists_cut_of_tryCuts h
  have hmem : (home, names) ∈ cuts path := by
    rw [hcuts]
    exact List.mem_append_right _ List.mem_cons_self
  obtain ⟨rest, hpath, rfl⟩ := exists_of_mem_cuts hmem
  obtain ⟨m, hload, hpublic, hreach, hunder⟩ := exists_module_of_tryCut hcut
  obtain ⟨objects, htrail, hnone, hlast⟩ := Universe.trail_of_reach hreach
  have hfound : r.FoundAt path (home, pathNames rest) t := ⟨longer, shorter, hcuts, hlonger, hcut⟩
  refine ⟨⟨home, rest, m, objects, hpath, hfound, hload, htrail, hlast, hpublic, hnone⟩, ?_⟩
  exact hunder rfl

/-! ## Names that only import gives a meaning -/

/-- A name that is no array, stands for no other name and is not bound. -/
structure Unbound (r : Resolver) (name : Text) : Prop where
  plain : Text.startsWith "[" name = false
  unaliased : r.settings.aliases.lookup name = none
  unregistered : r.registry.lookup name = none

/-- Whether a name is unbound is for the aliases and the registry to say. -/
theorem Unbound.congr {r' : Resolver} {name : Text} (h : r.Unbound name)
    (haliases : r'.settings.aliases = r.settings.aliases) (hregistry : r'.registry = r.registry) :
    r'.Unbound name :=
  ⟨h.plain, haliases ▸ h.unaliased, hregistry ▸ h.unregistered⟩

theorem resolveClass_of_unbound {name : Text} (hname : r.Unbound name)
    (hallowed : r.isDenied name = false) :
    r.resolveClass name =
      if r.isImportable name then (r.importType name true).map (r.ofHostType name)
      else .error (.bridge (.resolution (.classNotFound name))) := by
  rw [resolveClass_eq, hallowed, if_neg Bool.false_ne_true, hname.plain,
    if_neg Bool.false_ne_true, resolvePlain, hname.unaliased, hname.unregistered]
  dsimp only
  split
  · cases r.importType name true <;> rfl
  · rfl

theorem hostType_ofHostType (r : Resolver) (name : Text) (t : HostType) :
    (r.ofHostType name t).hostType = t := by
  rw [ofHostType]
  split <;> rfl

/-- **Import never leaves its roots.**  Take a name that is not denied and that only import gives a
meaning.  If it resolves to a class, then the name lies under a root, the module that defines the
class lies under a root, and the name leads to the class by public names that pass no module.  If it
lies under no root, it is not found, and nothing is imported for it: that is so whatever the modules
are, also if none of them can be imported. -/
theorem confined_import (r : Resolver) {name : Text} (hname : r.Unbound name)
    (hallowed : name ∉ r.settings.deniedTypes) :
    (∀ c, r.resolveClass name = .ok c →
      (∃ root ∈ r.settings.importRoots, Text.Below root name) ∧
      (∃ root ∈ r.settings.importRoots, Text.Below root c.hostType.home) ∧
      r.LeadsTo name c.hostType) ∧
    ((∀ root ∈ r.settings.importRoots, ¬ Text.Below root name) →
      ∀ world, (Resolver.mk world r.registry r.settings).resolveClass name =
        .error (.bridge (.resolution (.classNotFound name)))) := by
  have hdenied : r.isDenied name = false := by simpa [isDenied] using hallowed
  constructor
  · intro c hc
    rw [resolveClass_of_unbound hname hdenied] at hc
    split at hc
    · rename_i hunder
      obtain ⟨t, ht, rfl⟩ := map_eq_ok_iff.1 hc
      obtain ⟨hleads, hhome⟩ := leadsTo_of_importType ht
      rw [hostType_ofHostType]
      exact ⟨isUnder_iff.1 hunder, isUnder_iff.1 hhome, hleads⟩
    · cases hc
  · intro houtside world
    have hname' : (Resolver.mk world r.registry r.settings).Unbound name := hname.congr rfl rfl
    have hunder : (Resolver.mk world r.registry r.settings).isImportable name ≠ true := by
      intro hunder
      obtain ⟨root, hroot, hbelow⟩ := isUnder_iff.1 hunder
      exact houtside root hroot hbelow
    rw [resolveClass_of_unbound hname' hdenied, if_neg hunder]

/-- A class within a class is reached behind the longest module that can be imported, past which two
modules stand unused. -/
theorem confined_nested_class :
    let outer : HostType := .declared ⟨"p.m", "Outer"⟩
    let inner : HostType := .declared ⟨"p.m", "Outer.Inner"⟩
    let home : HostModule := { attributes := [("os", .module), ("Outer", .type outer)] }
    let decl : ClassDecl :=
      { members := [("sys", .module), ("Inner", .nested inner)]
        construct := .nullary "Outer" (pure .null) }
    let world : Universe :=
      { modules := [("p", .present { isPackage := true }), ("p.m", .present home)]
        classes := [(outer, decl)] }
    let r : Resolver := ⟨world, {}, { importRoots := ["p"] }⟩
    r.Unbound "p.m.Outer.Inner" ∧ r.Unbound "q.m.Outer" ∧
      r.resolveClass "p.m.Outer.Inner" = .ok ⟨"p.m.Outer.Inner", inner, inner⟩ ∧
      Text.Below "p" "p.m.Outer.Inner" ∧ Text.Below "p" inner.home ∧
      r.LeadsTo "p.m.Outer.Inner" inner ∧
      ∀ world', (Resolver.mk world' {} { importRoots := ["p"] }).resolveClass "q.m.Outer" =
        .error (.bridge (.resolution (.classNotFound "q.m.Outer"))) := by
  intro outer inner home decl world r
  have hname : r.Unbound "p.m.Outer.Inner" := ⟨rfl, rfl, rfl⟩
  have hother : r.Unbound "q.m.Outer" := ⟨rfl, rfl, rfl⟩
  have hresolve : r.resolveClass "p.m.Outer.Inner" = .ok ⟨"p.m.Outer.Inner", inner, inner⟩ := by
    rw [resolveClass_eq]
    rfl
  have houtside : ∀ root ∈ r.settings.importRoots, ¬ Text.Below root "q.m.Outer" := by
    intro root hroot
    rw [List.mem_singleton.1 hroot]
    rintro (heq | ⟨rest, heq⟩)
    · exact absurd heq (by decide)
    · exact absurd (List.cons.inj heq).1 (by decide)
  obtain ⟨⟨root, hroot, hunder⟩, ⟨root', hroot', hhome⟩, hleads⟩ :=
    (r.confined_import hname List.not_mem_nil).1 _ hresolve
  obtain rfl := List.mem_singleton.1 hroot
  obtain rfl := List.mem_singleton.1 hroot'
  exact ⟨hname, hother, hresolve, hunder, hhome, hleads,
    (r.confined_import hother List.not_mem_nil).2 houtside⟩

end Resolver

end HostCall
