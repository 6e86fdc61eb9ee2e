import HostCall.Proofs.HostCode
import HostCall.Proofs.ImportPath

/-!
# Denied names and the classes behind them

Denial compares names, and it comes before anything is looked up.  Import follows paths, and many
paths lead to one class: a nested class is written with a dot or with a dollar sign, and a class is
an attribute of every module that imports it.  So a class that is denied under one name can stay
reachable under another.

What a name would be without denial is asked of `Resolver.allowing`, and denial changes nothing else
(`resolveClass_eq_allowing`).  Main statement, `resolveClass_other_spelling`: of two names of one
class each is denied when it is listed itself, and gives that class otherwise.

A nested class has such names in general.  Behind the module a dollar sign leads where a dot leads,
but only dots part a module from the names, so that another spelling is cut at other places.
`foundAt_iff` says where a class is found without the order of the cuts, and a module behind a
dollar sign is missing (`missing_of_dollared`); with both, `Imports.dollared` gives the same class
for all spellings of the names behind its module.
-/

namespace HostCall

namespace Resolver

variable {r : Resolver} {name : Text} {c : HostClass}

/-- The resolver that denies nothing. -/
def allowing (r : Resolver) : Resolver :=
  ⟨r.world, r.registry, { r.settings with deniedTypes := [] }⟩

/-- Import gives the name a class, if nothing is denied. -/
structure Imports (r : Resolver) (name : Text) (c : HostClass) : Prop where
  unbound : r.Unbound name
  found : r.allowing.resolveClass name = .ok c

theorem importType_allowing (r : Resolver) (path : Text) (gated : Bool) :
    r.allowing.importType path gated = r.importType path gated := by
  have hworld : r.world.Alike r.allowing.world := .refl r.world
  exact importType_congr hworld rfl path gated

theorem resolveClass_allowing (hname : r.Unbound name) : r.allowing.resolveClass name =
    if r.isImportable name then (r.importType name true).map (r.ofHostType name)
    else .error (.bridge (.resolution (.classNotFound name))) := by
  have hname' : r.allowing.Unbound name := hname.congr rfl rfl
  rw [resolveClass_of_unbound hname' rfl, importType_allowing]
  rfl

/-- An unbound name that is not listed is what it would be if nothing were denied. -/
theorem resolveClass_eq_allowing (hname : r.Unbound name)
    (hallowed : name ∉ r.settings.deniedTypes) :
    r.resolveClass name = r.allowing.resolveClass name := by
  have hdenied : r.isDenied name = false := by simpa [isDenied] using hallowed
  rw [resolveClass_of_unbound hname hdenied, resolveClass_allowing hname]

theorem Imports.resolveClass (h : r.Imports name c) :
    r.resolveClass name =
      if name ∈ r.settings.deniedTypes then .error (.bridge (.access (.deniedType name)))
      else .ok c := by
  split
  · rename_i hdenied
    exact resolveClass_of_isDenied hdenied
  · rename_i hallowed
    rw [resolveClass_eq_allowing h.unbound hallowed, h.found]

/-- An imported class holds its members where the registry says so of its host type. -/
theorem Imports.eq_ofHostType (h : r.Imports name c) : c = r.ofHostType name c.hostType := by
  have hfound := h.found
  rw [resolveClass_allowing h.unbound] at hfound
  split at hfound
  · obtain ⟨t, -, rfl⟩ := Result.map_eq_ok_iff.1 hfound
    rw [hostType_ofHostType]
  · cases hfound

/-- **Denial goes by name.**  Two names that import leads to one class are denied each on its own:
the listed one is refused, and the other one is refused exactly when it is listed as well, and gives
the class that the listed one would give otherwise. -/
theorem resolveClass_other_spelling (r : Resolver) {n m : Text} {c d : HostClass}
    (hn : r.Imports n c) (hm : r.Imports m d) (hsame : d.hostType = c.hostType)
    (hdenied : n ∈ r.settings.deniedTypes) :
    r.resolveClass n = .error (.bridge (.access (.deniedType n))) ∧
      r.resolveClass m =
        (if m ∈ r.settings.deniedTypes then .error (.bridge (.access (.deniedType m)))
        else .ok d) ∧
      d.members = c.members := by
  refine ⟨resolveClass_of_isDenied hdenied, hm.resolveClass, ?_⟩
  rw [hm.eq_ofHostType, hn.eq_ofHostType, hsame, ofHostType, ofHostType]
  split <;> rfl

/-- A class that two modules have is denied in one of them and reached through the other. -/
theorem reached_through_other_module :
    let t : HostType := .declared ⟨"a", "C"⟩
    let home : HostModule := { attributes := [("C", .type t)] }
    let world : Universe := { modules := [("a", .present home), ("b", .present home)] }
    let r : Resolver := ⟨world, {}, { deniedTypes := ["a.C"], importRoots := ["a", "b"] }⟩
    r.Imports "a.C" ⟨"a.C", t, t⟩ ∧ r.Imports "b.C" ⟨"b.C", t, t⟩ ∧
      r.resolveClass "a.C" = .error (.bridge (.access (.deniedType "a.C"))) ∧
      r.resolveClass "b.C" = .ok ⟨"b.C", t, t⟩ := by
  intro t home world r
  have ha : r.Imports "a.C" ⟨"a.C", t, t⟩ := by
    refine ⟨⟨rfl, rfl, rfl⟩, ?_⟩
    rw [resolveClass_eq]
    rfl
  have hb : r.Imports "b.C" ⟨"b.C", t, t⟩ := by
    refine ⟨⟨rfl, rfl, rfl⟩, ?_⟩
    rw [resolveClass_eq]
    rfl
  obtain ⟨hdenied, hother, -⟩ :=
    r.resolveClass_other_spelling ha hb rfl (List.mem_singleton.2 rfl)
  exact ⟨ha, hb, hdenied, hother⟩

/-- A nested class that is denied as it is written with a dot is reached with a dollar sign. -/
theorem denied_class_reached :
    let outer : HostType := .declared ⟨"tests.fixtures", "Outer"⟩
    let inner : HostType := .declared ⟨"tests.fixtures", "Outer.Inner"⟩
    let decl : ClassDecl :=
      { members := [("Inner", .nested inner)], construct := .nullary "Outer" (pure .null) }
    let home : HostModule := { attributes := [("Outer", .type outer)] }
    let world : Universe := {
      modules := [("tests", .present { isPackage := true }), ("tests.fixtures", .present home)]
      classes := [(outer, decl)] }
    let r : Resolver := ⟨world, {},
      { deniedTypes := ["tests.fixtures.Outer.Inner"], importRoots := ["tests"] }⟩
    r.settings.aliases = [] ∧
      r.Imports "tests.fixtures.Outer.Inner" ⟨"tests.fixtures.Outer.Inner", inner, inner⟩ ∧
      r.Imports "tests.fixtures.Outer$Inner" ⟨"tests.fixtures.Outer$Inner", inner, inner⟩ ∧
      ("tests.fixtures.Outer.Inner" : Text) ∈ r.settings.deniedTypes ∧
      ¬ ∃ e, r.resolveClass "tests.fixtures.Outer$Inner" = .error (.bridge (.access e)) := by
  intro outer inner decl home world r
  have hdot : r.Imports "tests.fixtures.Outer.Inner"
      ⟨"tests.fixtures.Outer.Inner", inner, inner⟩ := by
    refine ⟨⟨rfl, rfl, rfl⟩, ?_⟩
    rw [resolveClass_eq]
    rfl
  have hdollar : r.Imports "tests.fixtures.Outer$Inner"
      ⟨"tests.fixtures.Outer$Inner", inner, inner⟩ := by
    refine ⟨⟨rfl, rfl, rfl⟩, ?_⟩
    rw [resolveClass_eq]
    rfl
  refine ⟨rfl, hdot, hdollar, List.mem_singleton.2 rfl, ?_⟩
  rintro ⟨e, he⟩
  rw [hdollar.resolveClass, if_neg (by decide)] at he
  cases he

end Resolver

/-! ## Dots and dollar signs -/

/-- The second text has a dollar sign for some of the dots of the first. -/
def Text.Dollared (t t' : Text) : Prop :=
  List.Forall₂ (fun c d : CodePoint => d = c ∨ c = '.' ∧ d = '$') t t'

namespace Text.Dollared

variable {t t' : Text}

/-- The dots that are left part both texts. -/
theorem split {a' b' : Text} (h : Dollared t (a' ++ ('.' :: b' : Text))) :
    ∃ a b, t = a ++ ('.' :: b : Text) ∧ Dollared a a' ∧ Dollared b b' := by
  induction a' generalizing t with
  | nil =>
    obtain ⟨c, b, hc, hb, rfl⟩ := List.forall₂_cons_right_iff.1 h
    obtain rfl : c = '.' := hc.elim Eq.symm And.left
    exact ⟨[], b, rfl, .nil, hb⟩
  | cons d a' ih =>
    obtain ⟨c, rest, hc, hrest, rfl⟩ := List.forall₂_cons_right_iff.1 h
    obtain ⟨a, b, rfl, ha, hb⟩ := ih hrest
    exact ⟨c :: a, b, rfl, .cons hc ha, hb⟩

theorem eq_of_notMem (h : Dollared t t') (hplain : CodePoint.ofChar '$' ∉ t') : t' = t := by
  induction h with
  | nil => rfl
  | @cons c d t t' hc hrest ih =>
    rw [ih fun hmem => hplain (List.mem_cons_of_mem _ hmem)]
    rcases hc with rfl | ⟨-, rfl⟩
    · rfl
    · exact absurd List.mem_cons_self hplain

end Text.Dollared

namespace Resolver

/-- The names of a path grow at the front, where no dot or dollar sign stands. -/
theorem pathNames_cons (c : CodePoint) (rest : Text) :
    pathNames (c :: rest) =
      if c = '.' ∨ c = '$' then [] :: pathNames rest
      else (pathNames rest).modifyHead (c :: ·) := by
  obtain ⟨first, pieces, hpieces⟩ := List.exists_cons_of_ne_nil (Text.splitOn_ne_nil '.' rest)
  obtain ⟨name, names, hnames⟩ := List.exists_cons_of_ne_nil (Text.splitOn_ne_nil '$' first)
  rw [pathNames, pathNames, Text.splitOn, hpieces]
  by_cases hdot : c = '.'
  · rw [if_pos hdot, if_pos (.inl hdot), List.flatMap_cons]
    rfl
  · rw [if_neg hdot, List.flatMap_cons, List.flatMap_cons, Text.splitOn, hnames]
    by_cases hdollar : c = '$'
    · rw [if_pos hdollar, if_pos (.inr hdollar)]
      rfl
    · rw [if_neg hdollar, if_neg (not_or.2 ⟨hdot, hdollar⟩)]
      rfl

theorem pathNames_dollared {rest rest' : Text} (h : Text.Dollared rest rest') :
    pathNames rest' = pathNames rest := by
  induction h with
  | nil => rfl
  | @cons c d rest rest' hc hrest ih =>
    rw [pathNames_cons, pathNames_cons, ih]
    rcases hc with rfl | ⟨rfl, rfl⟩
    · rfl
    · rw [if_pos (.inr rfl), if_pos (.inl rfl)]

/-! ### The cuts behind a module -/

/-- A path is cut behind one of its dots, within the names, or within the module. -/
theorem cuts_append (home rest : Text) :
    cuts (home ++ ('.' :: rest : Text)) =
      (cuts rest).map (fun c => (home ++ ('.' :: c.1 : Text), c.2)) ++
        (home, pathNames rest) :: (cuts home).map fun c => (c.1, c.2 ++ pathNames rest) := by
  obtain ⟨k, hk⟩ := Nat.exists_eq_add_one_of_ne_zero
    (mt List.length_eq_zero_iff.1 (Text.splitOn_ne_nil '.' home))
  obtain ⟨l, hl⟩ := Nat.exists_eq_add_one_of_ne_zero
    (mt List.length_eq_zero_iff.1 (Text.splitOn_ne_nil '.' rest))
  have hplaces : (List.range (k + 1 + l)).map (· + 1) =
      (List.range k).map (· + 1) ++
        (k + 1) :: ((List.range l).map (· + 1)).map (k + 1 + ·) := by
    rw [List.range_add, List.range_succ, List.map_append, List.map_append, List.append_assoc,
      List.map_map, List.map_map]
    rfl
  have hlength : (Text.splitOn '.' home ++ Text.splitOn '.' rest).length - 1 = k + 1 + l := by
    rw [List.length_append, hk, hl]
    omega
  simp only [cuts]
  rw [Text.splitOn_append, hlength, hplaces, List.reverse_append, List.reverse_cons,
    List.append_assoc, List.singleton_append, List.map_append, List.map_cons, hk, hl]
  refine congrArg₂ (· ++ ·) ?_ (congrArg₂ List.cons ?_ ?_)
  · -- the module goes on into the names
    rw [← List.map_reverse, List.map_map, List.map_map]
    refine List.map_congr_left fun n hn => ?_
    have hne : (Text.splitOn '.' rest).take n ≠ [] := by
      rw [List.mem_reverse, List.mem_map] at hn
      obtain ⟨i, -, rfl⟩ := hn
      rw [Ne, List.take_eq_nil_iff, not_or]
      exact ⟨Nat.succ_ne_zero i, Text.splitOn_ne_nil '.' rest⟩
    simp only [Function.comp_apply]
    rw [← hk, List.take_length_add_append, List.drop_length_add_append]
    refine Prod.ext ((Text.join_append '.' (Text.splitOn_ne_nil '.' home) hne).trans ?_) rfl
    rw [Text.join_splitOn]
    rfl
  · -- the names begin right behind the module
    rw [← hk, List.take_left, List.drop_left]
    exact Prod.ext (Text.join_splitOn '.' home) rfl
  · -- the module ends earlier
    rw [List.map_map]
    refine List.map_congr_left fun n hn => ?_
    have hle : n ≤ (Text.splitOn '.' home).length := by
      rw [List.mem_reverse, List.mem_map] at hn
      obtain ⟨i, hi, rfl⟩ := hn
      rw [List.mem_range] at hi
      omega
    simp only [Function.comp_apply]
    rw [List.take_append_of_le_length hle, List.drop_append_of_le_length hle,
      List.flatMap_append]
    rfl

/-- A class is found behind a module when the longer modules give nothing. -/
theorem foundAt_iff {r : Resolver} {home rest : Text} {t : HostType} :
    r.FoundAt (home ++ ('.' :: rest : Text)) (home, pathNames rest) t ↔
      (∀ a b, rest = a ++ ('.' :: b : Text) →
        r.tryCut (home ++ ('.' :: rest : Text)) true (home ++ ('.' :: a : Text)) (pathNames b) =
          .ok none) ∧
      r.tryCut (home ++ ('.' :: rest : Text)) true home (pathNames rest) = .ok (some t) := by
  have hfront : (home, pathNames rest) ∉
      (cuts rest).map fun c => (home ++ ('.' :: c.1 : Text), c.2) := by
    intro hmem
    obtain ⟨c, -, hc⟩ := List.mem_map.1 hmem
    have hlen := congrArg (fun c : Text × List Text => c.1.length) hc
    simp at hlen
  have hback : (home, pathNames rest) ∉
      (cuts home).map fun c => (c.1, c.2 ++ pathNames rest) := by
    intro hmem
    obtain ⟨⟨a, names⟩, hcut, hc⟩ := List.mem_map.1 hmem
    obtain ⟨b, hb, -⟩ := exists_of_mem_cuts hcut
    have hlen := congrArg (fun c : Text × List Text => c.1.length) hc
    rw [hb] at hlen
    simp at hlen
  constructor
  · rintro ⟨longer, shorter, hcuts, hlonger, hcut⟩
    refine ⟨?_, hcut⟩
    rw [cuts_append, List.append_cons_inj_of_notMem hfront hback] at hcuts
    obtain ⟨rfl, -, -⟩ := hcuts
    rintro a b rfl
    refine hlonger _ (List.mem_map.2 ⟨(a, pathNames b), ?_, rfl⟩)
    rw [cuts_append]
    exact List.mem_append_right _ List.mem_cons_self
  · rintro ⟨hlonger, hcut⟩
    refine ⟨_, _, cuts_append home rest, ?_, hcut⟩
    intro c hc
    obtain ⟨⟨a, names⟩, hmem, rfl⟩ := List.mem_map.1 hc
    obtain ⟨b, hrest, rfl⟩ := exists_of_mem_cuts hmem
    exact hlonger a b hrest

end Resolver

/-! ### Modules that are missing -/

namespace Universe

variable {u : Universe} {parent : Option (Text × HostModule)} {names : List Text} {name part : Text}
  {m : HostModule} {e : HostError}

/-- The module is missing, or one of those around it. -/
def Missing (u : Universe) (name : Text) : Prop :=
  ∃ n p, u.load name = .error (.noModule n p) ∧ Text.startsWith n name = true

theorem loadChain_append_of_error (hne : names ≠ []) (h : u.loadChain parent names = .error e)
    (more : List Text) : u.loadChain parent (names ++ more) = .error e := by
  induction names generalizing parent with
  | nil => exact absurd rfl hne
  | cons name rest ih =>
    rw [loadChain_cons] at h
    rw [List.cons_append, loadChain_cons]
    cases hm : u.modules.lookup name with
    | none =>
      rw [hm] at h
      exact h
    | some entry =>
      rw [hm] at h
      cases entry with
      | failing e' => exact h
      | present m =>
        by_cases hrest : rest = []
        · subst hrest
          cases h
        · exact ih hrest h

theorem loadChain_append_of_ok (hname : u.modules.lookup name = none)
    (h : u.loadChain parent names = .ok m) :
    ∃ p, u.loadChain parent (names ++ [name]) = .error (.noModule name p) := by
  induction names generalizing parent with
  | nil =>
    rw [List.nil_append, loadChain_cons, hname]
    exact ⟨_, rfl⟩
  | cons first rest ih =>
    rw [loadChain_cons] at h
    rw [List.cons_append, loadChain_cons]
    cases hm : u.modules.lookup first with
    | none =>
      rw [hm] at h
      cases h
    | some entry =>
      rw [hm] at h
      cases entry with
      | failing e' => cases h
      | present m => exact ih h

/-- The modules around a name are those around its front, and then the name itself. -/
theorem enclosing_append (name : Text) (hpart : CodePoint.ofChar '.' ∉ part) :
    enclosing (name ++ ('.' :: part : Text)) =
      enclosing name ++ [name ++ ('.' :: part : Text)] := by
  have hsingle : Text.splitOn '.' part = [part] := by
    have hjoined := Text.splitOn_join (List.cons_ne_nil part [])
      (List.forall_mem_singleton.2 hpart)
    rwa [Text.join_singleton] at hjoined
  have hfull := Text.join_splitOn '.' (name ++ ('.' :: part : Text))
  simp only [enclosing]
  rw [Text.splitOn_append, hsingle] at hfull ⊢
  rw [List.length_append, List.length_singleton, List.range_succ, List.map_append,
    List.map_singleton]
  refine congrArg₂ (· ++ ·) (List.map_congr_left fun i hi => ?_) (congrArg (fun t => [t]) ?_)
  · rw [List.take_append_of_le_length (List.mem_range.1 hi)]
  · rw [← List.length_singleton (a := part), ← List.length_append, List.take_length]
    exact hfull

/-- A name that loads, or is missing, is well-formed. -/
theorem wellFormed_of_load (h : (∃ m, u.load name = .ok m) ∨ u.Missing name) :
    name ≠ [] ∧ Text.startsWith "." name = false := by
  by_contra hbad
  have hload : u.load name = .error .emptyModule ∨ u.load name = .error (.noPackage name) := by
    rw [load]
    split
    · exact .inl rfl
    · rename_i hne
      rw [if_pos (by simpa [hne] using hbad)]
      exact .inr rfl
  rcases h with ⟨m, hm⟩ | ⟨n, p, hm, -⟩ <;> rcases hload with hload | hload <;>
    rw [hload] at hm <;> cases hm

/-- Below a well-formed name one more module is imported. -/
theorem load_append (hne : name ≠ []) (hdot : Text.startsWith "." name = false)
    (hpart : CodePoint.ofChar '.' ∉ part) :
    u.load (name ++ ('.' :: part : Text)) =
      u.loadChain none (enclosing name ++ [name ++ ('.' :: part : Text)]) := by
  have hdot' : Text.startsWith "." (name ++ ('.' :: part : Text)) = false := by
    obtain ⟨c, name, rfl⟩ := List.exists_cons_of_ne_nil hne
    exact hdot
  rw [load, if_neg (List.append_ne_nil_of_left_ne_nil hne _), hdot', if_neg Bool.false_ne_true,
    enclosing_append name hpart]

/-- What is missing stays missing below, and so is what stands below a module and is not listed. -/
theorem missing_append (hpart : CodePoint.ofChar '.' ∉ part)
    (hlisted : u.modules.lookup (name ++ ('.' :: part : Text)) = none)
    (h : (∃ m, u.load name = .ok m) ∨ u.Missing name) :
    u.Missing (name ++ ('.' :: part : Text)) := by
  obtain ⟨hne, hdot⟩ := wellFormed_of_load h
  have hload : u.load name = u.loadChain none (enclosing name) := by
    rw [load, if_neg hne, hdot, if_neg Bool.false_ne_true]
  have hbelow := load_append (u := u) hne hdot hpart
  rcases h with ⟨m, hm⟩ | ⟨n, p, hmissing, hprefix⟩
  · obtain ⟨p, hp⟩ := loadChain_append_of_ok hlisted (hload.symm.trans hm)
    exact ⟨_, p, hbelow.trans hp, List.isPrefixOf_iff_prefix.2 (List.prefix_refl _)⟩
  · have hchain := loadChain_append_of_error (enclosing_ne_nil name) (hload.symm.trans hmissing)
    refine ⟨n, p, hbelow.trans (hchain _), ?_⟩
    exact List.isPrefixOf_iff_prefix.2
      ((List.isPrefixOf_iff_prefix.1 hprefix).trans (List.prefix_append name _))

/-- No module has a dollar sign in its name. -/
def PlainlyNamed (u : Universe) : Prop :=
  ∀ name, CodePoint.ofChar '$' ∈ name → u.modules.lookup name = none

end Universe

namespace Resolver

variable {r : Resolver} {path home rest rest' : Text} {names : List Text} {gated : Bool}
  {found : Option HostType} {t : HostType}

/-- A path is named in the errors of its cuts alone. -/
theorem tryCut_path (h : r.tryCut path gated home names = .ok found) (path' : Text) :
    r.tryCut path' gated home names = .ok found := by
  rw [tryCut] at h ⊢
  split at h
  · split at h
    · rename_i hprefix
      rw [if_pos hprefix]
      exact h
    · cases h
  · split at h <;> cases h
  split at h
  · cases h
  rename_i hpublic
  rw [if_neg hpublic]
  split at h
  · exact h
  · split at h
    · cases h
    rename_i hunder
    rw [if_neg hunder]
    exact h
  · cases h

theorem tryCut_of_missing (h : r.world.Missing home) :
    r.tryCut path gated home names = .ok none := by
  obtain ⟨n, p, hload, hprefix⟩ := h
  rw [tryCut, hload]
  exact if_pos hprefix

theorem load_of_tryCut (h : r.tryCut path gated home names = .ok found) :
    (∃ m, r.world.load home = .ok m) ∨ r.world.Missing home := by
  rw [tryCut] at h
  split at h
  · rename_i n p hload
    split at h
    · rename_i hprefix
      exact .inr ⟨n, p, hload, hprefix⟩
    · cases h
  · split at h <;> cases h
  · rename_i m hload
    exact .inl ⟨m, hload⟩

/-- A path has the class that is found at one of its cuts. -/
theorem importType_of_foundAt {cut : Text × List Text} (h : r.FoundAt path cut t) :
    r.importType path true = .ok t := by
  obtain ⟨longer, shorter, hcuts, hlonger, hcut⟩ := h
  rw [importType, hcuts]
  clear hcuts
  induction longer with
  | nil =>
    rw [List.nil_append, tryCuts, hcut]
    rfl
  | cons c longer ih =>
    obtain ⟨hc, hlonger⟩ := List.forall_mem_cons.1 hlonger
    rw [List.cons_append, tryCuts, hc]
    exact ih hlonger

/-- Where a class is found with dots, no module is found behind a dollar sign. -/
theorem missing_of_dollared (hworld : r.world.PlainlyNamed)
    (hfound : r.FoundAt (home ++ ('.' :: rest : Text)) (home, pathNames rest) t)
    (hrest : Text.Dollared rest rest') {a b : Text} (hcut : rest' = a ++ ('.' :: b : Text))
    (hdollar : CodePoint.ofChar '$' ∈ a) : r.world.Missing (home ++ ('.' :: a : Text)) := by
  obtain ⟨hlonger, hhome⟩ := foundAt_iff.1 hfound
  induction hlen : a.length using Nat.strongRecOn generalizing a b with
  | ind len ih =>
    have hlisted : r.world.modules.lookup (home ++ ('.' :: a : Text)) = none :=
      hworld _ (List.mem_append_right _ (List.mem_cons_of_mem _ hdollar))
    by_cases hdot : CodePoint.ofChar '.' ∈ a
    · -- the module around it is missing already, or is one of those between the dots
      obtain ⟨front, part, rfl, hpart⟩ := Text.exists_append_of_mem hdot
      rw [List.append_assoc] at hcut
      have hfront : (∃ m, r.world.load (home ++ ('.' :: front : Text)) = .ok m) ∨
          r.world.Missing (home ++ ('.' :: front : Text)) := by
        by_cases hmem : CodePoint.ofChar '$' ∈ front
        · refine .inr (ih front.length ?_ hcut hmem rfl)
          rw [← hlen, List.length_append, List.length_cons]
          omega
        · obtain ⟨x, y, hxy, hx, -⟩ := (hcut ▸ hrest : Text.Dollared rest _).split
          rw [hx.eq_of_notMem hmem]
          exact load_of_tryCut (hlonger x y hxy)
      have hshape : home ++ ('.' :: (front ++ ('.' :: part : Text)) : Text) =
          home ++ ('.' :: front : Text) ++ ('.' :: part : Text) := by
        rw [List.append_assoc, List.cons_append]
      rw [hshape] at hlisted ⊢
      exact Universe.missing_append hpart hlisted hfront
    · exact Universe.missing_append hdot hlisted (load_of_tryCut hhome)

theorem FoundAt.dollared (hworld : r.world.PlainlyNamed)
    (hfound : r.FoundAt (home ++ ('.' :: rest : Text)) (home, pathNames rest) t)
    (hrest : Text.Dollared rest rest') :
    r.FoundAt (home ++ ('.' :: rest' : Text)) (home, pathNames rest') t := by
  obtain ⟨hlonger, hhome⟩ := foundAt_iff.1 hfound
  refine foundAt_iff.2 ⟨fun a' b' hcut => ?_, ?_⟩
  · by_cases hdollar : CodePoint.ofChar '$' ∈ a'
    · exact tryCut_of_missing (missing_of_dollared hworld hfound hrest hcut hdollar)
    · obtain ⟨a, b, hab, ha, hb⟩ := (hcut ▸ hrest : Text.Dollared rest _).split
      rw [ha.eq_of_notMem hdollar, pathNames_dollared hb]
      exact tryCut_path (hlonger a b hab) _
  · rw [pathNames_dollared hrest]
    exact tryCut_path hhome _

/-- **Dollar signs lead where dots lead.**  Behind the module in which the class of a name is found,
dots can be written as dollar signs: the name that results imports the same class. -/
theorem Imports.dollared {n : Text} {c : HostClass} (hworld : r.world.PlainlyNamed)
    (hn : r.Imports n c) :
    ∃ home rest m, n = home ++ ('.' :: rest : Text) ∧ r.world.load home = .ok m ∧
      ∀ rest', Text.Dollared rest rest' → r.Unbound (home ++ ('.' :: rest' : Text)) →
        r.isImportable (home ++ ('.' :: rest' : Text)) = true →
        r.Imports (home ++ ('.' :: rest' : Text))
          ⟨home ++ ('.' :: rest' : Text), c.hostType, c.members⟩ := by
  have hresolved := hn.found
  rw [resolveClass_allowing hn.unbound] at hresolved
  split at hresolved
  case isFalse => cases hresolved
  obtain ⟨t, ht, rfl⟩ := Result.map_eq_ok_iff.1 hresolved
  obtain ⟨⟨home, rest, m, -, rfl, hfound, hload, -⟩, -⟩ := leadsTo_of_importType ht
  refine ⟨home, rest, m, rfl, hload, fun rest' hrest hname hunder => ⟨hname, ?_⟩⟩
  rw [resolveClass_allowing hname, if_pos hunder,
    importType_of_foundAt (hfound.dollared hworld hrest)]
  simp only [Except.map, ofHostType]
  cases r.registry.forType t <;> rfl

end Resolver

end HostCall
