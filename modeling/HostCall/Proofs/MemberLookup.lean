import HostCall.Invoke
import HostCall.Library.Standard

/-!
# Members of instances

A member of an instance is looked for along the lineage of its type, in the namespace of each class:
the class of members bound to it, or the class itself.  Classes may share a namespace, and
`membersChain` goes to each of them once.  `Holds` says that a namespace has a member of its own
under a name, and the search is the plain one for the first class whose namespace does: passing over
a namespace that was seen before passes over nothing that was not looked at (`findSome?_firsts`).

Main statements, `virtual_follows_lineage`: the search along a lineage, and the declared owner
behind it; and `virtual_agrees_iff`: for a type that is bound to a class of members, the search sees
what that class holds itself and nothing that it inherits, where a static lookup sees both.
-/

namespace HostCall

/-- A class has a member of its own under the name; one that is bound to null does not count. -/
def Universe.Holds (u : Universe) (t : HostType) (name : Text) (m : Member) : Prop :=
  u.ownBinding? t name = some m ∧ m ≠ .constant .null

namespace Universe

variable {u : Universe} {t : HostType} {name : Text} {m : Member}

theorem ownMember?_eq_some_iff : u.ownMember? t name = some m ↔ u.Holds t name m := by
  rw [Holds, ownBinding?, ownMember?]
  split
  · rename_i hnull
    rw [hnull]
    refine iff_of_false (by simp) ?_
    rintro ⟨h, hne⟩
    exact hne (Option.some.inj h).symm
  · rename_i hne
    constructor
    · intro h
      refine ⟨h, ?_⟩
      rintro rfl
      exact hne h
    · exact And.left

theorem ownMember?_eq_none_iff : u.ownMember? t name = none ↔ ∀ m, ¬ u.Holds t name m := by
  simp only [← ownMember?_eq_some_iff, Option.eq_none_iff_forall_ne_some, ne_eq]

/-- What a class holds itself is what is found in it and its bases. -/
theorem Holds.member? (h : u.Holds t name m) : u.member? t name = some m := by
  obtain ⟨hown, hne⟩ := h
  obtain ⟨bases, hlineage⟩ := List.head?_eq_some_iff.1 (u.head?_lineage t)
  have hbinding : u.binding? t name = some m := by
    rw [binding?, hlineage, List.findSome?_cons, hown]
  rw [Universe.member?, hbinding]
  split
  · rename_i hnull
    exact absurd (Option.some.inj hnull) hne
  · rfl

end Universe

namespace Resolver

/-! ## Namespaces without repetition -/

theorem mem_firsts_iff {seen l : List HostType} {t : HostType} :
    t ∈ firsts seen l ↔ t ∈ l ∧ t ∉ seen := by
  induction l generalizing seen with
  | nil => simp [firsts]
  | cons s l ih =>
    by_cases hs : s ∈ seen
    · rw [firsts, if_pos hs, ih, List.mem_cons]
      constructor
      · rintro ⟨hl, hseen⟩
        exact ⟨.inr hl, hseen⟩
      · rintro ⟨rfl | hl, hseen⟩
        · exact absurd hs hseen
        · exact ⟨hl, hseen⟩
    · rw [firsts, if_neg hs, List.mem_cons, ih, List.mem_cons, List.mem_cons]
      constructor
      · rintro (rfl | ⟨hl, hseen⟩)
        · exact ⟨.inl rfl, hs⟩
        · exact ⟨.inr hl, fun h => hseen (.inr h)⟩
      · rintro ⟨rfl | hl, hseen⟩
        · exact .inl rfl
        · by_cases heq : t = s
          · exact .inl heq
          · exact .inr ⟨hl, fun h => h.elim heq hseen⟩

theorem nodup_firsts (seen l : List HostType) : (firsts seen l).Nodup := by
  induction l generalizing seen with
  | nil => exact List.nodup_nil
  | cons s l ih =>
    by_cases hs : s ∈ seen
    · rw [firsts, if_pos hs]
      exact ih seen
    · rw [firsts, if_neg hs]
      refine List.nodup_cons.2 ⟨fun h => ?_, ih _⟩
      exact (mem_firsts_iff.1 h).2 List.mem_cons_self

/-- Where nothing was found in what was seen, passing over it changes nothing. -/
theorem findSome?_firsts {β : Type} {f : HostType → Option β} {seen : List HostType}
    (hseen : ∀ t ∈ seen, f t = none) (l : List HostType) :
    (firsts seen l).findSome? f = l.findSome? f := by
  induction l generalizing seen with
  | nil => rfl
  | cons s l ih =>
    by_cases hs : s ∈ seen
    · rw [firsts, if_pos hs, ih hseen, List.findSome?_cons, hseen s hs]
    · rw [firsts, if_neg hs, List.findSome?_cons, List.findSome?_cons]
      cases hf : f s with
      | some b => rfl
      | none =>
        refine ih fun t ht => ?_
        rcases List.mem_cons.1 ht with rfl | ht
        · exact hf
        · exact hseen t ht

/-! ## The search along a lineage -/

variable {r : Resolver} {owner : HostClass} {name : Text} {t : HostType}

/-- The member that a namespace holds itself, with the namespace. -/
def heldIn (r : Resolver) (name : Text) (space : HostType) : Option (HostType × Member) :=
  (r.world.ownMember? space name).map fun m => (space, m)

/-- What is found in the first class of a list whose namespace holds the name, and else in the
declared owner and its bases. -/
def search (r : Resolver) (owner : HostClass) (name : Text) (classes : List HostType) :
    Option (HostType × Member) :=
  (classes.findSome? fun k => r.heldIn name (r.namespaceOf k)).or
    ((r.world.member? owner.members name).map fun m => (owner.members, m))

theorem heldIn_eq_some_iff {space space' : HostType} {m : Member} :
    r.heldIn name space' = some (space, m) ↔ space' = space ∧ r.world.Holds space name m := by
  rw [heldIn, Option.map_eq_some_iff]
  constructor
  · rintro ⟨_, hm, heq⟩
    cases heq
    exact ⟨rfl, Universe.ownMember?_eq_some_iff.1 hm⟩
  · rintro ⟨rfl, hm⟩
    exact ⟨m, Universe.ownMember?_eq_some_iff.2 hm, rfl⟩

theorem heldIn_eq_none_iff {space : HostType} :
    r.heldIn name space = none ↔ ∀ m, ¬ r.world.Holds space name m := by
  rw [heldIn, Option.map_eq_none_iff, Universe.ownMember?_eq_none_iff]

/-- The members found along the chain of namespaces are those found along the lineage. -/
theorem findSome?_membersChain {β : Type} (f : HostType → Option β) (t : HostType) :
    (r.membersChain t).findSome? f =
      (r.world.lineage t).findSome? fun k => f (r.namespaceOf k) := by
  rw [membersChain, findSome?_firsts (by simp), List.findSome?_map]
  rfl

theorem instanceMember?_eq_search :
    r.instanceMember? owner name t = r.search owner name (r.world.lineage t) := by
  have hchain := r.findSome?_membersChain (r.heldIn name) t
  rw [instanceMember?, search, ← hchain]
  unfold heldIn
  cases (r.membersChain t).findSome? fun s => (r.world.ownMember? s name).map fun m => (s, m)
    <;> rfl

theorem mem_membersChain_iff {space : HostType} :
    space ∈ r.membersChain t ↔ ∃ k ∈ r.world.lineage t, r.namespaceOf k = space := by
  rw [membersChain, mem_firsts_iff, List.mem_map]
  exact and_iff_left List.not_mem_nil

theorem head?_membersChain (r : Resolver) (t : HostType) :
    (r.membersChain t).head? = some (r.namespaceOf t) := by
  obtain ⟨bases, hlineage⟩ := List.head?_eq_some_iff.1 (r.world.head?_lineage t)
  rw [membersChain, hlineage, List.map_cons, firsts, if_neg List.not_mem_nil]
  rfl

theorem search_eq_some_iff {classes : List HostType} {space : HostType} {m : Member} :
    r.search owner name classes = some (space, m) ↔
      (∃ before k after, classes = before ++ k :: after ∧ r.namespaceOf k = space ∧
        r.world.Holds space name m ∧
        ∀ k' ∈ before, ∀ m', ¬ r.world.Holds (r.namespaceOf k') name m') ∨
      (∀ k ∈ classes, ∀ m', ¬ r.world.Holds (r.namespaceOf k) name m') ∧
        owner.members = space ∧ r.world.member? space name = some m := by
  rw [search, Option.or_eq_some_iff, List.findSome?_eq_some_iff, List.findSome?_eq_none_iff]
  simp only [heldIn_eq_some_iff, heldIn_eq_none_iff, Option.map_eq_some_iff, Prod.mk.injEq]
  refine or_congr ?_ (and_congr_right fun _ => ?_)
  · constructor
    · rintro ⟨before, k, after, hsplit, ⟨hspace, hm⟩, hbefore⟩
      exact ⟨before, k, after, hsplit, hspace, hm, hbefore⟩
    · rintro ⟨before, k, after, hsplit, hspace, hm, hbefore⟩
      exact ⟨before, k, after, hsplit, ⟨hspace, hm⟩, hbefore⟩
  · constructor
    · rintro ⟨_, hm, rfl, rfl⟩
      exact ⟨rfl, hm⟩
    · rintro ⟨rfl, hm⟩
      exact ⟨m, hm, rfl, rfl⟩

/-- **A member of an instance is that of the first class in its lineage that has one.**  Where none
has one, it is what a static lookup in the declared owner finds.  The chain of namespaces begins
with that of the type, has each of them once, and finds what the lineage itself does. -/
theorem virtual_follows_lineage (r : Resolver) (t : HostType) :
    (∀ (owner : HostClass) (name : Text) (space : HostType) (m : Member),
      r.instanceMember? owner name t = some (space, m) ↔
        (∃ before k after, r.world.lineage t = before ++ k :: after ∧ r.namespaceOf k = space ∧
          r.world.Holds space name m ∧
          ∀ k' ∈ before, ∀ m', ¬ r.world.Holds (r.namespaceOf k') name m') ∨
        (∀ k ∈ r.world.lineage t, ∀ m', ¬ r.world.Holds (r.namespaceOf k) name m') ∧
          owner.members = space ∧ r.world.member? space name = some m) ∧
    (r.membersChain t).Nodup ∧ (r.membersChain t).head? = some (r.namespaceOf t) ∧
    (∀ space, space ∈ r.membersChain t ↔ ∃ k ∈ r.world.lineage t, r.namespaceOf k = space) ∧
    ∀ name, (r.membersChain t).findSome? (r.heldIn name) =
      (r.world.lineage t).findSome? fun k => r.heldIn name (r.namespaceOf k) := by
  refine ⟨fun owner name space m => ?_, nodup_firsts _ _, r.head?_membersChain t,
    fun space => r.mem_membersChain_iff, fun name => r.findSome?_membersChain (r.heldIn name) t⟩
  rw [instanceMember?_eq_search, search_eq_some_iff]

/-! ## Bound types -/

theorem search_cons {k : HostType} {classes : List HostType} :
    r.search owner name (k :: classes) =
      (r.heldIn name (r.namespaceOf k)).or (r.search owner name classes) := by
  rw [search, search, List.findSome?_cons]
  cases r.heldIn name (r.namespaceOf k) <;> rfl

theorem namespaceOf_of_bound {e : HostClass} (hbound : r.registry.forType t = some e) :
    r.namespaceOf t = e.members := by
  rw [namespaceOf, hbound]

/-- The search begins in the class that is bound to the type. -/
theorem instanceMember?_of_bound {e : HostClass} (hbound : r.registry.forType t = some e) :
    r.instanceMember? owner name t =
      (r.heldIn name e.members).or (r.search owner name (r.world.lineage t).tail) := by
  obtain ⟨bases, hlineage⟩ := List.head?_eq_some_iff.1 (r.world.head?_lineage t)
  rw [instanceMember?_eq_search, hlineage, search_cons, namespaceOf_of_bound hbound,
    List.tail_cons]

/-- A search through classes of which one holds the name ends in such a class. -/
theorem exists_search_eq_some {classes : List HostType} {k : HostType} {m : Member}
    (hk : k ∈ classes) (hm : r.world.Holds (r.namespaceOf k) name m) :
    ∃ k' ∈ classes, ∃ m', r.world.Holds (r.namespaceOf k') name m' ∧
      r.search owner name classes = some (r.namespaceOf k', m') := by
  cases hfound : classes.findSome? fun k => r.heldIn name (r.namespaceOf k) with
  | none =>
    have hnone := List.findSome?_eq_none_iff.1 hfound k hk
    exact absurd hm (heldIn_eq_none_iff.1 hnone m)
  | some found =>
    obtain ⟨space, m'⟩ := found
    obtain ⟨k', hk', hheld⟩ := List.exists_of_findSome?_eq_some hfound
    obtain ⟨rfl, hm'⟩ := heldIn_eq_some_iff.1 hheld
    refine ⟨k', hk', m', hm', ?_⟩
    rw [search, hfound, Option.some_or]

/-- **An instance of a bound type has what the class bound to it holds itself.**  What that class
only inherits is not seen: the search goes on to the bases of the type, and a member of the class
bound to `object` comes before it. -/
theorem virtual_agrees_iff (r : Resolver) {t : HostType} {e : HostClass}
    (hbound : r.registry.forType t = some e) (owner : HostClass) (name : Text) :
    ((r.instanceMember? owner name t).map Prod.snd = r.world.member? e.members name ↔
      (∃ m, r.world.Holds e.members name m) ∨
        (r.search owner name (r.world.lineage t).tail).map Prod.snd =
          r.world.member? e.members name) ∧
    (∀ m, r.world.Holds e.members name m →
      r.instanceMember? owner name t = some (e.members, m) ∧
        r.world.member? e.members name = some m) ∧
    ((∀ m, ¬ r.world.Holds e.members name m) →
      r.instanceMember? owner name t = r.search owner name (r.world.lineage t).tail ∧
      ∀ o m, r.registry.forType .object = some o → .object ∈ (r.world.lineage t).tail →
        r.world.Holds o.members name m →
          ∃ k ∈ (r.world.lineage t).tail, ∃ m', r.world.Holds (r.namespaceOf k) name m' ∧
            r.instanceMember? owner name t = some (r.namespaceOf k, m')) := by
  have hown : ∀ m, r.world.Holds e.members name m →
      r.instanceMember? owner name t = some (e.members, m) ∧
        r.world.member? e.members name = some m := by
    intro m hm
    have hheld : r.heldIn name e.members = some (e.members, m) := heldIn_eq_some_iff.2 ⟨rfl, hm⟩
    refine ⟨?_, hm.member?⟩
    rw [instanceMember?_of_bound hbound, hheld, Option.some_or]
  have hpassed : (∀ m, ¬ r.world.Holds e.members name m) →
      r.instanceMember? owner name t = r.search owner name (r.world.lineage t).tail := by
    intro hnone
    rw [instanceMember?_of_bound hbound, heldIn_eq_none_iff.2 hnone, Option.none_or]
  refine ⟨?_, hown, fun hnone => ⟨hpassed hnone, fun o m hobject hbase hm => ?_⟩⟩
  · by_cases hholds : ∃ m, r.world.Holds e.members name m
    · obtain ⟨m, hm⟩ := hholds
      obtain ⟨hvirtual, hstatic⟩ := hown m hm
      refine iff_of_true ?_ (.inl ⟨m, hm⟩)
      rw [hvirtual, hstatic, Option.map_some]
    · rw [or_iff_right hholds, hpassed (not_exists.1 hholds)]
  · have hspace : r.namespaceOf .object = o.members := by rw [namespaceOf, hobject]
    rw [hpassed hnone]
    exact exists_search_eq_some hbase (hspace ▸ hm)

/-- Both lookups find a method of the bound class itself. -/
theorem virtual_agrees_own :
    let bound := (({} : Registry).register "java.lang.Object" .object
      (some (Library.lang "JavaObject"))).2
    let r : Resolver := ⟨.standard, (bound.register "z.Z" (.declared Samples.foo)
      (some (.declared Samples.derived))).2, {}⟩
    let object : HostClass := ⟨"java.lang.Object", .object, Library.lang "JavaObject"⟩
    r.registry.forType (.declared Samples.foo) =
        some ⟨"z.Z", .declared Samples.foo, .declared Samples.derived⟩ ∧
      ∃ m, r.instanceMember? object "who" (.declared Samples.foo) =
          some (.declared Samples.derived, m) ∧
        r.world.member? (.declared Samples.derived) "who" = some m := by
  intro bound r object
  have hbound : r.registry.forType (.declared Samples.foo) =
      some ⟨"z.Z", .declared Samples.foo, .declared Samples.derived⟩ := by decide
  have hown : r.world.Holds (.declared Samples.derived) "who"
      (.method (Samples.sayer "Derived.who" "derived")) := ⟨rfl, by simp⟩
  exact ⟨hbound, _, (virtual_agrees_iff r hbound object "who").2.1 _ hown⟩

/-- A method that the bound class inherits is found by the static lookup alone: its base is not
among the namespaces of the receiver. -/
theorem virtual_passes_inherited :
    let bound := (({} : Registry).register "java.lang.Object" .object
      (some (Library.lang "JavaObject"))).2
    let r : Resolver := ⟨.standard, (bound.register "z.Z" (.declared Samples.foo)
      (some (.declared Samples.derived))).2, {}⟩
    let object : HostClass := ⟨"java.lang.Object", .object, Library.lang "JavaObject"⟩
    r.registry.forType .object = some object ∧
      r.registry.forType (.declared Samples.foo) =
        some ⟨"z.Z", .declared Samples.foo, .declared Samples.derived⟩ ∧
      (r.world.member? (.declared Samples.derived) "total").isSome ∧
      r.membersChain (.declared Samples.foo) =
        [.declared Samples.derived, Library.lang "JavaObject"] ∧
      (r.instanceMember? object "total" (.declared Samples.foo)).isNone := by
  intro bound r object
  refine ⟨by decide, by decide, rfl, by decide, rfl⟩

end Resolver

end HostCall
