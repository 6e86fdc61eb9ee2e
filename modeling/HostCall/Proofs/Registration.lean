import HostCall.Proofs.MemberLookup
import Mathlib.Data.Finset.Dedup
import Mathlib.Data.Finset.Card
import Mathlib.Data.List.Lex

/-!
# A registry and its registrations

A registration writes to two tables that treat an older entry in opposite ways.  Under a name the
new entry takes the place of the old one; for a host type the old one stays.  Once a name or a type
comes twice the tables differ, so neither says what the other holds, and each is compared here with
the row of all registrations: `lookup_registerAll` reads the row from its end,
`forType_registerAll` from its beginning.

The names are those of the first table.  `nodup_keys_registerAll` says that none comes twice, and
`pairwise_sort_lt` that sorting such names puts them in strict order; `lt_iff_codes_lt` joins that
order to the one of lists of numbers.

Main statement, `newest_name_oldest_type`: what the tables, the names and their number are after any
row of registrations, and that no later one changes the members of a type that was bound before.
-/

namespace HostCall

/-! ## The order of texts -/

namespace Text

/-- The numbers of the code points. -/
def codes (t : Text) : List Nat := t.map CodePoint.val

theorem codes_injective : Function.Injective codes :=
  List.map_injective_iff.2 fun _ _ => CodePoint.ext_val

/-- Texts are in the order of their numbers, the first difference deciding. -/
theorem lt_iff_codes_lt (a b : Text) : lt a b = true ↔ codes a < codes b := by
  fun_induction lt a b with
  | case1 a => exact iff_of_false Bool.false_ne_true (List.not_lt_nil _)
  | case2 c b => exact iff_of_true rfl (List.nil_lt_cons _ _)
  | case3 c a d b ih =>
    have hcd : (c == d) = true ↔ c.val = d.val :=
      beq_iff_eq.trans ⟨congrArg CodePoint.val, CodePoint.ext_val⟩
    rw [Bool.or_eq_true, Bool.and_eq_true, decide_eq_true_iff, hcd, ih]
    exact List.cons_lt_cons_iff.symm

theorem not_lt_iff_codes_le (a b : Text) : (!lt b a) = true ↔ codes a ≤ codes b := by
  rw [Bool.not_eq_true', Bool.eq_false_iff, ne_eq, lt_iff_codes_lt]
  exact not_lt

theorem perm_sort (ts : List Text) : (sort ts).Perm ts := List.mergeSort_perm _ _

theorem pairwise_sort_le (ts : List Text) : (sort ts).Pairwise fun a b => codes a ≤ codes b := by
  have hsorted : (sort ts).Pairwise fun a b => (!lt b a) = true := by
    refine List.pairwise_mergeSort (fun a b c hab hbc => ?_) (fun a b => ?_) ts
    · rw [not_lt_iff_codes_le] at hab hbc ⊢
      exact le_trans hab hbc
    · rw [Bool.or_eq_true, not_lt_iff_codes_le, not_lt_iff_codes_le]
      exact le_total _ _
  exact hsorted.imp fun h => (not_lt_iff_codes_le _ _).1 h

/-- Texts without repetition are sorted strictly. -/
theorem pairwise_sort_lt {ts : List Text} (h : ts.Nodup) :
    (sort ts).Pairwise fun a b => codes a < codes b := by
  have hne : (sort ts).Nodup := (perm_sort ts).nodup_iff.2 h
  refine (pairwise_sort_le ts).imp₂ (fun a b hle hab => ?_) hne
  exact lt_of_le_of_ne hle fun heq => hab (codes_injective heq)

end Text

/-! ## Rows of registrations -/

/-- What a registration is given; without a class of members the host type holds them itself. -/
structure Registration where
  name : Text
  hostType : HostType
  members : Option HostType := none

namespace Registration

/-- The entry that a registration makes and returns. -/
def entry (c : Registration) : HostClass := ⟨c.name, c.hostType, c.members.getD c.hostType⟩

/-- The first registration of a row that has a property. -/
def IsFirst (p : Registration → Prop) (calls : List Registration) (c : Registration) : Prop :=
  p c ∧ ∃ before after, calls = before ++ c :: after ∧ ∀ c' ∈ before, ¬ p c'

/-- The last registration of a row that has a property. -/
def IsLast (p : Registration → Prop) (calls : List Registration) (c : Registration) : Prop :=
  p c ∧ ∃ before after, calls = before ++ c :: after ∧ ∀ c' ∈ after, ¬ p c'

variable {p : Registration → Prop} {calls : List Registration} {c : Registration}

theorem isLast_iff_isFirst_reverse : IsLast p calls c ↔ IsFirst p calls.reverse c := by
  refine and_congr_right fun _ => ⟨?_, ?_⟩
  · rintro ⟨before, after, rfl, hafter⟩
    refine ⟨after.reverse, before.reverse, by simp, fun c' hc' => hafter c' ?_⟩
    exact List.mem_reverse.1 hc'
  · rintro ⟨before, after, hsplit, hbefore⟩
    refine ⟨after.reverse, before.reverse, ?_, fun c' hc' => hbefore c' (List.mem_reverse.1 hc')⟩
    rw [← List.reverse_reverse calls, hsplit]
    simp

variable [DecidablePred p]

theorem find?_eq_some_iff_isFirst : calls.find? (fun c => p c) = some c ↔ IsFirst p calls c := by
  simp only [List.find?_eq_some_iff_append, IsFirst, decide_eq_true_iff, Bool.not_eq_true',
    decide_eq_false_iff_not]

theorem findRev?_eq_some_iff_isLast :
    calls.findRev? (fun c => p c) = some c ↔ IsLast p calls c := by
  rw [List.findRev?_eq_find?_reverse, find?_eq_some_iff_isFirst, isLast_iff_isFirst_reverse]

end Registration

namespace Registry

open Registration

/-- The registry after a row of registrations. -/
def registerAll (r : Registry) (calls : List Registration) : Registry :=
  calls.foldl (fun r c => (r.register c.name c.hostType c.members).2) r

/-- What a row of registrations makes of a fresh registry. -/
def registered (calls : List Registration) : Registry := registerAll {} calls

/-- A registration returns its entry, and adds it. -/
theorem register_entry (r : Registry) (c : Registration) :
    r.register c.name c.hostType c.members = (c.entry, r.add c.entry) := rfl

theorem registerAll_cons (r : Registry) (c : Registration) (calls : List Registration) :
    r.registerAll (c :: calls) = (r.add c.entry).registerAll calls := by
  rw [registerAll, List.foldl_cons, register_entry]
  rfl

theorem registered_append (calls more : List Registration) :
    registered (calls ++ more) = (registered calls).registerAll more := List.foldl_append

/-! ## The two tables -/

/-- Under a name stands the last entry of the row, or what stood there before. -/
theorem lookup_registerAll (r : Registry) (calls : List Registration) (name : Text) :
    (r.registerAll calls).lookup name =
      ((calls.findRev? fun c => c.name = name).map entry).or (r.lookup name) := by
  induction calls generalizing r with
  | nil => rfl
  | cons c calls ih =>
    rw [registerAll_cons, ih, lookup_add, List.findRev?]
    cases calls.findRev? fun c => c.name = name with
    -- A later entry of the name hides this one.
    | some later => rfl
    | none =>
      by_cases hname : c.name = name
      · simp [hname, entry]
      · have hne : ¬ name = c.name := fun h => hname h.symm
        simp [hname, hne, entry]

/-- For a host type stands what stood there before, or the first entry of the row. -/
theorem forType_registerAll (r : Registry) (calls : List Registration) (t : HostType) :
    (r.registerAll calls).forType t =
      (r.forType t).or ((calls.find? fun c => c.hostType = t).map entry) := by
  induction calls generalizing r with
  | nil => exact Option.or_none.symm
  | cons c calls ih =>
    rw [registerAll_cons, ih, forType_add, Option.or_assoc, List.find?_cons]
    by_cases htype : c.hostType = t
    · simp [htype, entry]
    · have hne : ¬ t = c.hostType := fun h => htype h.symm
      simp [htype, hne, entry]

/-- What is bound to a host type stays bound to it. -/
theorem forType_registerAll_of_bound {r : Registry} {t : HostType} {e : HostClass}
    (h : r.forType t = some e) (calls : List Registration) :
    (r.registerAll calls).forType t = some e := by
  rw [forType_registerAll, h, Option.some_or]

theorem lookup_registered (calls : List Registration) (name : Text) :
    (registered calls).lookup name = (calls.findRev? fun c => c.name = name).map entry :=
  (lookup_registerAll {} calls name).trans Option.or_none

theorem forType_registered (calls : List Registration) (t : HostType) :
    (registered calls).forType t = (calls.find? fun c => c.hostType = t).map entry :=
  (forType_registerAll {} calls t).trans Option.none_or

theorem lookup_registered_eq_some_iff {calls : List Registration} {name : Text} {e : HostClass} :
    (registered calls).lookup name = some e ↔
      ∃ c, IsLast (fun c => c.name = name) calls c ∧ c.entry = e := by
  rw [lookup_registered, Option.map_eq_some_iff]
  exact exists_congr fun c => and_congr_left fun _ => findRev?_eq_some_iff_isLast

theorem forType_registered_eq_some_iff {calls : List Registration} {t : HostType}
    {e : HostClass} :
    (registered calls).forType t = some e ↔
      ∃ c, IsFirst (fun c => c.hostType = t) calls c ∧ c.entry = e := by
  rw [forType_registered, Option.map_eq_some_iff]
  exact exists_congr fun c => and_congr_left fun _ => find?_eq_some_iff_isFirst

theorem lookup_registered_eq_none_iff {calls : List Registration} {name : Text} :
    (registered calls).lookup name = none ↔ ∀ c ∈ calls, c.name ≠ name := by
  rw [lookup_registered, Option.map_eq_none_iff, List.findRev?_eq_find?_reverse,
    List.find?_eq_none]
  simp only [List.mem_reverse, decide_eq_true_iff, ne_eq]

theorem forType_registered_eq_none_iff {calls : List Registration} {t : HostType} :
    (registered calls).forType t = none ↔ ∀ c ∈ calls, c.hostType ≠ t := by
  rw [forType_registered, Option.map_eq_none_iff, List.find?_eq_none]
  simp only [decide_eq_true_iff, ne_eq]

/-! ## The names -/

/-- The names in the order in which they first came. -/
def keys (r : Registry) : List Text := r.byName.map Prod.fst

/-- A key that is new comes to the end. -/
theorem map_fst_put {κ ν : Type} [BEq κ] [LawfulBEq κ] (key : κ) (value : ν)
    (l : List (κ × ν)) :
    (put key value l).map Prod.fst =
      if key ∈ l.map Prod.fst then l.map Prod.fst else l.map Prod.fst ++ [key] := by
  induction l with
  | nil => rfl
  | cons item rest ih =>
    obtain ⟨k, v⟩ := item
    unfold put
    by_cases hk : key = k
    · simp [hk]
    · have hbeq : (key == k) = false := beq_eq_false_iff_ne.2 hk
      by_cases hrest : key ∈ rest.map Prod.fst
      · rw [if_pos hrest] at ih
        simp [hbeq, ih, hrest]
      · rw [if_neg hrest] at ih
        simp [hbeq, ih, hk, hrest]

theorem nodup_keys_add {r : Registry} (h : r.keys.Nodup) (e : HostClass) :
    (r.add e).keys.Nodup := by
  rw [keys, add, map_fst_put]
  split
  · exact h
  · next hnew =>
    rw [← List.concat_eq_append]
    exact h.concat hnew

theorem nodup_keys_registerAll {r : Registry} (h : r.keys.Nodup) (calls : List Registration) :
    (r.registerAll calls).keys.Nodup := by
  induction calls generalizing r with
  | nil => exact h
  | cons c calls ih => exact ih (nodup_keys_add h c.entry)

/-- The names are those that have an entry. -/
theorem mem_names_iff {r : Registry} {name : Text} : name ∈ r.names ↔ r.lookup name ≠ none := by
  rw [names, (Text.perm_sort _).mem_iff, List.mem_map, lookup, ne_eq, List.lookup_eq_none_iff]
  simp

theorem length_names (r : Registry) : r.names.length = r.size := by
  rw [names, (Text.perm_sort _).length_eq, List.length_map, size]

theorem pairwise_names (calls : List Registration) :
    (registered calls).names.Pairwise fun a b => a.codes < b.codes :=
  Text.pairwise_sort_lt (nodup_keys_registerAll (r := {}) List.nodup_nil calls)

theorem mem_names_registered {calls : List Registration} {name : Text} :
    name ∈ (registered calls).names ↔ ∃ c ∈ calls, c.name = name := by
  rw [mem_names_iff, ne_eq, lookup_registered_eq_none_iff]
  simp

/-- A registry has as many names as were registered, however often. -/
theorem size_registered (calls : List Registration) :
    (registered calls).size = (calls.map Registration.name).toFinset.card := by
  have hnodup : (registered calls).names.Nodup :=
    (pairwise_names calls).imp fun h heq => (ne_of_lt h) (congrArg Text.codes heq)
  have hnames : (calls.map Registration.name).toFinset = (registered calls).names.toFinset := by
    ext name
    rw [List.mem_toFinset, List.mem_toFinset, mem_names_registered, List.mem_map]
  rw [hnames, List.toFinset_card_of_nodup hnodup, length_names]

/-! ## Who serves a receiver -/

/-- Registrations of other types, and of types that are bound, leave a type as it is. -/
theorem forType_registerAll_congr {r : Registry} {more : List Registration} {t : HostType}
    (h : ∀ c ∈ more, c.hostType = t → r.forType t ≠ none) :
    (r.registerAll more).forType t = r.forType t := by
  cases hbound : r.forType t with
  | some e => exact forType_registerAll_of_bound hbound more
  | none =>
    rw [forType_registerAll, hbound, Option.none_or, Option.map_eq_none_iff, List.find?_eq_none]
    intro c hc htype
    exact h c hc (of_decide_eq_true htype) hbound

end Registry

namespace Resolver

theorem namespaceOf_congr {r r' : Resolver} {t : HostType}
    (h : r'.registry.forType t = r.registry.forType t) : r'.namespaceOf t = r.namespaceOf t := by
  rw [namespaceOf, namespaceOf, h]

theorem membersChain_congr {r r' : Resolver} {t : HostType} (hworld : r'.world = r.world)
    (h : ∀ k ∈ r.world.lineage t, r'.registry.forType k = r.registry.forType k) :
    r'.membersChain t = r.membersChain t := by
  have hspaces : (r.world.lineage t).map r'.namespaceOf = (r.world.lineage t).map r.namespaceOf :=
    List.map_congr_left fun k hk => namespaceOf_congr (h k hk)
  rw [membersChain, membersChain, hworld, hspaces]

theorem instanceMember?_congr {r r' : Resolver} {t : HostType} (hworld : r'.world = r.world)
    (h : r'.membersChain t = r.membersChain t) (owner : HostClass) (name : Text) :
    r'.instanceMember? owner name t = r.instanceMember? owner name t := by
  rw [instanceMember?, instanceMember?, hworld, h]

/-- What the class bound to a type holds itself serves the receivers of the type. -/
theorem instanceMember?_of_holds {r : Resolver} {t : HostType} {e : HostClass} {name : Text}
    {m : Member} (hbound : r.registry.forType t = some e) (hm : r.world.Holds e.members name m)
    (owner : HostClass) : r.instanceMember? owner name t = some (e.members, m) := by
  have hheld : r.heldIn name e.members = some (e.members, m) := heldIn_eq_some_iff.2 ⟨rfl, hm⟩
  rw [instanceMember?_of_bound hbound, hheld, Option.some_or]

end Resolver

namespace Registry

open Registration

/-- **The newest entry stands under a name, the oldest one for a type.**  After any row of
registrations on a fresh registry a name has the entry of the last one of that name, and a host type
the entry of the first one of that type; the names are in strict order, and there are as many as
different ones were registered.  So whatever is registered after that, of new names or of old ones,
a bound type keeps its entry, and the search for a member of its receivers begins in the same class
and finds what that class holds.  The whole search stays as it is unless a class of the receiver's
lineage that was free is bound. -/
theorem newest_name_oldest_type (calls : List Registration) :
    let r := registered calls
    (∀ name e, r.lookup name = some e ↔
      ∃ c, IsLast (fun c => c.name = name) calls c ∧ c.entry = e) ∧
    (∀ name, r.lookup name = none ↔ ∀ c ∈ calls, c.name ≠ name) ∧
    (∀ t e, r.forType t = some e ↔
      ∃ c, IsFirst (fun c => c.hostType = t) calls c ∧ c.entry = e) ∧
    (∀ t, r.forType t = none ↔ ∀ c ∈ calls, c.hostType ≠ t) ∧
    (r.names.Pairwise fun a b => a.codes < b.codes) ∧
    (∀ name, name ∈ r.names ↔ ∃ c ∈ calls, c.name = name) ∧
    r.size = (calls.map Registration.name).toFinset.card ∧
    ∀ (more : List Registration) (world : Universe) (settings : Settings),
      let before : Resolver := ⟨world, r, settings⟩
      let after : Resolver := ⟨world, registered (calls ++ more), settings⟩
      (∀ t e, r.forType t = some e →
        after.registry.forType t = some e ∧ (after.membersChain t).head? = some e.members ∧
        ∀ owner name m, world.Holds e.members name m →
          after.instanceMember? owner name t = some (e.members, m)) ∧
      ∀ t, (∀ c ∈ more, c.hostType ∈ world.lineage t → r.forType c.hostType ≠ none) →
        after.membersChain t = before.membersChain t ∧
        ∀ owner name, after.instanceMember? owner name t = before.instanceMember? owner name t := by
  intro r
  refine ⟨fun _ _ => lookup_registered_eq_some_iff, fun _ => lookup_registered_eq_none_iff,
    fun _ _ => forType_registered_eq_some_iff, fun _ => forType_registered_eq_none_iff,
    pairwise_names calls, fun _ => mem_names_registered, size_registered calls, ?_⟩
  intro more world settings before after
  have hafter : after.registry = r.registerAll more := registered_append calls more
  refine ⟨fun t e hbound => ?_, fun t hfree => ?_⟩
  · have hstill : after.registry.forType t = some e := by
      rw [hafter]
      exact forType_registerAll_of_bound hbound more
    refine ⟨hstill, ?_, fun owner name m hm => after.instanceMember?_of_holds hstill hm owner⟩
    rw [Resolver.head?_membersChain, Resolver.namespaceOf_of_bound hstill]
  · have hsame : ∀ k ∈ world.lineage t, after.registry.forType k = before.registry.forType k := by
      intro k hk
      rw [hafter]
      refine forType_registerAll_congr fun c hc htype => ?_
      rw [← htype] at hk ⊢
      exact hfree c hc hk
    have hchain : after.membersChain t = before.membersChain t :=
      Resolver.membersChain_congr rfl hsame
    exact ⟨hchain, Resolver.instanceMember?_congr rfl hchain⟩

/-- A name is registered twice more, for the same type with another class of members and for another
type: it has the newest entry, and receivers of the first type are served as before. -/
theorem rebound_name_keeps_members :
    let foo : HostType := .declared Samples.foo
    let derived : HostType := .declared Samples.derived
    let calls : List Registration := [⟨"z.Z", foo, some derived⟩]
    let more : List Registration :=
      [⟨"z.Z", foo, some (.declared Samples.base)⟩, ⟨"z.Z", .list, none⟩]
    let before : Resolver := ⟨.standard, registered calls, {}⟩
    let after : Resolver := ⟨.standard, registered (calls ++ more), {}⟩
    before.registry.forType foo = some ⟨"z.Z", foo, derived⟩ ∧
      after.registry.lookup "z.Z" = some ⟨"z.Z", .list, .list⟩ ∧
      (∃ m, after.instanceMember? ⟨"z.Z", .list, .list⟩ "who" foo = some (derived, m)) ∧
      after.membersChain foo = before.membersChain foo := by
  intro foo derived calls more before after
  have hbound : before.registry.forType foo = some ⟨"z.Z", foo, derived⟩ := by decide
  have hholds : after.world.Holds derived "who"
      (.method (Samples.sayer "Derived.who" "derived")) := ⟨rfl, by simp⟩
  have hfree : ∀ c ∈ more, c.hostType ∈ after.world.lineage foo →
      before.registry.forType c.hostType ≠ none := by decide
  obtain ⟨-, -, -, -, -, -, -, hmore⟩ := newest_name_oldest_type calls
  obtain ⟨hserved, hchain⟩ := hmore more .standard {}
  exact ⟨hbound, by decide, ⟨_, (hserved foo _ hbound).2.2 _ _ _ hholds⟩, (hchain foo hfree).1⟩

end Registry

end HostCall
