import HostCall.Proofs.CheapestVariant
import Mathlib.Data.List.Forall2
import Mathlib.Logic.Relation

/-!
# The most specific variant

Kinds widen along two chains that meet at `int`.  To say that one variant is more specific than
another is to say that its kinds widen to those of the other, place by place; this is a partial
order, and selection knows nothing of it: it adds up costs.  `Kind.rank` joins the two.  A widening
costs the difference of the ranks (`conversionCost_kinds`), so passing arguments to a variant costs
the difference of the sums (`takes_kinds_iff`), and a variant that widens to another one has the
lower sum, unless both have the same kinds (`Kind.eq_or_rankSum_lt`).

Main statement, `select_most_specific`: among variants for primitive kinds the most specific of
those that the arguments widen to is selected, where there is one, and where the arguments widen to
none the method is not found.
-/

namespace HostCall

open Result

namespace Kind

/-! ## Widening and ranks -/

/-- One step of widening. -/
inductive Step : Kind → Kind → Prop
  | byte : Step .byte .short
  | short : Step .short .int
  | char : Step .char .int
  | int : Step .int .long
  | long : Step .long .float
  | float : Step .float .double

/-- Equal kinds, or steps of widening from one to the other. -/
abbrev WidensTo : Kind → Kind → Prop := Relation.ReflTransGen Step

/-- Steps of widening from the beginning of the chain. -/
def rank : Kind → Nat
  | .boolean | .byte => 0
  | .short | .char => 1
  | .int => 2
  | .long => 3
  | .float => 4
  | .double => 5

variable {k l : Kind}

theorem Step.rank_eq (h : Step k l) : l.rank = k.rank + 1 := by
  cases h <;> rfl

/-- A kind widens to the next one, and on from there. -/
theorem Step.widenings_eq (h : Step k l) : k.widenings = l :: l.widenings := by
  cases h <;> rfl

theorem exists_step_of_widenings {ls : List Kind} (h : k.widenings = l :: ls) :
    Step k l ∧ ls = l.widenings := by
  have hstep : k.widenings = [] ∨ ∃ m, Step k m := by
    cases k with
    | boolean => exact .inl rfl
    | double => exact .inl rfl
    | byte => exact .inr ⟨_, .byte⟩
    | short => exact .inr ⟨_, .short⟩
    | char => exact .inr ⟨_, .char⟩
    | int => exact .inr ⟨_, .int⟩
    | long => exact .inr ⟨_, .long⟩
    | float => exact .inr ⟨_, .float⟩
  obtain hnil | ⟨m, hm⟩ := hstep
  · rw [hnil] at h
    cases h
  · rw [hm.widenings_eq] at h
    obtain ⟨rfl, rfl⟩ := List.cons.inj h
    exact ⟨hm, rfl⟩

/-- The table of widenings holds what steps lead to, each at its distance. -/
theorem exists_idxOf?_of_mem (h : l ∈ k.widenings) :
    ∃ i, k.widenings.idxOf? l = some i ∧ l.rank = k.rank + (i + 1) ∧ k.WidensTo l := by
  induction hw : k.widenings generalizing k with
  | nil =>
    rw [hw] at h
    cases h
  | cons m ms ih =>
    obtain ⟨hstep, rfl⟩ := exists_step_of_widenings hw
    rw [hw] at h
    rw [List.idxOf?_cons]
    by_cases hm : m = l
    · subst hm
      exact ⟨0, if_pos (beq_self_eq_true m), hstep.rank_eq, .single hstep⟩
    · have hl : l ∈ m.widenings := (List.mem_cons.1 h).resolve_left (Ne.symm hm)
      obtain ⟨i, hi, hrank, hwidens⟩ := ih hl rfl
      refine ⟨i + 1, ?_, ?_, .head hstep hwidens⟩
      · rw [if_neg (by simpa using hm), hi]
        rfl
      · rw [hrank, hstep.rank_eq]
        omega

/-- Steps of widening lead to what the table holds. -/
theorem widensTo_iff : k.WidensTo l ↔ k = l ∨ l ∈ k.widenings := by
  constructor
  · intro h
    induction h using Relation.ReflTransGen.head_induction_on with
    | refl => exact .inl rfl
    | head hstep _ ih =>
      rw [hstep.widenings_eq]
      rcases ih with rfl | hl
      · exact .inr List.mem_cons_self
      · exact .inr (List.mem_cons_of_mem _ hl)
  · rintro (rfl | hl)
    · exact .refl
    · obtain ⟨-, -, -, hwidens⟩ := exists_idxOf?_of_mem hl
      exact hwidens

instance : DecidableRel WidensTo := fun _ _ => decidable_of_iff _ widensTo_iff.symm

theorem eq_or_rank_lt (h : k.WidensTo l) : k = l ∨ k.rank < l.rank := by
  rcases widensTo_iff.1 h with heq | hl
  · exact .inl heq
  · obtain ⟨i, -, hrank, -⟩ := exists_idxOf?_of_mem hl
    omega

theorem rank_le (h : k.WidensTo l) : k.rank ≤ l.rank := by
  rcases eq_or_rank_lt h with rfl | hlt
  · exact Nat.le_refl _
  · exact Nat.le_of_lt hlt

/-! ## Kinds place by place -/

/-- The descriptors of parameters of primitive kinds. -/
def descriptors (ks : List Kind) : List Text := ks.map fun k => [k.letter]

def rankSum (ks : List Kind) : Nat := (ks.map rank).sum

theorem descriptors_injective {ks ls : List Kind} (h : descriptors ks = descriptors ls) :
    ks = ls := by
  refine List.map_injective_iff.2 (fun k l hkl => ?_) h
  have hkind := congrArg ofText? hkl
  rw [ofText?_eq_some_iff.2 rfl, ofText?_eq_some_iff.2 rfl] at hkind
  exact Option.some.inj hkind

theorem exists_descriptors_iff {ds : List Text} :
    (∃ ks, ds = descriptors ks) ↔ ∀ d ∈ ds, ∃ k : Kind, d = [k.letter] := by
  constructor
  · rintro ⟨ks, rfl⟩ d hd
    obtain ⟨k, -, rfl⟩ := List.mem_map.1 hd
    exact ⟨k, rfl⟩
  · intro h
    induction ds with
    | nil => exact ⟨[], rfl⟩
    | cons d ds ih =>
      obtain ⟨⟨k, rfl⟩, hds⟩ := List.forall_mem_cons.1 h
      obtain ⟨ks, rfl⟩ := ih hds
      exact ⟨k :: ks, rfl⟩

/-- Of two lists of kinds the one that widens to the other has the lower sum of ranks. -/
theorem eq_or_rankSum_lt {ks ls : List Kind} (h : List.Forall₂ WidensTo ks ls) :
    ks = ls ∨ rankSum ks < rankSum ls := by
  induction h with
  | nil => exact .inl rfl
  | @cons k l ks ls hkl _ ih =>
    have hk : rankSum (k :: ks) = k.rank + rankSum ks := List.sum_cons
    have hl : rankSum (l :: ls) = l.rank + rankSum ls := List.sum_cons
    rcases eq_or_rank_lt hkl with rfl | hlt
    · rcases ih with rfl | hrest
      · exact .inl rfl
      · exact .inr (by omega)
    · rcases ih with rfl | hrest
      · exact .inr (by omega)
      · exact .inr (by omega)

theorem rankSum_le {ks ls : List Kind} (h : List.Forall₂ WidensTo ks ls) :
    rankSum ks ≤ rankSum ls := by
  rcases eq_or_rankSum_lt h with rfl | hlt
  · exact Nat.le_refl _
  · exact Nat.le_of_lt hlt

end Kind

/-! ## Costs -/

/-- Kinds are passed as others by widening alone, and nothing is asked of them. -/
theorem conversionCost_hostType (u : Universe) (k l : Kind) :
    conversionCost u k.hostType l.hostType =
      .ok (if k = l then some 0 else (k.widenings.idxOf? l).map (· + 1)) := by
  by_cases heq : k = l
  · rw [heq, conversionCost, if_pos rfl, if_pos rfl]
  have hne : k.hostType ≠ l.hostType := fun h => heq (HostType.scalar.inj h)
  have hscalar : u.isPrimitive l.hostType = true := by cases l <;> rfl
  have hindex : HostType.wideningIndex? k.hostType l.hostType = k.widenings.idxOf? l := rfl
  rw [conversionCost, if_neg hne, if_neg heq, hindex, if_pos hscalar]
  cases k.widenings.idxOf? l <;> rfl

/-- A kind is passed as another one at the difference of their ranks. -/
theorem conversionCost_kinds {u : Universe} {k l : Kind} {c : Nat} :
    conversionCost u k.hostType l.hostType = .ok (some c) ↔
      k.WidensTo l ∧ l.rank = k.rank + c := by
  rw [conversionCost_hostType, Except.ok.injEq]
  by_cases heq : k = l
  · subst heq
    rw [if_pos rfl, Option.some.injEq]
    constructor
    · rintro rfl
      exact ⟨.refl, rfl⟩
    · rintro ⟨-, hrank⟩
      omega
  rw [if_neg heq]
  by_cases hl : l ∈ k.widenings
  · obtain ⟨i, hi, hrank, hwidens⟩ := Kind.exists_idxOf?_of_mem hl
    rw [hi, Option.map_some, Option.some.injEq, and_iff_right hwidens]
    omega
  · rw [List.idxOf?_eq_none_iff.2 hl]
    refine iff_of_false (by simp) fun h => ?_
    exact (Kind.widensTo_iff.1 h.1).elim heq hl

namespace Resolver

theorem totalCost_kinds {u : Universe} {ks ls : List Kind} (hlen : ks.length = ls.length)
    {c : Nat} : totalCost u (ks.map Kind.hostType) (ls.map Kind.hostType) = .ok (some c) ↔
      List.Forall₂ Kind.WidensTo ks ls ∧ Kind.rankSum ls = Kind.rankSum ks + c := by
  induction ks generalizing ls c with
  | nil =>
    rw [List.eq_nil_of_length_eq_zero hlen.symm]
    show (.ok (some 0) : Except HostError (Option Nat)) = .ok (some c) ↔ _
    rw [Except.ok.injEq, Option.some.injEq, and_iff_right List.Forall₂.nil]
    show 0 = c ↔ 0 = 0 + c
    omega
  | cons k ks ih =>
    obtain - | ⟨l, ls⟩ := ls
    · cases hlen
    have hrest := fun c => ih (c := c) (Nat.succ.inj hlen)
    have hk : Kind.rankSum (k :: ks) = k.rank + Kind.rankSum ks := List.sum_cons
    have hl : Kind.rankSum (l :: ls) = l.rank + Kind.rankSum ls := List.sum_cons
    rw [List.map_cons, List.map_cons, totalCost_cons, bind_eq_ok_iff, List.forall₂_cons]
    constructor
    · rintro ⟨cost, hcost, hsum⟩
      cases cost with
      | none => cases hsum
      | some a =>
        obtain ⟨hkl, ha⟩ := conversionCost_kinds.1 hcost
        obtain ⟨total, htotal, hsum⟩ := map_eq_ok_iff.1 hsum
        obtain ⟨b, rfl, hc⟩ := Option.map_eq_some_iff.1 hsum
        obtain ⟨hrest, hb⟩ := (hrest b).1 htotal
        exact ⟨⟨hkl, hrest⟩, by omega⟩
    · rintro ⟨⟨hkl, hwidens⟩, hc⟩
      have hhead := Kind.rank_le hkl
      have htail := Kind.rankSum_le hwidens
      refine ⟨some (l.rank - k.rank), conversionCost_kinds.2 ⟨hkl, by omega⟩, ?_⟩
      show (totalCost u (ks.map Kind.hostType) (ls.map Kind.hostType)).map _ = _
      rw [(hrest (Kind.rankSum ls - Kind.rankSum ks)).2 ⟨hwidens, by omega⟩]
      refine congrArg (Except.ok ∘ some) ?_
      show l.rank - k.rank + (Kind.rankSum ls - Kind.rankSum ks) = c
      omega

/-- The costs of kinds can always be found. -/
theorem exists_totalCost_kinds (u : Universe) (ks ls : List Kind) :
    ∃ c, totalCost u (ks.map Kind.hostType) (ls.map Kind.hostType) = .ok c := by
  refine exists_totalCost fun p hp => ?_
  rw [List.zip_map, List.mem_map] at hp
  obtain ⟨q, -, rfl⟩ := hp
  exact ⟨_, conversionCost_hostType u q.1 q.2⟩

variable {r : Resolver} {α : Type} {v : Overload α} {args ks : List Kind}

theorem variantTypes_kinds (hv : v.descriptors = Kind.descriptors ks) :
    r.variantTypes v = .ok (ks.map Kind.hostType) := by
  rw [variantTypes, hv]
  clear hv
  induction ks with
  | nil => rfl
  | cons k ks ih =>
    have hletter : r.typeOfDescriptor [k.letter] = .ok k.hostType := by cases k <;> rfl
    rw [Kind.descriptors, List.map_cons, List.mapM_cons, hletter]
    rw [Kind.descriptors] at ih
    rw [ih]
    rfl

/-- A variant for primitive kinds takes what widens to them, at the difference of the ranks. -/
theorem takes_kinds_iff (hv : v.descriptors = Kind.descriptors ks) {c : Nat} :
    r.Takes (args.map Kind.hostType) v c ↔
      List.Forall₂ Kind.WidensTo args ks ∧ Kind.rankSum ks = Kind.rankSum args + c := by
  have hlength : v.descriptors.length = ks.length := by rw [hv, Kind.descriptors, List.length_map]
  rw [takes_iff_cost?, hlength, List.length_map, cost?_eq_some_iff,
    price_of_resolves (variantTypes_kinds hv), mapError_eq_ok_iff]
  constructor
  · rintro ⟨hlen, htotal⟩
    exact (totalCost_kinds hlen.symm).1 htotal
  · rintro ⟨hwidens, hsum⟩
    exact ⟨hwidens.length_eq.symm, (totalCost_kinds hwidens.length_eq).2 ⟨hwidens, hsum⟩⟩

end Resolver

/-! ## Specificity -/

namespace Overload

variable {α : Type}

/-- The kinds of the arguments are those of the parameters or widen to them. -/
def Applicable (v : Overload α) (args : List Kind) : Prop :=
  ∃ ks, v.descriptors = Kind.descriptors ks ∧ List.Forall₂ Kind.WidensTo args ks

/-- The kinds of a variant are those of another one or widen to them. -/
def AsSpecificAs (v w : Overload α) : Prop :=
  ∃ ks ls, v.descriptors = Kind.descriptors ks ∧ w.descriptors = Kind.descriptors ls ∧
    List.Forall₂ Kind.WidensTo ks ls

theorem applicable_iff {v : Overload α} {args ks : List Kind}
    (hv : v.descriptors = Kind.descriptors ks) :
    v.Applicable args ↔ List.Forall₂ Kind.WidensTo args ks := by
  constructor
  · rintro ⟨ls, hls, hwidens⟩
    rwa [Kind.descriptors_injective (hv.symm.trans hls)]
  · intro hwidens
    exact ⟨ks, hv, hwidens⟩

theorem asSpecificAs_iff {v w : Overload α} {ks ls : List Kind}
    (hv : v.descriptors = Kind.descriptors ks) (hw : w.descriptors = Kind.descriptors ls) :
    v.AsSpecificAs w ↔ List.Forall₂ Kind.WidensTo ks ls := by
  constructor
  · rintro ⟨ks', ls', hks, hls, hwidens⟩
    rwa [Kind.descriptors_injective (hv.symm.trans hks),
      Kind.descriptors_injective (hw.symm.trans hls)]
  · intro hwidens
    exact ⟨ks, ls, hv, hw, hwidens⟩

/-- A variant is applicable when it takes the arguments at some cost. -/
theorem applicable_iff_takes {v : Overload α} {args ks : List Kind} (r : Resolver)
    (hv : v.descriptors = Kind.descriptors ks) :
    v.Applicable args ↔ ∃ c, r.Takes (args.map Kind.hostType) v c := by
  rw [applicable_iff hv]
  simp only [Resolver.takes_kinds_iff hv]
  constructor
  · intro hwidens
    have hle := Kind.rankSum_le hwidens
    exact ⟨Kind.rankSum ks - Kind.rankSum args, hwidens, by omega⟩
  · rintro ⟨c, hwidens, -⟩
    exact hwidens

end Overload

namespace Resolver

variable {r : Resolver} {α : Type} {set : OverloadSet α} {args : List Kind}

/-- The variants of a set that have as many parameters as there are arguments are for primitive
kinds. -/
def AllPrimitive (set : OverloadSet α) (args : List Kind) : Prop :=
  ∀ v ∈ set.variants, v.descriptors.length = args.length →
    ∀ d ∈ v.descriptors, ∃ k : Kind, d = [k.letter]

theorem exists_kinds (hset : AllPrimitive set args) {v : Overload α} (hv : v ∈ set.variants)
    (harity : v.descriptors.length = (args.map Kind.hostType).length) :
    ∃ ks, v.descriptors = Kind.descriptors ks :=
  Kind.exists_descriptors_iff.2 (hset v hv (by rw [harity, List.length_map]))

theorem compares_of_allPrimitive (hset : AllPrimitive set args) :
    r.Compares set (args.map Kind.hostType) := by
  intro v hv harity
  obtain ⟨ks, hks⟩ := exists_kinds hset hv harity
  obtain ⟨c, hc⟩ := exists_totalCost_kinds r.world args ks
  rw [price_of_resolves (variantTypes_kinds hks), hc]
  exact ⟨c, rfl⟩

/-- The applicable variant that is as specific as all others is the least. -/
theorem least_of_asSpecific (hbuilt : set.Built) (hset : AllPrimitive set args) {m : Overload α}
    (hm : m ∈ set.variants) (happlicable : m.Applicable args)
    (hspecific : ∀ w ∈ set.variants, w.Applicable args → m.AsSpecificAs w) :
    ∃ c, Least (r.scores set (args.map Kind.hostType)) (c, m) := by
  obtain ⟨ks, hks, hargs⟩ := happlicable
  obtain ⟨c, hc⟩ := (Overload.applicable_iff_takes r hks).1 ⟨ks, hks, hargs⟩
  refine ⟨c, (least_scores_iff hbuilt.nodup).2 ⟨hm, hc, fun w hw hne d hd => ?_⟩⟩
  obtain ⟨ls, hls⟩ := exists_kinds hset hw hd.arity
  have hwidens := (Overload.asSpecificAs_iff hks hls).1
    (hspecific w hw ((Overload.applicable_iff_takes r hls).2 ⟨d, hd⟩))
  have hcsum := ((takes_kinds_iff hks).1 hc).2
  have hdsum := ((takes_kinds_iff hls).1 hd).2
  rcases Kind.eq_or_rankSum_lt hwidens with rfl | hlt
  -- no other variant of the set has the same kinds
  · exact absurd (List.inj_on_of_nodup_map hbuilt.distinct hw hm (hls.trans hks.symm)) hne
  · omega

/-- **The most specific variant is selected.**  In a set whose variants with as many parameters as
there are arguments are for primitive kinds, call a variant applicable if the kinds of the arguments
are its own or widen to them.  An applicable variant whose kinds are those of every other applicable
one or widen to them is selected, and where no variant is applicable the method is not found. -/
theorem select_most_specific (r : Resolver) {set : OverloadSet α} (hbuilt : set.Built)
    (args : List Kind) (hset : AllPrimitive set args) (owner : Text) :
    (∀ m ∈ set.variants, m.Applicable args →
      (∀ w ∈ set.variants, w.Applicable args → m.AsSpecificAs w) →
      r.select set (args.map Kind.hostType) owner = .ok m) ∧
    ((∀ w ∈ set.variants, ¬ w.Applicable args) →
      ∃ e : BridgeError, r.select set (args.map Kind.hostType) owner = .error (.bridge e) ∧
        e = .lookup (.noOverload (Text.concat [owner, ".", set.name])
          ((args.map Kind.hostType).map HostType.name)) ∧ e.kind = .methodNotFound) := by
  have hcompares : r.Compares set (args.map Kind.hostType) := compares_of_allPrimitive hset
  constructor
  · intro m hm happlicable hspecific
    exact (select_eq_ok_iff hcompares).2 (least_of_asSpecific hbuilt hset hm happlicable hspecific)
  · intro hnone
    have hscores : r.scores set (args.map Kind.hostType) = [] := by
      refine List.eq_nil_iff_forall_not_mem.2 fun ⟨c, w⟩ hw => ?_
      obtain ⟨hw, htakes⟩ := mem_scores_iff.1 hw
      obtain ⟨ks, hks⟩ := exists_kinds hset hw htakes.arity
      exact hnone w hw ((Overload.applicable_iff_takes r hks).2 ⟨c, htakes⟩)
    refine ⟨_, ?_, rfl, rfl⟩
    rw [select_of_compares hcompares, hscores]
    rfl

/-- A byte and a character are passed as a short and an integer, though both could be longs; a
boolean and a character are passed as neither. -/
theorem select_most_specific_pair :
    let narrow : Overload Unit := ⟨["S", "I"], ()⟩
    let wide : Overload Unit := ⟨["J", "J"], ()⟩
    let set : OverloadSet Unit := ⟨"f", [wide, narrow, ⟨["Ljava/lang/String;"], ()⟩]⟩
    let r : Resolver := ⟨{}, {}, {}⟩
    set.Built ∧ (∀ k l, AllPrimitive set [k, l]) ∧ narrow.Applicable [.byte, .char] ∧
      wide.Applicable [.byte, .char] ∧ narrow.AsSpecificAs wide ∧
      r.select set [.scalar .byte, .scalar .char] "C" = .ok narrow ∧
      ∃ e : BridgeError, r.select set [.scalar .boolean, .scalar .char] "C" = .error (.bridge e) ∧
        e.kind = .methodNotFound := by
  intro narrow wide set r
  have hbuilt : set.Built := OverloadSet.built_of_distinct (by decide)
  have hnarrow : narrow.descriptors = Kind.descriptors [.short, .int] := rfl
  have hwide : wide.descriptors = Kind.descriptors [.long, .long] := rfl
  -- the third variant has one parameter
  have hpair : ∀ w ∈ set.variants, w.descriptors.length = 2 → w = wide ∨ w = narrow := by
    intro w hw harity
    simp only [set, List.mem_cons, List.not_mem_nil, or_false] at hw
    rcases hw with rfl | rfl | rfl
    · exact .inl rfl
    · exact .inr rfl
    · cases harity
  have hset (k l : Kind) : AllPrimitive set [k, l] := by
    intro w hw harity
    rcases hpair w hw harity with rfl | rfl
    · exact Kind.exists_descriptors_iff.1 ⟨_, hwide⟩
    · exact Kind.exists_descriptors_iff.1 ⟨_, hnarrow⟩
  have hlength {w : Overload Unit} {k l : Kind} (h : w.Applicable [k, l]) :
      w.descriptors.length = 2 := by
    obtain ⟨ks, hks, hwidens⟩ := h
    rw [hks, Kind.descriptors, List.length_map, ← hwidens.length_eq]
    rfl
  have happlicable : narrow.Applicable [.byte, .char] :=
    (Overload.applicable_iff hnarrow).2 (by decide)
  have hspecific : narrow.AsSpecificAs wide :=
    (Overload.asSpecificAs_iff hnarrow hwide).2 (by decide)
  refine ⟨hbuilt, hset, happlicable, (Overload.applicable_iff hwide).2 (by decide), hspecific,
    ?_, ?_⟩
  · refine (select_most_specific r hbuilt [.byte, .char] (hset _ _) "C").1 narrow
      (List.mem_cons_of_mem _ List.mem_cons_self) happlicable fun w hw hw' => ?_
    rcases hpair w hw (hlength hw') with rfl | rfl
    · exact hspecific
    · exact (Overload.asSpecificAs_iff hnarrow hnarrow).2 (by decide)
  · obtain ⟨e, he, -, hkind⟩ :=
      (select_most_specific r hbuilt [.boolean, .char] (hset _ _) "C").2 fun w hw hw' => by
        rcases hpair w hw (hlength hw') with rfl | rfl
        · exact absurd ((Overload.applicable_iff hwide).1 hw') (by decide)
        · exact absurd ((Overload.applicable_iff hnarrow).1 hw') (by decide)
    exact ⟨e, he, hkind⟩

end Resolver

end HostCall
