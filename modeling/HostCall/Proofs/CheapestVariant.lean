import HostCall.Library.Standard
import HostCall.Proofs.PlannedCall
import HostCall.Proofs.Resolution
import Mathlib.Data.List.Induction
import Mathlib.Data.List.Nodup

/-!
# The cheapest variant

`Resolver.select` goes through the variants of a set in the order of their addition.  What it finds
does not depend on that order: `Least` says that an entry costs less than all others of its list,
wherever they stand, and `cheapest_eq_iff_least` that such an entry is what `cheapest` looks for.
The cost of a variant is `Takes`, one number for each parameter, added up.

To find a cost may fail, since classes are asked what is below them and need not answer: `Compares`
says that it does not, for any variant that a call may choose.

Main statement, `select_iff_least`: where the variants with as many parameters as there are
arguments resolve and can be compared, the one that is selected takes the arguments at a lower cost
than every other; and where they cannot be compared none is selected.
-/

namespace HostCall

open Result

namespace OverloadSet

variable {α : Type}

instance (s : OverloadSet α) : Decidable s.Distinct :=
  inferInstanceAs (Decidable (s.variants.map Overload.descriptors).Nodup)

/-- The sets that additions make from an empty one; a refused addition makes none. -/
inductive Built : OverloadSet α → Prop
  | empty (name : Text) : Built ⟨name, []⟩
  | add {s t : OverloadSet α} {v : Overload α} (hs : Built s) (hadd : s.add? v = .ok t) : Built t

theorem Built.distinct {s : OverloadSet α} (hs : s.Built) : s.Distinct := by
  induction hs with
  | empty name => exact List.nodup_nil
  | add _ hadd ih => exact nodup_add? ih hadd

theorem built_of_distinct {s : OverloadSet α} (hs : s.Distinct) : s.Built := by
  obtain ⟨name, vs⟩ := s
  induction vs using List.reverseRecOn with
  | nil => exact .empty name
  | append_singleton vs v ih =>
    rw [Distinct, List.map_append, List.nodup_append] at hs
    obtain ⟨hvs, -, hne⟩ := hs
    refine .add (ih hvs) (v := v) ?_
    have hfresh : ¬ (vs.any fun w => w.descriptors == v.descriptors) = true := by
      simp only [List.any_eq_true, beq_iff_eq, not_exists, not_and]
      intro w hw
      exact hne _ (List.mem_map_of_mem hw) _ (List.mem_singleton.2 rfl)
    rw [add?, if_neg hfresh]

theorem Built.nodup {s : OverloadSet α} (hs : s.Built) : s.variants.Nodup :=
  List.Nodup.of_map _ hs.distinct

theorem mem_candidates_iff {s : OverloadSet α} {n : Nat} {v : Overload α} :
    v ∈ s.candidates n ↔ v ∈ s.variants ∧ v.descriptors.length = n := by
  simp [candidates]

end OverloadSet

namespace Resolver

variable {r : Resolver} {α : Type} {supplied : List HostType}

/-! ## The least of a list -/

/-- An entry that costs less than all others. -/
def Least (l : List (Nat × Overload α)) (e : Nat × Overload α) : Prop :=
  ∃ rest, l.Perm (e :: rest) ∧ ∀ x ∈ rest, e.1 < x.1

theorem Least.of_perm {l l' : List (Nat × Overload α)} {e : Nat × Overload α} (hperm : l'.Perm l)
    (h : Least l e) : Least l' e := by
  obtain ⟨rest, hrest, hlt⟩ := h
  exact ⟨rest, hperm.trans hrest, hlt⟩

theorem Least.mem {l : List (Nat × Overload α)} {e : Nat × Overload α} (h : Least l e) : e ∈ l := by
  obtain ⟨rest, hrest, -⟩ := h
  exact hrest.mem_iff.2 List.mem_cons_self

theorem Least.lt_of_ne {l : List (Nat × Overload α)} {e x : Nat × Overload α} (h : Least l e)
    (hx : x ∈ l) (hne : x ≠ e) : e.1 < x.1 := by
  obtain ⟨rest, hrest, hlt⟩ := h
  rcases List.mem_cons.1 (hrest.mem_iff.1 hx) with heq | hx
  · exact absurd heq hne
  · exact hlt x hx

theorem Least.unique {l : List (Nat × Overload α)} {e x : Nat × Overload α} (he : Least l e)
    (hx : Least l x) : x = e := by
  by_contra hne
  have hlt := he.lt_of_ne hx.mem hne
  have hgt := hx.lt_of_ne he.mem (Ne.symm hne)
  exact absurd hlt (Nat.not_lt.2 (Nat.le_of_lt hgt))

theorem cheapest_eq_none_iff {l : List (Nat × Overload α)} : cheapest l = none ↔ l = [] := by
  cases l with
  | nil => simp [cheapest]
  | cons e l =>
    simp only [cheapest, reduceCtorEq, iff_false]
    split
    · simp
    · split
      · simp
      · split <;> simp

/-- What is found costs no more than any other entry, and a tie is reported when another one costs
the same. -/
theorem exists_perm_of_cheapest {l : List (Nat × Overload α)} {c : Nat} {v : Overload α}
    {tie : Bool} (h : cheapest l = some (c, v, tie)) :
    ∃ rest, l.Perm ((c, v) :: rest) ∧ (∀ e ∈ rest, c ≤ e.1) ∧
      (tie = true ↔ ∃ e ∈ rest, e.1 = c) := by
  induction l generalizing c v tie with
  | nil => cases h
  | cons e l ih =>
    obtain ⟨d, w⟩ := e
    rw [cheapest] at h
    cases hl : cheapest l with
    | none =>
      rw [hl] at h
      cases h
      rw [cheapest_eq_none_iff.1 hl]
      exact ⟨[], .refl _, by simp, by simp⟩
    | some best =>
      obtain ⟨b, u, tied⟩ := best
      obtain ⟨rest, hperm, hle, htie⟩ := ih hl
      have hbound : ∀ e ∈ l, b ≤ e.1 := by
        intro e he
        rcases List.mem_cons.1 (hperm.mem_iff.1 he) with rfl | he
        · exact Nat.le_refl _
        · exact hle e he
      rw [hl] at h
      dsimp only at h
      rcases Nat.lt_trichotomy d b with hlt | heq | hgt
      -- the head is cheaper than all behind it
      · rw [if_pos hlt] at h
        cases h
        refine ⟨l, .refl _, fun e he => Nat.le_trans (Nat.le_of_lt hlt) (hbound e he), ?_⟩
        simp only [Bool.false_eq_true, false_iff, not_exists, not_and]
        intro e he heq
        have := hbound e he
        omega
      -- the head meets the cost of what is found behind it
      · subst heq
        rw [if_neg (Nat.lt_irrefl _), if_pos rfl] at h
        cases h
        have hu := hperm.mem_iff.2 List.mem_cons_self
        exact ⟨l, .refl _, hbound, fun _ => ⟨_, hu, rfl⟩, fun _ => rfl⟩
      -- the head is passed over
      · rw [if_neg (Nat.not_lt.2 (Nat.le_of_lt hgt)), if_neg (Nat.ne_of_gt hgt)] at h
        cases h
        refine ⟨(d, w) :: rest, (hperm.cons _).trans (.swap _ _ _), ?_, ?_⟩
        · intro e he
          rcases List.mem_cons.1 he with rfl | he
          · exact Nat.le_of_lt hgt
          · exact hle e he
        · rw [htie]
          constructor
          · rintro ⟨e, he, heq⟩
            exact ⟨e, List.mem_cons_of_mem _ he, heq⟩
          · rintro ⟨e, he, heq⟩
            rcases List.mem_cons.1 he with rfl | he
            · exact absurd heq (Nat.ne_of_gt hgt)
            · exact ⟨e, he, heq⟩

/-- Where two entries cost the least, no entry is the least. -/
theorem not_least_of_tied {l rest : List (Nat × Overload α)} {e x : Nat × Overload α}
    (hperm : l.Perm (e :: rest)) (hle : ∀ x ∈ rest, e.1 ≤ x.1) (htied : ∃ x ∈ rest, x.1 = e.1) :
    ¬ Least l x := by
  intro hx
  have hex : e = x := by
    by_contra hne
    have hlt := hx.lt_of_ne (hperm.mem_iff.2 List.mem_cons_self) hne
    rcases List.mem_cons.1 (hperm.mem_iff.1 hx.mem) with heq | hrest
    · exact hne heq.symm
    · exact absurd hlt (Nat.not_lt.2 (hle x hrest))
  subst hex
  obtain ⟨others, hothers, hlt⟩ := hx
  obtain ⟨y, hy, heq⟩ := htied
  have hmem : y ∈ others := ((hperm.symm.trans hothers).cons_inv).mem_iff.1 hy
  exact absurd heq (Nat.ne_of_gt (hlt y hmem))

/-- **What is found without a tie is the least entry.** -/
theorem cheapest_eq_iff_least {l : List (Nat × Overload α)} {c : Nat} {v : Overload α} :
    cheapest l = some (c, v, false) ↔ Least l (c, v) := by
  have hsound : ∀ {d w}, cheapest l = some (d, w, false) → Least l (d, w) := by
    intro d w h
    obtain ⟨rest, hperm, hle, htie⟩ := exists_perm_of_cheapest h
    refine ⟨rest, hperm, fun e he => Nat.lt_of_le_of_ne (hle e he) fun heq => ?_⟩
    exact absurd (htie.2 ⟨e, he, heq.symm⟩) Bool.false_ne_true
  constructor
  · exact hsound
  · intro hleast
    cases hl : cheapest l with
    | none =>
      rw [cheapest_eq_none_iff.1 hl] at hleast
      exact absurd hleast.mem List.not_mem_nil
    | some best =>
      obtain ⟨d, w, tie⟩ := best
      cases tie with
      | false =>
        cases hleast.unique (hsound hl)
        rfl
      | true =>
        obtain ⟨rest, hperm, hle, htie⟩ := exists_perm_of_cheapest hl
        exact absurd hleast (not_least_of_tied hperm hle (htie.1 rfl))

/-! ## Scores -/

/-- The cost of passing the supplied types to a variant that has one. -/
def cost? (r : Resolver) (supplied : List HostType) (v : Overload α) : Option Nat :=
  (r.price supplied v).toOption.join

/-- A variant has a parameter for each argument, and all arguments can be passed at costs that add
up to `c`. -/
structure Takes (r : Resolver) (supplied : List HostType) (v : Overload α) (c : Nat) : Prop where
  arity : v.descriptors.length = supplied.length
  costs : ∃ (declared : List HostType) (cs : List Nat), r.variantTypes v = .ok declared ∧
    List.zipWith (conversionCost r.world) supplied declared = cs.map (.ok ∘ some) ∧ cs.sum = c

theorem totalCost_cons (u : Universe) (s d : HostType) (ss ds : List HostType) :
    totalCost u (s :: ss) (d :: ds) = conversionCost u s d >>= fun
      | some c => (totalCost u ss ds).map fun rest => rest.map (c + ·)
      | none => .ok none := by
  rw [totalCost]
  refine congrArg (conversionCost u s d >>= ·) (funext fun cost => ?_)
  cases cost with
  | none => rfl
  | some c => cases totalCost u ss ds <;> rfl

theorem totalCost_eq_some_iff {u : Universe} {ss ds : List HostType} {c : Nat} :
    totalCost u ss ds = .ok (some c) ↔ ∃ cs : List Nat,
      List.zipWith (conversionCost u) ss ds = cs.map (.ok ∘ some) ∧ cs.sum = c := by
  -- without further parameters there is nothing to add up
  have hnone (c : Nat) : (.ok (some 0) : Except HostError (Option Nat)) = .ok (some c) ↔
      ∃ cs : List Nat, ([] : List (Except HostError (Option Nat))) = cs.map (.ok ∘ some) ∧
        cs.sum = c := by
    constructor
    · intro hc
      exact ⟨[], rfl, Option.some.inj (Except.ok.inj hc)⟩
    · rintro ⟨cs, hcs, rfl⟩
      rw [List.map_eq_nil_iff.1 hcs.symm, List.sum_nil]
  induction ss generalizing ds c with
  | nil => exact hnone c
  | cons s ss ih =>
    cases ds with
    | nil => exact hnone c
    | cons d ds =>
      rw [totalCost_cons, List.zipWith_cons_cons, bind_eq_ok_iff]
      constructor
      · rintro ⟨cost, hk, hc⟩
        cases cost with
        | none => cases hc
        | some k =>
          obtain ⟨rest, hrest, hc⟩ := map_eq_ok_iff.1 hc
          obtain ⟨n, rfl, rfl⟩ := Option.map_eq_some_iff.1 hc
          obtain ⟨cs, hcs, rfl⟩ := ih.1 hrest
          exact ⟨k :: cs, by rw [hk, hcs, List.map_cons]; rfl, List.sum_cons⟩
      · rintro ⟨cs, hcs, rfl⟩
        obtain - | ⟨k, cs⟩ := cs
        · cases hcs
        · rw [List.map_cons, List.cons.injEq] at hcs
          refine ⟨some k, hcs.1, ?_⟩
          show (totalCost u ss ds).map _ = _
          rw [ih.2 ⟨cs, hcs.2, rfl⟩, List.sum_cons]
          rfl

/-- Where neither class decides itself which one is below the other, the cost can be found. -/
theorem exists_conversionCost {u : Universe} {t s : HostType} (h : t.mayDecide s = false) :
    ∃ c, conversionCost u t s = .ok c := by
  have hbelow : u.isSubclass t s = .ok (u.isSubtype t s) :=
    Universe.isSubclass_eq_isSubtype fun hdecide => by rw [h] at hdecide; cases hdecide
  unfold conversionCost
  rw [hbelow]
  split
  · exact ⟨_, rfl⟩
  · split
    · exact ⟨_, rfl⟩
    · split
      · exact ⟨_, rfl⟩
      · split
        · exact ⟨_, rfl⟩
        · split <;> exact ⟨_, rfl⟩

/-- Where all costs can be found, so can their sum. -/
theorem exists_totalCost {u : Universe} {ss ds : List HostType}
    (h : ∀ p ∈ ss.zip ds, ∃ c, conversionCost u p.1 p.2 = .ok c) :
    ∃ c, totalCost u ss ds = .ok c := by
  induction ss generalizing ds with
  | nil => exact ⟨_, rfl⟩
  | cons s ss ih =>
    cases ds with
    | nil => exact ⟨_, rfl⟩
    | cons d ds =>
      rw [List.zip_cons_cons, List.forall_mem_cons] at h
      obtain ⟨⟨cost, hcost⟩, hrest⟩ := h
      obtain ⟨rest, hrest⟩ := ih hrest
      rw [totalCost_cons, hcost, hrest]
      cases cost <;> exact ⟨_, rfl⟩

theorem price_of_resolves {v : Overload α} {declared : List HostType}
    (h : r.variantTypes v = .ok declared) :
    r.price supplied v = (totalCost r.world supplied declared).mapError .host := by
  rw [price, h, ok_bind]

theorem price_eq_some_iff {v : Overload α} {c : Nat} : r.price supplied v = .ok (some c) ↔
    ∃ declared, r.variantTypes v = .ok declared ∧
      totalCost r.world supplied declared = .ok (some c) := by
  simp only [price, bind_eq_ok_iff, mapError_eq_ok_iff]

theorem cost?_eq_some_iff {v : Overload α} {c : Nat} :
    r.cost? supplied v = some c ↔ r.price supplied v = .ok (some c) := by
  rw [cost?, Option.join_eq_some_iff, toOption_eq_some_iff]

theorem takes_iff_cost? {v : Overload α} {c : Nat} :
    r.Takes supplied v c ↔
      v.descriptors.length = supplied.length ∧ r.cost? supplied v = some c := by
  rw [cost?_eq_some_iff, price_eq_some_iff]
  constructor
  · rintro ⟨harity, declared, cs, hdeclared, hcs⟩
    exact ⟨harity, declared, hdeclared, totalCost_eq_some_iff.2 ⟨cs, hcs⟩⟩
  · rintro ⟨harity, declared, hdeclared, hcost⟩
    obtain ⟨cs, hcs⟩ := totalCost_eq_some_iff.1 hcost
    exact ⟨harity, declared, cs, hdeclared, hcs⟩

theorem scored_cons (v : Overload α) (vs : List (Overload α)) :
    r.scored supplied (v :: vs) = r.price supplied v >>= fun cost =>
      r.scored supplied vs >>= fun rest => .ok ((cost.map (·, v)).toList ++ rest) := by
  rw [scored]
  refine congrArg (r.price supplied v >>= ·) (funext fun cost => ?_)
  refine congrArg (r.scored supplied vs >>= ·) (funext fun rest => ?_)
  cases cost <;> rfl

/-- Variants whose costs can be found are scored by them, and those without a cost are left out. -/
theorem scored_of_priced {vs : List (Overload α)}
    (hpriced : ∀ v ∈ vs, ∃ c, r.price supplied v = .ok c) :
    r.scored supplied vs = .ok (vs.filterMap fun v => (r.cost? supplied v).map (·, v)) := by
  induction vs with
  | nil => rfl
  | cons v vs ih =>
    obtain ⟨⟨cost, hcost⟩, hrest⟩ := List.forall_mem_cons.1 hpriced
    have hcost? : r.cost? supplied v = cost := by
      rw [cost?, hcost]
      rfl
    rw [scored_cons, hcost, ih hrest, ok_bind, ok_bind, List.filterMap_cons, hcost?]
    cases cost <;> rfl

/-- Scoring fails with the first variant whose cost cannot be found. -/
theorem scored_eq_error_iff {vs : List (Overload α)} {e : Failure} :
    r.scored supplied vs = .error e ↔ ∃ before w after, vs = before ++ w :: after ∧
      (∀ x ∈ before, ∃ c, r.price supplied x = .ok c) ∧ r.price supplied w = .error e := by
  induction vs with
  | nil => simp [scored]
  | cons v vs ih =>
    simp only [scored_cons, bind_eq_error_iff, reduceCtorEq, and_false, exists_false, or_false, ih]
    constructor
    · rintro (hv | ⟨cost, hv, before, w, after, rfl, hbefore, hw⟩)
      · exact ⟨[], v, vs, rfl, by simp, hv⟩
      · exact ⟨v :: before, w, after, rfl, List.forall_mem_cons.2 ⟨⟨cost, hv⟩, hbefore⟩, hw⟩
    · rintro ⟨before, w, after, hsplit, hbefore, hw⟩
      obtain - | ⟨x, before⟩ := before
      · cases hsplit
        exact .inl hw
      · cases hsplit
        obtain ⟨⟨cost, hv⟩, hbefore⟩ := List.forall_mem_cons.1 hbefore
        exact .inr ⟨cost, hv, before, w, after, rfl, hbefore, hw⟩

theorem priced_of_scored {vs : List (Overload α)} {l : List (Nat × Overload α)}
    (h : r.scored supplied vs = .ok l) : ∀ w ∈ vs, ∃ c, r.price supplied w = .ok c := by
  induction vs generalizing l with
  | nil => exact fun w hw => absurd hw List.not_mem_nil
  | cons v vs ih =>
    rw [scored_cons] at h
    obtain ⟨cost, hcost, h⟩ := bind_eq_ok_iff.1 h
    obtain ⟨rest, hrest, -⟩ := bind_eq_ok_iff.1 h
    exact List.forall_mem_cons.2 ⟨⟨cost, hcost⟩, ih hrest⟩

/-! ## The selected variant -/

variable {set : OverloadSet α} {owner : Text}

/-- The scores of the variants that have a parameter for each argument. -/
def scores (r : Resolver) (set : OverloadSet α) (supplied : List HostType) :
    List (Nat × Overload α) :=
  (set.candidates supplied.length).filterMap fun v => (r.cost? supplied v).map (·, v)

theorem mem_scores_iff {c : Nat} {v : Overload α} :
    (c, v) ∈ r.scores set supplied ↔ v ∈ set.variants ∧ r.Takes supplied v c := by
  simp only [scores, List.mem_filterMap, Option.map_eq_some_iff, Prod.mk.injEq,
    OverloadSet.mem_candidates_iff, takes_iff_cost?]
  constructor
  · rintro ⟨w, ⟨hw, harity⟩, d, hd, rfl, rfl⟩
    exact ⟨hw, harity, hd⟩
  · rintro ⟨hv, harity, hc⟩
    exact ⟨v, ⟨hv, harity⟩, c, hc, rfl, rfl⟩

theorem scores_perm {t : OverloadSet α} (h : t.variants.Perm set.variants) :
    (r.scores t supplied).Perm (r.scores set supplied) :=
  (h.filter _).filterMap _

/-- Each variant is scored at most once. -/
theorem least_scores_iff (hset : set.variants.Nodup) {c : Nat} {v : Overload α} :
    Least (r.scores set supplied) (c, v) ↔ v ∈ set.variants ∧ r.Takes supplied v c ∧
      ∀ w ∈ set.variants, w ≠ v → ∀ d, r.Takes supplied w d → c < d := by
  constructor
  · intro hleast
    obtain ⟨hv, htakes⟩ := mem_scores_iff.1 hleast.mem
    refine ⟨hv, htakes, fun w hw hne d hd => ?_⟩
    exact hleast.lt_of_ne (mem_scores_iff.2 ⟨hw, hd⟩) fun heq => hne (Prod.mk.inj heq).2
  · rintro ⟨hv, htakes, hless⟩
    obtain ⟨before, after, hsplit⟩ := List.append_of_mem
      (OverloadSet.mem_candidates_iff.2 ⟨hv, htakes.arity⟩)
    have hnodup : (set.candidates supplied.length).Nodup := hset.filter _
    have hcost := (takes_iff_cost?.1 htakes).2
    rw [hsplit, List.nodup_middle, List.nodup_cons] at hnodup
    refine ⟨(before ++ after).filterMap fun w => (r.cost? supplied w).map (·, w), ?_, ?_⟩
    · rw [scores, hsplit]
      refine (List.perm_middle.filterMap _).trans (.of_eq ?_)
      rw [List.filterMap_cons, hcost]
      rfl
    · rintro ⟨d, w⟩ hw
      obtain ⟨x, hx, hscore⟩ := List.mem_filterMap.1 hw
      obtain ⟨_, hd, heq⟩ := Option.map_eq_some_iff.1 hscore
      cases heq
      have hw : w ∈ set.candidates supplied.length := by
        rw [hsplit]
        exact List.perm_middle.mem_iff.2 (List.mem_cons_of_mem v hx)
      obtain ⟨hw, harity⟩ := OverloadSet.mem_candidates_iff.1 hw
      have hne : w ≠ v := fun heq => hnodup.1 (heq ▸ hx)
      exact hless w hw hne d (takes_iff_cost?.2 ⟨harity, hd⟩)

/-- The variants that a call with the supplied types may choose from all resolve. -/
def Resolves (r : Resolver) (set : OverloadSet α) (supplied : List HostType) : Prop :=
  ∀ v ∈ set.variants, v.descriptors.length = supplied.length → ∃ ts, r.variantTypes v = .ok ts

/-- They resolve, and no class fails that is asked what is below it. -/
def Compares (r : Resolver) (set : OverloadSet α) (supplied : List HostType) : Prop :=
  ∀ v ∈ set.variants, v.descriptors.length = supplied.length →
    ∃ c, r.price supplied v = .ok c

theorem compares_iff_candidates : r.Compares set supplied ↔
    ∀ v ∈ set.candidates supplied.length, ∃ c, r.price supplied v = .ok c := by
  simp only [Compares, OverloadSet.mem_candidates_iff, and_imp]

theorem resolves_of_compares (h : r.Compares set supplied) : r.Resolves set supplied := by
  intro v hv harity
  obtain ⟨cost, hcost⟩ := h v hv harity
  obtain ⟨declared, hdeclared, -⟩ := bind_eq_ok_iff.1 hcost
  exact ⟨declared, hdeclared⟩

/-- A variant is selected only where the costs of all can be found. -/
theorem compares_of_select {v : Overload α} (h : r.select set supplied owner = .ok v) :
    r.Compares set supplied := by
  obtain ⟨l, hscored, -⟩ := bind_eq_ok_iff.1 h
  exact compares_iff_candidates.2 (priced_of_scored hscored)

theorem select_of_compares (hcompares : r.Compares set supplied) :
    r.select set supplied owner = match cheapest (r.scores set supplied) with
      | none => .error (.bridge (.lookup (.noOverload (Text.concat [owner, ".", set.name])
          (supplied.map HostType.name))))
      | some (_, _, true) =>
        .error (.bridge (.lookup (.ambiguous (Text.concat [owner, ".", set.name]))))
      | some (_, v, false) => .ok v := by
  have hscored : r.scored supplied (set.candidates supplied.length) = .ok (r.scores set supplied) :=
    scored_of_priced (compares_iff_candidates.1 hcompares)
  rw [select, hscored, ok_bind]
  rfl

/-- Where the cost of a variant cannot be found, the first such variant is what selection fails
with. -/
theorem select_error_iff_of_not_compares (h : ¬ r.Compares set supplied) {e : Failure} :
    r.select set supplied owner = .error e ↔
      ∃ before w after, set.candidates supplied.length = before ++ w :: after ∧
        (∀ x ∈ before, ∃ c, r.price supplied x = .ok c) ∧ r.price supplied w = .error e := by
  rw [← scored_eq_error_iff]
  cases hscored : r.scored supplied (set.candidates supplied.length) with
  | ok l => exact absurd (compares_iff_candidates.2 (priced_of_scored hscored)) h
  | error f =>
    rw [select, hscored]
    show (.error f : Except Failure (Overload α)) = .error e ↔ _
    rw [Except.error.injEq, Except.error.injEq]

theorem select_eq_ok_iff (hcompares : r.Compares set supplied) {v : Overload α} :
    r.select set supplied owner = .ok v ↔ ∃ c, Least (r.scores set supplied) (c, v) := by
  rw [select_of_compares hcompares]
  cases hbest : cheapest (r.scores set supplied) with
  | none =>
    simp only [reduceCtorEq, false_iff, not_exists]
    intro c hleast
    rw [← cheapest_eq_iff_least, hbest] at hleast
    cases hleast
  | some best =>
    obtain ⟨d, w, tie⟩ := best
    cases tie with
    | true =>
      simp only [reduceCtorEq, false_iff, not_exists]
      intro c hleast
      rw [← cheapest_eq_iff_least, hbest] at hleast
      cases hleast
    | false =>
      have hw := cheapest_eq_iff_least.1 hbest
      constructor
      · intro h
        cases h
        exact ⟨d, hw⟩
      · rintro ⟨c, hleast⟩
        cases hw.unique hleast
        rfl

/-- The order of a set does not bear on what is selected, nor on the failure to select. -/
theorem select_perm {t : OverloadSet α} (hcompares : r.Compares set supplied)
    (hname : t.name = set.name) (hperm : t.variants.Perm set.variants) :
    r.select t supplied owner = r.select set supplied owner := by
  have hscores : (r.scores t supplied).Perm (r.scores set supplied) := scores_perm hperm
  have hcompares' : r.Compares t supplied := fun v hv => hcompares v (hperm.mem_iff.1 hv)
  rw [select_of_compares hcompares, select_of_compares hcompares', hname]
  cases hset : cheapest (r.scores set supplied) with
  | none =>
    rw [cheapest_eq_none_iff.1 hset] at hscores
    rw [hscores.eq_nil]
    rfl
  | some best =>
    obtain ⟨c, v, tie⟩ := best
    cases tie with
    | false =>
      have hleast := (cheapest_eq_iff_least.1 hset).of_perm hscores
      rw [cheapest_eq_iff_least.2 hleast]
    | true =>
      cases ht : cheapest (r.scores t supplied) with
      | none =>
        rw [cheapest_eq_none_iff.1 ht] at hscores
        rw [hscores.symm.eq_nil] at hset
        cases hset
      | some best' =>
        obtain ⟨d, w, tie⟩ := best'
        cases tie with
        | false =>
          have hleast := (cheapest_eq_iff_least.1 ht).of_perm hscores.symm
          rw [cheapest_eq_iff_least.2 hleast] at hset
          cases hset
        | true => rfl

/-- A failure to select is one to find the method. -/
theorem kind_of_select_error {f : Failure} (hcompares : r.Compares set supplied)
    (h : r.select set supplied owner = .error f) :
    ∃ e, f = .bridge e ∧ e.kind = .methodNotFound := by
  rw [select_of_compares hcompares] at h
  split at h
  · cases h
    exact ⟨_, rfl, rfl⟩
  · cases h
    exact ⟨_, rfl, rfl⟩
  · cases h

/-- **Selection picks the one cheapest variant.**  Let the variants with as many parameters as there
are arguments resolve.  A variant is selected exactly when no class fails that is asked what is
below it, and the variant takes the arguments at a lower cost than each of the others.  Where no
class fails the method is not found otherwise, and the order in which the variants were added makes
no difference.  Where one does, selection fails as the first of them does, and with no error of the
bridge. -/
theorem select_iff_least (r : Resolver) {set : OverloadSet α} (hset : set.Built)
    (supplied : List HostType) (owner : Text) (hresolves : r.Resolves set supplied) :
    (∀ v, r.select set supplied owner = .ok v ↔ r.Compares set supplied ∧
      v ∈ set.variants ∧ ∃ c, r.Takes supplied v c ∧
        ∀ w ∈ set.variants, w ≠ v → ∀ d, r.Takes supplied w d → c < d) ∧
    (r.Compares set supplied →
      (∀ f, r.select set supplied owner = .error f →
        ∃ e, f = .bridge e ∧ e.kind = .methodNotFound) ∧
      ∀ t : OverloadSet α, t.name = set.name → t.variants.Perm set.variants →
        r.select t supplied owner = r.select set supplied owner) ∧
    (¬ r.Compares set supplied → ∃ (e : HostError) (before after : List (Overload α))
      (w : Overload α) (declared : List HostType),
      r.select set supplied owner = .error (.host e) ∧
        set.candidates supplied.length = before ++ w :: after ∧
        (∀ x ∈ before, ∃ c, r.price supplied x = .ok c) ∧
        r.variantTypes w = .ok declared ∧ totalCost r.world supplied declared = .error e) := by
  refine ⟨fun v => ?_, fun hcompares => ⟨fun f hf => kind_of_select_error hcompares hf,
    fun t hname hperm => select_perm hcompares hname hperm⟩, fun hcompares => ?_⟩
  · constructor
    · intro hv
      have hcompares := compares_of_select hv
      obtain ⟨c, hleast⟩ := (select_eq_ok_iff hcompares).1 hv
      obtain ⟨hv, htakes, hless⟩ := (least_scores_iff hset.nodup).1 hleast
      exact ⟨hcompares, hv, c, htakes, hless⟩
    · rintro ⟨hcompares, hv, c, htakes, hless⟩
      exact (select_eq_ok_iff hcompares).2
        ⟨c, (least_scores_iff hset.nodup).2 ⟨hv, htakes, hless⟩⟩
  · cases hselect : r.select set supplied owner with
    | ok v => exact absurd (compares_of_select hselect) hcompares
    | error f =>
      obtain ⟨before, w, after, hsplit, hbefore, hw⟩ :=
        (select_error_iff_of_not_compares hcompares).1 hselect
      have hmem : w ∈ set.candidates supplied.length := by
        rw [hsplit]
        exact List.mem_append_right _ List.mem_cons_self
      obtain ⟨hwset, harity⟩ := OverloadSet.mem_candidates_iff.1 hmem
      obtain ⟨declared, hdeclared⟩ := hresolves w hwset harity
      rw [price_of_resolves hdeclared, mapError_eq_error_iff] at hw
      obtain ⟨e, he, rfl⟩ := hw
      exact ⟨e, before, after, w, declared, rfl, hsplit, hbefore, hdeclared, he⟩

/-- An integer is passed as a long rather than as a float, and not as a short. -/
theorem select_nearest_widening :
    let long : Overload Unit := ⟨["J"], ()⟩
    let set : OverloadSet Unit := ⟨"f", [⟨["F"], ()⟩, long, ⟨["S"], ()⟩]⟩
    let r : Resolver := ⟨{}, {}, {}⟩
    set.Built ∧ r.Resolves set [.scalar .int] ∧ r.Compares set [.scalar .int] ∧
      r.select set [.scalar .int] "C" = .ok long := by
  intro long set r
  have hset : set.Built := OverloadSet.built_of_distinct (by decide)
  have hcompares : r.Compares set [.scalar .int] := by
    intro v hv _
    simp only [set, List.mem_cons, List.not_mem_nil, or_false] at hv
    rcases hv with rfl | rfl | rfl
    · exact ⟨_, rfl⟩
    · exact ⟨_, rfl⟩
    · exact ⟨_, rfl⟩
  have hresolves : r.Resolves set [.scalar .int] := resolves_of_compares hcompares
  refine ⟨hset, hresolves, hcompares, ((select_iff_least r hset _ "C" hresolves).1 long).2 ?_⟩
  have hlong : r.Takes [.scalar .int] long 1 := takes_iff_cost?.2 ⟨rfl, rfl⟩
  refine ⟨hcompares, by simp [set], 1, hlong, fun w hw hne d hd => ?_⟩
  have hcost := (takes_iff_cost?.1 hd).2
  simp only [set, List.mem_cons, List.not_mem_nil, or_false] at hw
  rcases hw with rfl | rfl | rfl
  · obtain rfl : 2 = d := Option.some.inj hcost
    decide
  · exact absurd rfl hne
  · cases hcost

/-- A class of frames resolves and never says what is below it.  A variant for it ends the
selection, though another variant takes the argument for nothing. -/
theorem select_beside_frames :
    let int : Overload Unit := ⟨["I"], ()⟩
    let frames : Overload Unit := ⟨["Lreflector/core/state/RegisterFile;"], ()⟩
    let set : OverloadSet Unit := ⟨"f", [int, frames]⟩
    let r : Resolver := ⟨.standard, {}, { importRoots := ["reflector"] }⟩
    set.Built ∧ r.Resolves set [.scalar .int] ∧ r.Takes [.scalar .int] int 0 ∧
      (∀ w ∈ set.variants, w ≠ int → ∀ c, ¬ r.Takes [.scalar .int] w c) ∧
      r.select set [.scalar .int] "a.B" = .error (.host (.raised .type
        "Protocols with non-method members don't support issubclass()")) := by
  intro int frames set r
  have hset : set.Built := OverloadSet.built_of_distinct (by decide)
  have hint : r.price [.scalar .int] int = .ok (some 0) := rfl
  have hclass : r.resolveClass "reflector.core.state.RegisterFile" =
      .ok ⟨"reflector.core.state.RegisterFile", .declared Library.Protocol.registerFile,
        .declared Library.Protocol.registerFile⟩ := by
    rw [resolveClass_eq]
    decide +kernel
  have htypes : r.variantTypes frames = .ok [.declared Library.Protocol.registerFile] := by
    have htype : r.typeOfDescriptor "Lreflector/core/state/RegisterFile;" =
        r.resolveClass "reflector.core.state.RegisterFile" >>= fun c => pure c.hostType := rfl
    rw [variantTypes_singleton, htype, hclass]
    rfl
  have hframes : r.price [.scalar .int] frames = .error (.host (.raised .type
      "Protocols with non-method members don't support issubclass()")) := by
    rw [price_of_resolves htypes]
    rfl
  have hvariants {w : Overload Unit} (hw : w ∈ set.variants) : w = int ∨ w = frames := by
    simpa [set] using hw
  refine ⟨hset, ?_, takes_iff_cost?.2 ⟨rfl, cost?_eq_some_iff.2 hint⟩, ?_, ?_⟩
  · intro w hw _
    rcases hvariants hw with rfl | rfl
    · exact ⟨_, rfl⟩
    · exact ⟨_, htypes⟩
  · intro w hw hne c htakes
    rcases hvariants hw with rfl | rfl
    · exact hne rfl
    · have hcost := cost?_eq_some_iff.1 (takes_iff_cost?.1 htakes).2
      rw [hframes] at hcost
      cases hcost
  · have hcompares : ¬ r.Compares set [.scalar .int] := by
      intro hcompares
      obtain ⟨c, hc⟩ := hcompares frames (List.mem_cons_of_mem _ List.mem_cons_self) rfl
      rw [hframes] at hc
      cases hc
    rw [select_error_iff_of_not_compares hcompares]
    have hbefore : ∀ x ∈ [int], ∃ c, r.price [.scalar .int] x = .ok c := by
      simpa using ⟨_, hint⟩
    exact ⟨[int], frames, [], rfl, hbefore, hframes⟩

end Resolver

end HostCall
