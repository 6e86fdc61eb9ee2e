import HostCall.Proofs.CheapestVariant
import HostCall.Proofs.Resolution

/-!
# Exact matches

A conversion is free only between equal types (`conversionCost_eq_zero_iff`), so a variant costs
nothing exactly when its types are those supplied (`takes_zero_iff`).  Two things stand between such
a variant and its selection.  Another variant may have the same types, since types are coarser than
descriptors: all arrays but the plain ones of scalars are lists.  And the costs of all variants with
as many parameters are found before any are compared, so one that does not resolve, or names a class
that fails when it is asked what is below it, ends the selection.

Main statements, `select_own_types`: the types of a variant select it when no other variant of the
set has them, and are ambiguous when one has; and `select_exact_iff`: the only match is selected
when the costs of all variants with as many parameters can be found, and else the first failure to
find one is what comes out.
-/

namespace HostCall

open Result Descriptor

/-! ## Free conversions -/

theorem Universe.idxOf?_lineage_ne_zero (u : Universe) {s d : HostType} (hne : s ≠ d) :
    (u.lineage s).idxOf? d ≠ some 0 := by
  obtain ⟨bases, hbases⟩ := List.head?_eq_some_iff.1 (u.head?_lineage s)
  rw [hbases, List.idxOf?_cons, if_neg (by simpa using hne)]
  cases bases.idxOf? d <;> simp

/-- Only an argument of the declared type itself costs nothing. -/
theorem conversionCost_eq_zero_iff {u : Universe} {s d : HostType} :
    conversionCost u s d = .ok (some 0) ↔ s = d := by
  constructor
  · intro h
    by_contra hne
    rw [conversionCost, if_neg hne] at h
    split at h
    · cases h
    · split at h
      · cases h
      · split at h
        · cases h
        · split at h
          · cases h
          -- a base is reached in one step or more
          · obtain ⟨below, -, h⟩ := map_eq_ok_iff.1 h
            cases below with
            | false => cases h
            | true =>
              have hbase := u.idxOf?_lineage_ne_zero hne
              cases hi : (u.lineage s).idxOf? d with
              | none =>
                rw [hi] at h
                cases h
              | some i =>
                rw [hi] at h hbase
                exact hbase h
  · intro heq
    rw [conversionCost, if_pos heq]

theorem Resolver.totalCost_eq_zero_iff {u : Universe} {ss ds : List HostType}
    (hlen : ss.length = ds.length) : totalCost u ss ds = .ok (some 0) ↔ ss = ds := by
  induction ss generalizing ds with
  | nil =>
    rw [List.eq_nil_of_length_eq_zero hlen.symm]
    exact ⟨fun _ => rfl, fun _ => rfl⟩
  | cons s ss ih =>
    obtain - | ⟨d, ds⟩ := ds
    · cases hlen
    have hrest := ih (Nat.succ.inj hlen)
    rw [List.cons.injEq, ← hrest, ← conversionCost_eq_zero_iff (u := u), totalCost_cons,
      bind_eq_ok_iff]
    constructor
    · rintro ⟨cost, hcost, hsum⟩
      cases cost with
      | none => cases hsum
      | some c =>
        obtain ⟨total, htotal, hsum⟩ := map_eq_ok_iff.1 hsum
        obtain ⟨n, rfl, hn⟩ := Option.map_eq_some_iff.1 hsum
        obtain ⟨rfl, rfl⟩ := Nat.add_eq_zero_iff.1 hn
        exact ⟨hcost, htotal⟩
    · rintro ⟨hcost, htotal⟩
      refine ⟨some 0, hcost, ?_⟩
      show (totalCost u ss ds).map _ = _
      rw [htotal]
      rfl

namespace Resolver

variable {r : Resolver} {α : Type} {supplied : List HostType} {set : OverloadSet α} {owner : Text}
  {v : Overload α}

/-- A variant takes for free what its own types are. -/
theorem takes_zero_iff : r.Takes supplied v 0 ↔ r.variantTypes v = .ok supplied := by
  rw [takes_iff_cost?, cost?_eq_some_iff, price_eq_some_iff]
  constructor
  · rintro ⟨harity, declared, htypes, hcost⟩
    have hlen : supplied.length = declared.length := by
      rw [length_variantTypes htypes, harity]
    rw [htypes, (totalCost_eq_zero_iff hlen).1 hcost]
  · intro htypes
    exact ⟨(length_variantTypes htypes).symm, supplied, htypes, (totalCost_eq_zero_iff rfl).2 rfl⟩

/-! ## Matches and ties -/

/-- The only variant with the supplied types is the least. -/
theorem least_of_exact (hset : set.Built) (hv : v ∈ set.variants)
    (hexact : r.variantTypes v = .ok supplied)
    (honly : ∀ w ∈ set.variants, w ≠ v → r.variantTypes w ≠ .ok supplied) :
    Least (r.scores set supplied) (0, v) := by
  rw [least_scores_iff hset.nodup]
  refine ⟨hv, takes_zero_iff.2 hexact, fun w hw hne d hd => Nat.pos_of_ne_zero ?_⟩
  rintro rfl
  exact honly w hw hne (takes_zero_iff.1 hd)

/-- Two variants with the supplied types leave none to select. -/
theorem select_of_two_exact {w : Overload α} (hcompares : r.Compares set supplied)
    (hv : v ∈ set.variants) (hw : w ∈ set.variants) (hne : w ≠ v)
    (hvexact : r.variantTypes v = .ok supplied) (hwexact : r.variantTypes w = .ok supplied) :
    r.select set supplied owner =
      .error (.bridge (.lookup (.ambiguous (Text.concat [owner, ".", set.name])))) := by
  have hvscore : (0, v) ∈ r.scores set supplied := mem_scores_iff.2 ⟨hv, takes_zero_iff.2 hvexact⟩
  have hwscore : (0, w) ∈ r.scores set supplied := mem_scores_iff.2 ⟨hw, takes_zero_iff.2 hwexact⟩
  rw [select_of_compares hcompares]
  cases hbest : cheapest (r.scores set supplied) with
  | none =>
    rw [cheapest_eq_none_iff.1 hbest] at hvscore
    cases hvscore
  | some best =>
    obtain ⟨c, x, tie⟩ := best
    cases tie with
    | true => rfl
    | false =>
      -- the least would be both of them
      have hleast := cheapest_eq_iff_least.1 hbest
      have heq : ∀ y, (0, y) ∈ r.scores set supplied → (0, y) = (c, x) := by
        intro y hy
        by_contra hother
        exact Nat.not_lt_zero _ (hleast.lt_of_ne hy hother)
      have hwv := (heq w hwscore).trans (heq v hvscore).symm
      exact absurd (Prod.mk.inj hwv).2 hne

/-- **A variant is called by its own types unless it shares them.**  In a set whose descriptors all
resolve, and where no class fails that is asked what is below it, the types of a variant select it
where no other variant has the same types; where one has, the call is ambiguous. -/
theorem select_own_types (r : Resolver) {set : OverloadSet α} (hset : set.Built) (owner : Text)
    (hall : ∀ w ∈ set.variants, ∃ ts, r.variantTypes w = .ok ts) {v : Overload α}
    (hv : v ∈ set.variants) {ts : List HostType} (hts : r.variantTypes v = .ok ts)
    (hanswers : ∀ w ∈ set.variants, w.descriptors.length = ts.length →
      ∀ declared, r.variantTypes w = .ok declared → ∃ c, totalCost r.world ts declared = .ok c) :
    ((∀ w ∈ set.variants, w ≠ v → r.variantTypes w ≠ .ok ts) →
      r.select set ts owner = .ok v) ∧
    ((∃ w ∈ set.variants, w ≠ v ∧ r.variantTypes w = .ok ts) →
      r.select set ts owner =
        .error (.bridge (.lookup (.ambiguous (Text.concat [owner, ".", set.name]))))) := by
  have hcompares : r.Compares set ts := by
    intro w hw harity
    obtain ⟨declared, hdeclared⟩ := hall w hw
    obtain ⟨c, hc⟩ := hanswers w hw harity declared hdeclared
    rw [price_of_resolves hdeclared, hc]
    exact ⟨c, rfl⟩
  constructor
  · intro honly
    exact (select_eq_ok_iff hcompares).2 ⟨0, least_of_exact hset hv hts honly⟩
  · rintro ⟨w, hw, hne, hwts⟩
    exact select_of_two_exact hcompares hv hw hne hts hwts

/-- An integer selects the variant for integers, though both others could take it. -/
theorem select_own_scalar :
    let int : Overload Unit := ⟨["I"], ()⟩
    let set : OverloadSet Unit := ⟨"f", [⟨["J"], ()⟩, int, ⟨["F"], ()⟩]⟩
    let r : Resolver := ⟨{}, {}, {}⟩
    set.Built ∧ int ∈ set.variants ∧ r.variantTypes int = .ok [.scalar .int] ∧
      r.select set [.scalar .int] "C" = .ok int := by
  intro int set r
  have hset : set.Built := OverloadSet.built_of_distinct (by decide)
  have hint : int ∈ set.variants := by simp [set]
  have hall : ∀ w ∈ set.variants, ∃ ts, r.variantTypes w = .ok ts := by
    intro w hw
    simp only [set, List.mem_cons, List.not_mem_nil, or_false] at hw
    rcases hw with rfl | rfl | rfl
    · exact ⟨_, rfl⟩
    · exact ⟨_, rfl⟩
    · exact ⟨_, rfl⟩
  have htypes : r.variantTypes int = .ok [.scalar .int] := rfl
  have hanswers : ∀ w ∈ set.variants, w.descriptors.length = 1 → ∀ declared,
      r.variantTypes w = .ok declared → ∃ c, totalCost r.world [.scalar .int] declared = .ok c := by
    intro w hw _ declared hdeclared
    simp only [set, List.mem_cons, List.not_mem_nil, or_false] at hw
    rcases hw with rfl | rfl | rfl
    · cases hdeclared
      exact ⟨_, rfl⟩
    · cases hdeclared
      exact ⟨_, rfl⟩
    · cases hdeclared
      exact ⟨_, rfl⟩
  refine ⟨hset, hint, htypes, (select_own_types r hset "C" hall hint htypes hanswers).1 ?_⟩
  intro w hw hne
  simp only [set, List.mem_cons, List.not_mem_nil, or_false] at hw
  rcases hw with rfl | rfl | rfl
  · intro h
    cases h
  · exact absurd rfl hne
  · intro h
    cases h

/-- Arrays of arrays are lists whatever they hold, so neither of two variants that differ in this
alone is called by its own types. -/
theorem select_own_lists_ambiguous :
    let ints : Overload Unit := ⟨["[[I"], ()⟩
    let longs : Overload Unit := ⟨["[[J"], ()⟩
    let set : OverloadSet Unit := ⟨"f", [ints, longs]⟩
    let r : Resolver := ⟨{}, {}, {}⟩
    set.Built ∧ (∀ w ∈ set.variants, ∃ ts, r.variantTypes w = .ok ts) ∧ ints ∈ set.variants ∧
      r.variantTypes ints = .ok [.list] ∧
      r.select set [.list] "a.B" = .error (.bridge (.lookup (.ambiguous "a.B.f"))) := by
  intro ints longs set r
  have hset : set.Built := OverloadSet.built_of_distinct (by decide)
  have hlists : ∀ k : Kind, r.variantTypes (⟨[brackets 2 ++ [k.letter]], ()⟩ : Overload Unit) =
      .ok [.list] := by
    intro k
    rw [variantTypes_singleton, typeOfDescriptor_nested (n := 0) k (by decide) rfl]
    rfl
  have hints : r.variantTypes ints = .ok [.list] := hlists .int
  have hlongs : r.variantTypes longs = .ok [.list] := hlists .long
  have hall : ∀ w ∈ set.variants, ∃ ts, r.variantTypes w = .ok ts := by
    intro w hw
    simp only [set, List.mem_cons, List.not_mem_nil, or_false] at hw
    rcases hw with rfl | rfl
    · exact ⟨_, hints⟩
    · exact ⟨_, hlongs⟩
  refine ⟨hset, hall, List.mem_cons_self, hints, ?_⟩
  have hcompares : r.Compares set [.list] := by
    intro w hw _
    simp only [set, List.mem_cons, List.not_mem_nil, or_false] at hw
    rcases hw with rfl | rfl
    · rw [price_of_resolves hints]
      exact ⟨_, rfl⟩
    · rw [price_of_resolves hlongs]
      exact ⟨_, rfl⟩
  exact select_of_two_exact hcompares List.mem_cons_self
    (List.mem_cons_of_mem _ List.mem_cons_self) (by simp [ints, longs]; decide) hints hlongs

/-! ## Siblings of an exact match -/

/-- **An exact match is selected where the costs of its siblings can be found.**  The only variant
whose types are those supplied is selected exactly when every variant with as many parameters
resolves and no class fails that is asked what is below it; else the selection fails as the first of
these variants does. -/
theorem select_exact_iff (r : Resolver) {set : OverloadSet α} (hset : set.Built)
    (supplied : List HostType) (owner : Text) {v : Overload α} (hv : v ∈ set.variants)
    (hexact : r.variantTypes v = .ok supplied)
    (honly : ∀ w ∈ set.variants, w ≠ v → r.variantTypes w ≠ .ok supplied) :
    (r.select set supplied owner = .ok v ↔ r.Compares set supplied) ∧
    ∀ e, r.select set supplied owner = .error e ↔
      ∃ before w after, set.candidates supplied.length = before ++ w :: after ∧
        (∀ x ∈ before, ∃ c, r.price supplied x = .ok c) ∧ r.price supplied w = .error e := by
  by_cases hcompares : r.Compares set supplied
  · have hselect : r.select set supplied owner = .ok v :=
      (select_eq_ok_iff hcompares).2 ⟨0, least_of_exact hset hv hexact honly⟩
    rw [hselect]
    refine ⟨iff_of_true rfl hcompares, fun e => iff_of_false (by simp) ?_⟩
    rw [← scored_eq_error_iff, scored_of_priced (compares_iff_candidates.1 hcompares)]
    simp
  · refine ⟨iff_of_false (fun h => hcompares (compares_of_select h)) hcompares, fun e => ?_⟩
    exact select_error_iff_of_not_compares hcompares

/-- Among variants for scalars an exact match is selected. -/
theorem select_exact_long :
    let long : Overload Unit := ⟨["J"], ()⟩
    let set : OverloadSet Unit := ⟨"f", [⟨["I"], ()⟩, long]⟩
    let r : Resolver := ⟨{}, {}, {}⟩
    set.Built ∧ long ∈ set.variants ∧ r.variantTypes long = .ok [.scalar .long] ∧
      r.Compares set [.scalar .long] ∧ r.select set [.scalar .long] "C" = .ok long := by
  intro long set r
  have hset : set.Built := OverloadSet.built_of_distinct (by decide)
  have hlong : long ∈ set.variants := List.mem_cons_of_mem _ List.mem_cons_self
  have htypes : r.variantTypes long = .ok [.scalar .long] := rfl
  have hcompares : r.Compares set [.scalar .long] := by
    intro w hw _
    simp only [set, List.mem_cons, List.not_mem_nil, or_false] at hw
    rcases hw with rfl | rfl
    · exact ⟨_, rfl⟩
    · exact ⟨_, rfl⟩
  refine ⟨hset, hlong, htypes, hcompares,
    (select_exact_iff r hset _ "C" hlong htypes ?_).1.2 hcompares⟩
  intro w hw hne
  simp only [set, List.mem_cons, List.not_mem_nil, or_false] at hw
  rcases hw with rfl | rfl
  · intro h
    cases h
  · exact absurd rfl hne

/-- A variant for a class that is not found ends the selection, though another one has the types
supplied. -/
theorem select_exact_beside_missing :
    let int : Overload Unit := ⟨["I"], ()⟩
    let missing : Overload Unit := ⟨["Lcom/example/Missing;"], ()⟩
    let set : OverloadSet Unit := ⟨"f", [int, missing]⟩
    let r : Resolver := ⟨{}, {}, {}⟩
    set.Built ∧ int ∈ set.variants ∧ r.variantTypes int = .ok [.scalar .int] ∧
      (∀ w ∈ set.variants, w ≠ int → r.variantTypes w ≠ .ok [.scalar .int]) ∧
      r.select set [.scalar .int] "a.B" =
        .error (.bridge (.resolution (.classNotFound "com.example.Missing"))) := by
  intro int missing set r
  have hset : set.Built := OverloadSet.built_of_distinct (by decide)
  have hmissing : r.variantTypes missing =
      .error (.bridge (.resolution (.classNotFound "com.example.Missing"))) := by
    have hclass : r.resolveClass "com.example.Missing" =
        .error (.bridge (.resolution (.classNotFound "com.example.Missing"))) := by
      rw [resolveClass_eq]
      rfl
    have htype : r.typeOfDescriptor "Lcom/example/Missing;" =
        r.resolveClass "com.example.Missing" >>= fun c => pure c.hostType := rfl
    rw [variantTypes_singleton, htype, hclass]
    rfl
  refine ⟨hset, List.mem_cons_self, rfl, ?_, ?_⟩
  · intro w hw hne
    simp only [set, List.mem_cons, List.not_mem_nil, or_false] at hw
    rcases hw with rfl | rfl
    · exact absurd rfl hne
    · rw [hmissing]
      intro h
      cases h
  · have hprice : r.price [.scalar .int] missing =
        .error (.bridge (.resolution (.classNotFound "com.example.Missing"))) := by
      rw [price, hmissing]
      rfl
    have hscored : r.scored [.scalar .int] (set.candidates 1) =
        .error (.bridge (.resolution (.classNotFound "com.example.Missing"))) := by
      have hbefore : ∀ x ∈ [int], ∃ c, r.price [.scalar .int] x = .ok c := by
        simpa using ⟨some 0, rfl⟩
      exact scored_eq_error_iff.2 ⟨[int], missing, [], rfl, hbefore, hprice⟩
    show (r.scored [.scalar .int] (set.candidates 1) >>= _) = _
    rw [hscored]
    rfl

end Resolver

end HostCall
