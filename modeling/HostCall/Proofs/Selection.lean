import HostCall.Proofs.Result

/-!
# The selected variant

`Resolver.select` scores the variants that have as many parameters as there are arguments and picks
the cheapest.  Whatever it picks is one of the set, and has that many parameters
(`mem_of_select`).
-/

namespace HostCall

open Result

namespace Resolver

variable {r : Resolver} {α : Type}

theorem mem_of_cheapest {l : List (Nat × Overload α)} {c : Nat} {v : Overload α} {tie : Bool}
    (h : cheapest l = some (c, v, tie)) : (c, v) ∈ l := by
  induction l generalizing c v tie with
  | nil => cases h
  | cons e l ih =>
    obtain ⟨d, w⟩ := e
    unfold cheapest at h
    split at h
    · cases h
      exact List.mem_cons_self
    · rename_i hrest
      split at h
      · cases h
        exact List.mem_cons_self
      · split at h
        · cases h
          exact List.mem_cons_self
        · cases h
          exact List.mem_cons_of_mem _ (ih hrest)

theorem mem_of_scored {supplied : List HostType} {vs : List (Overload α)}
    {l : List (Nat × Overload α)} (h : r.scored supplied vs = .ok l) :
    ∀ e ∈ l, e.2 ∈ vs := by
  induction vs generalizing l with
  | nil =>
    cases h
    exact fun e he => absurd he List.not_mem_nil
  | cons v vs ih =>
    obtain ⟨cost, -, h⟩ := bind_eq_ok_iff.1 h
    obtain ⟨rest, hrest, h⟩ := bind_eq_ok_iff.1 h
    have hmem : ∀ e ∈ rest, e.2 ∈ v :: vs := fun e he => List.mem_cons_of_mem v (ih hrest e he)
    split at h
    · cases h
      intro e he
      rcases List.mem_cons.1 he with rfl | he
      · exact List.mem_cons_self
      · exact hmem e he
    · cases h
      exact hmem

/-- A selected variant is one of the set and has a parameter for each argument. -/
theorem mem_of_select {set : OverloadSet α} {supplied : List HostType} {owner : Text}
    {v : Overload α} (h : r.select set supplied owner = .ok v) :
    v ∈ set.variants ∧ v.descriptors.length = supplied.length := by
  obtain ⟨l, hl, h⟩ := bind_eq_ok_iff.1 h
  split at h
  · cases h
  · cases h
  · rename_i hbest
    cases h
    have hv := mem_of_scored hl _ (mem_of_cheapest hbest)
    simpa [OverloadSet.candidates] using hv

end Resolver

end HostCall
