import HostCall.Registry

/-!
# Which registry a decoration reaches

A class of members is decorated for a registry, but a registry without names counts as none given,
and the entry then goes to the default registry.  Whether it has names depends on all that was done
to it before: `act` is one step, `after` a row of them from a registry that is fresh.

Main statement, `decorate_after`: a decoration reaches the registry that it is told to, and leaves
the default one alone, exactly when some name was registered there by a direct call before.
-/

namespace HostCall

namespace Registry

/-- What is done to a registry. -/
inductive Action where
  | register (name : Text) (hostType : HostType) (members : Option HostType)
  | decorate (name : Text) (hostType : Option HostType) (members : HostType)

def Action.isRegister : Action → Bool
  | .register .. => true
  | .decorate .. => false

/-- A registry and the default one after an action on the first. -/
def act : Registry × Registry → Action → Registry × Registry
  | (r, default), .register name t members => ((r.register name t members).2, default)
  | (r, default), .decorate name t members => r.decorate default name t members

/-- A registry that was fresh, and the default one, after some actions on the first. -/
def after (default : Registry) (actions : List Action) : Registry × Registry :=
  actions.foldl act ({}, default)

/-! ## Decorations of an empty registry -/

theorem decorate_empty (default : Registry) (name : Text) (t : Option HostType)
    (members : HostType) :
    decorate {} default name t members = ({}, default.add ⟨name, t.getD members, members⟩) := rfl

theorem decorate_of_size_pos {r : Registry} (hr : 0 < r.size) (default : Registry) (name : Text)
    (t : Option HostType) (members : HostType) :
    r.decorate default name t members = (r.add ⟨name, t.getD members, members⟩, default) := by
  rw [decorate, if_neg (Nat.ne_of_gt hr)]

/-! ## Sizes -/

theorem length_put_pos {κ ν : Type} [BEq κ] (key : κ) (value : ν) (l : List (κ × ν)) :
    0 < (put key value l).length := by
  cases l with
  | nil => exact Nat.one_pos
  | cons e rest =>
    unfold put
    split <;> exact Nat.succ_pos _

theorem size_add_pos (r : Registry) (e : HostClass) : 0 < (r.add e).size :=
  length_put_pos _ _ _

/-- A registry that has names keeps some whatever is done. -/
theorem size_act_pos {s : Registry × Registry} (h : 0 < s.1.size) (a : Action) :
    0 < (act s a).1.size := by
  obtain ⟨r, default⟩ := s
  cases a with
  | register name t members => exact size_add_pos _ _
  | decorate name t members =>
    rw [act, decorate_of_size_pos h]
    exact size_add_pos _ _

theorem size_foldl_act_pos {s : Registry × Registry} (h : 0 < s.1.size) (actions : List Action) :
    0 < (actions.foldl act s).1.size := by
  induction actions generalizing s with
  | nil => exact h
  | cons a actions ih => exact ih (size_act_pos h a)

/-- Decorations alone leave a fresh registry fresh. -/
theorem after_of_no_register {actions : List Action} (h : ∀ a ∈ actions, a.isRegister = false)
    (default : Registry) : (after default actions).1 = {} := by
  induction actions generalizing default with
  | nil => rfl
  | cons a actions ih =>
    obtain ⟨ha, hrest⟩ := List.forall_mem_cons.1 h
    cases a with
    | register name t members => cases ha
    | decorate name t members => exact ih hrest _

theorem size_after_pos {actions : List Action} (h : ∃ a ∈ actions, a.isRegister = true)
    (default : Registry) : 0 < (after default actions).1.size := by
  induction actions generalizing default with
  | nil =>
    obtain ⟨a, ha, -⟩ := h
    cases ha
  | cons a actions ih =>
    cases a with
    | register name t members => exact size_foldl_act_pos (size_add_pos _ _) actions
    | decorate name t members =>
      obtain ⟨b, hb, hregister⟩ := h
      cases hb with
      | head => cases hregister
      | tail _ hb => exact ih ⟨b, hb, hregister⟩ _

/-- **A decoration needs a registration before it.**  After any row of actions on a fresh registry,
a decoration makes its entry what the registry has under the name, and leaves the default one as it
was, exactly when one of the actions was a registration.  When none was, the registry stays empty,
and the default one receives the entry in its place. -/
theorem decorate_after (default : Registry) (actions : List Action) (name : Text)
    (t : Option HostType) (members : HostType) :
    let before := after default actions
    let entry : HostClass := ⟨name, t.getD members, members⟩
    let decorated := before.1.decorate before.2 name t members
    ((decorated.1.lookup name = some entry ∧ decorated.2 = before.2) ↔
        ∃ a ∈ actions, a.isRegister = true) ∧
      ((∀ a ∈ actions, a.isRegister = false) →
        decorated = ({}, before.2.add entry) ∧ decorated.2.lookup name = some entry) := by
  intro before entry decorated
  have hempty (hnone : ∀ a ∈ actions, a.isRegister = false) :
      decorated = ({}, before.2.add entry) := by
    have hbefore : before.1 = {} := after_of_no_register hnone default
    change before.1.decorate before.2 name t members = _
    rw [hbefore, decorate_empty]
  refine ⟨⟨?_, ?_⟩, ?_⟩
  · rintro ⟨hlookup, -⟩
    refine Classical.byContradiction fun hnot => ?_
    have hnone : ∀ a ∈ actions, a.isRegister = false := by
      intro a ha
      exact Bool.eq_false_iff.2 fun hregister => hnot ⟨a, ha, hregister⟩
    rw [hempty hnone] at hlookup
    cases hlookup
  · intro hsome
    have hdecorated : decorated = (before.1.add entry, before.2) :=
      decorate_of_size_pos (size_after_pos hsome default) _ _ _ _
    rw [hdecorated]
    exact ⟨by rw [lookup_add, if_pos (beq_self_eq_true name)], rfl⟩
  · intro hnone
    rw [hempty hnone]
    exact ⟨rfl, by rw [lookup_add, if_pos (beq_self_eq_true name)]⟩

/-- The first decoration of a fresh registry goes to the default one. -/
theorem decorate_fresh :
    let members : HostType := .declared ⟨"tests.fixtures", "Foo"⟩
    let before := after {} []
    let decorated := before.1.decorate before.2 "z.Z" none members
    decorated.1.lookup "z.Z" = none ∧ before.2.lookup "z.Z" = none ∧
      decorated.2.lookup "z.Z" = some ⟨"z.Z", members, members⟩ := by
  decide

end Registry

end HostCall
