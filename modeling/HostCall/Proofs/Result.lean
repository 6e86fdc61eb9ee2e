import HostCall.Invoke

/-!
# Results of computations

What is known of a chain of computations from its result.  `Result` treats computations that may
fail, and `BridgeM` those that have the heap as well: a chain of these runs its second part on the
heap that the first one leaves.
-/

namespace HostCall

namespace Result

variable {ε ε' α β : Type}

/-- Behind a success a chain is its second part. -/
theorem ok_bind (a : α) (f : α → Except ε β) : (Except.ok a : Except ε α) >>= f = f a := rfl

/-- A chain succeeds when both of its parts do. -/
theorem bind_eq_ok_iff {x : Except ε α} {f : α → Except ε β} {b : β} :
    x >>= f = .ok b ↔ ∃ a, x = .ok a ∧ f a = .ok b := by
  cases x with
  | error e => simp [bind, Except.bind]
  | ok a => simp [bind, Except.bind]

/-- A chain fails with the failure of its first part, or of the second behind a success. -/
theorem bind_eq_error_iff {x : Except ε α} {f : α → Except ε β} {e : ε} :
    x >>= f = .error e ↔ x = .error e ∨ ∃ a, x = .ok a ∧ f a = .error e := by
  cases x with
  | error e' => simp [bind, Except.bind]
  | ok a => simp [bind, Except.bind]

@[simp] theorem mapError_ok (g : ε → ε') (a : α) :
    (Except.ok a : Except ε α).mapError g = .ok a := rfl

@[simp] theorem mapError_error (g : ε → ε') (e : ε) :
    (Except.error e : Except ε α).mapError g = .error (g e) := rfl

@[simp] theorem mapError_eq_ok_iff {x : Except ε α} {g : ε → ε'} {a : α} :
    x.mapError g = .ok a ↔ x = .ok a := by
  cases x <;> simp

@[simp] theorem mapError_eq_error_iff {x : Except ε α} {g : ε → ε'} {e : ε'} :
    x.mapError g = .error e ↔ ∃ e', x = .error e' ∧ g e' = e := by
  cases x <;> simp

@[simp] theorem map_eq_ok_iff {x : Except ε α} {g : α → β} {b : β} :
    x.map g = .ok b ↔ ∃ a, x = .ok a ∧ g a = b := by
  cases x <;> simp [Except.map]

@[simp] theorem map_eq_error_iff {x : Except ε α} {g : α → β} {e : ε} :
    x.map g = .error e ↔ x = .error e := by
  cases x <;> simp [Except.map]

@[simp] theorem pure_eq_ok_iff {a b : α} : (pure a : Except ε α) = .ok b ↔ a = b := by
  simp [pure, Except.pure]

@[simp] theorem throw_eq_error (e : ε) : (throw e : Except ε α) = .error e := rfl

theorem toOption_eq_some_iff {x : Except ε α} {a : α} : x.toOption = some a ↔ x = .ok a := by
  cases x <;> simp [Except.toOption]

theorem length_of_mapM {f : α → Except ε β} {as : List α} {bs : List β}
    (h : as.mapM f = .ok bs) : bs.length = as.length := by
  induction as generalizing bs with
  | nil =>
    cases h
    rfl
  | cons a as ih =>
    rw [List.mapM_cons] at h
    obtain ⟨b, -, h⟩ := bind_eq_ok_iff.1 h
    obtain ⟨bs', hbs, h⟩ := bind_eq_ok_iff.1 h
    cases h
    rw [List.length_cons, List.length_cons, ih hbs]

/-- What fails for a list fails for one of its elements. -/
theorem exists_of_mapM_eq_error {f : α → Except ε β} {as : List α} {e : ε}
    (h : as.mapM f = .error e) : ∃ a ∈ as, f a = .error e := by
  induction as with
  | nil => cases h
  | cons a as ih =>
    rw [List.mapM_cons] at h
    rcases bind_eq_error_iff.1 h with ha | ⟨b, -, h⟩
    · exact ⟨a, List.mem_cons_self, ha⟩
    · rcases bind_eq_error_iff.1 h with has | ⟨bs, -, h⟩
      · obtain ⟨a', ha', he⟩ := ih has
        exact ⟨a', List.mem_cons_of_mem a ha', he⟩
      · cases h

theorem mapM_eq_ok_map {f : α → Except ε β} {g : α → β} {as : List α}
    (h : ∀ a ∈ as, f a = .ok (g a)) : as.mapM f = .ok (as.map g) := by
  induction as with
  | nil => rfl
  | cons a as ih =>
    obtain ⟨ha, has⟩ := List.forall_mem_cons.1 h
    rw [List.mapM_cons, ha, ih has]
    rfl

end Result

namespace BridgeM

variable {α β : Type}

/-- A chain runs its second part on the heap that the first one leaves. -/
theorem bind_apply (m : BridgeM α) (f : α → BridgeM β) (h : Heap) :
    (m >>= f) h = match m h with
      | (.ok a, h') => f a h'
      | (.error e, h') => (.error e, h') := by
  show (ExceptT.bindCont f) (m h).1 (m h).2 = _
  obtain ⟨r, h'⟩ := m h
  cases r <;> rfl

/-- Behind a success a chain is its second part. -/
theorem bind_of_ok {m : BridgeM α} {f : α → BridgeM β} {h h' : Heap} {a : α}
    (hm : m h = (.ok a, h')) : (m >>= f) h = f a h' := by
  rw [bind_apply, hm]

theorem bind_eq_ok_iff {m : BridgeM α} {f : α → BridgeM β} {h h'' : Heap} {b : β} :
    (m >>= f) h = (.ok b, h'') ↔ ∃ a h', m h = (.ok a, h') ∧ f a h' = (.ok b, h'') := by
  rw [bind_apply]
  obtain ⟨r, h'⟩ := m h
  cases r with
  | error e =>
    constructor
    · intro hr
      cases hr
    · rintro ⟨_, _, hr, -⟩
      cases hr
  | ok a =>
    constructor
    · intro hr
      exact ⟨a, h', rfl, hr⟩
    · rintro ⟨_, _, hr, hf⟩
      cases hr
      exact hf

theorem bind_eq_error_iff {m : BridgeM α} {f : α → BridgeM β} {h h'' : Heap} {e : Failure} :
    (m >>= f) h = (.error e, h'') ↔
      m h = (.error e, h'') ∨ ∃ a h', m h = (.ok a, h') ∧ f a h' = (.error e, h'') := by
  rw [bind_apply]
  obtain ⟨r, h'⟩ := m h
  cases r with
  | error e' =>
    constructor
    · intro hr
      cases hr
      exact .inl rfl
    · rintro (hr | ⟨_, _, hr, -⟩)
      · cases hr
        rfl
      · cases hr
  | ok a =>
    constructor
    · intro hr
      exact .inr ⟨a, h', rfl, hr⟩
    · rintro (hr | ⟨_, _, hr, hf⟩)
      · cases hr
      · cases hr
        exact hf

@[simp] theorem ofExcept_apply (r : Except Failure α) (h : Heap) : ofExcept r h = (r, h) := rfl

theorem ofExcept_eq_ok_iff {r : Except Failure α} {h h' : Heap} {a : α} :
    ofExcept r h = (.ok a, h') ↔ r = .ok a ∧ h = h' := by
  rw [ofExcept_apply, Prod.mk.injEq]

/-- A chain that leaves the heap alone is a chain over the heap. -/
theorem ofExcept_bind (x : Except Failure α) (f : α → Except Failure β) :
    ofExcept (x >>= f) = ofExcept x >>= fun a => ofExcept (f a) := by
  cases x <;> rfl

@[simp] theorem fail_apply (e : BridgeError) (h : Heap) :
    (fail e : BridgeM α) h = (.error (.bridge e), h) := rfl

end BridgeM

end HostCall
