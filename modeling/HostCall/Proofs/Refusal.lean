import HostCall.Proofs.Commit
import HostCall.Proofs.HostCode

/-!
# Refused calls

A call that speaks of a denied class, as its owner or as a parameter, fails before its member is
looked for, so the only refused call that is prepared is one of a private name
(`private_of_prepare`), and that one fails as soon as it is planned.  In all cases the dispatch goes
the same way whatever code the host has (`attempt_withCode`), and ends on the heap on which it
began.

Main statement, `untouched_of_refused`: a refused call is not planned and runs nothing, and all that
it leaves is an unknown value where a value is due, or not even that where the logging raises.
-/

namespace HostCall

open Result

/-! ## Why a call is refused -/

/-- A call that must not be made: its owner, or a class that one of its parameters speaks of, is
denied, or its name is private. -/
inductive Reflector.Refused (r : Reflector) : Prop
  | owner {c : Text} (names : NamesClass r.signature.ownerName c)
    (denied : c ∈ r.resolver.settings.deniedTypes)
  | parameter {d c : Text} (declared : ValueType.reference d ∈ r.signature.parameters)
    (names : NamesClass (binaryName d) c) (denied : c ∈ r.resolver.settings.deniedTypes)
  | privateName (hidden : Text.startsWith "_" r.signature.name = true)

section

variable {σ : Type} [RegisterFile σ] {h : Heap} {frame : σ}

theorem hostType_of_marshalFrom {r : Resolver} {count place register : Nat} {ps : List ValueType}
    {a : Arguments} (hread : marshalFrom r h frame count place register ps = .ok a) :
    ∀ p ∈ ps, ∃ t, r.hostType p = .ok t := by
  induction ps generalizing place register a with
  | nil => exact fun p hp => absurd hp List.not_mem_nil
  | cons p ps ih =>
    rw [marshalFrom_cons] at hread
    split at hread
    · cases hread
    · obtain ⟨c, -, hread⟩ := bind_eq_ok_iff.1 hread
      obtain ⟨v, -, hread⟩ := bind_eq_ok_iff.1 hread
      obtain ⟨t, ht, hread⟩ := bind_eq_ok_iff.1 hread
      obtain ⟨rest, hrest, -⟩ := bind_eq_ok_iff.1 hread
      intro q hq
      rcases List.mem_cons.1 hq with rfl | hq
      · exact ⟨t, ht⟩
      · exact ih hrest q hq

/-- Arguments are read only where all parameters have a host type. -/
theorem hostType_of_marshal {r : Resolver} {s : Signature} {a : Arguments}
    (hread : marshal r h frame s = .ok a) : ∀ p ∈ s.parameters, ∃ t, r.hostType p = .ok t := by
  obtain ⟨count, hcount, -⟩ := bind_eq_ok_iff.1 hread
  rw [marshal_of_count (mapError_eq_ok_iff.1 hcount)] at hread
  split at hread
  · cases hread
  · exact hostType_of_marshalFrom hread

namespace Reflector

/-- A refused call that is prepared can only be one of a private name. -/
theorem private_of_prepare {r : Reflector} (hrefused : r.Refused) {owner : HostClass}
    {args : Arguments} (hprepare : r.prepare h frame = .ok (owner, args)) :
    Text.startsWith "_" r.signature.name = true := by
  obtain ⟨owner', howner, hargs⟩ := bind_eq_ok_iff.1 hprepare
  obtain ⟨args', hargs, -⟩ := bind_eq_ok_iff.1 hargs
  cases hrefused with
  | owner names denied =>
    obtain ⟨d, hd⟩ := Resolver.resolveClass_of_denied names denied
    rw [hd] at howner
    cases howner
  | parameter declared names denied =>
    obtain ⟨t, ht⟩ := hostType_of_marshal hargs _ declared
    obtain ⟨c, hc, -⟩ := bind_eq_ok_iff.1 ht
    obtain ⟨d, hd⟩ := Resolver.resolveClass_of_denied names denied
    rw [hd] at hc
    cases hc
  | privateName hidden => exact hidden

/-! ## The course of a refused call -/

theorem isConstructor_of_private {s : Signature} (hidden : Text.startsWith "_" s.name = true) :
    s.isConstructor = false := by
  by_contra hc
  rw [Bool.not_eq_false, Signature.isConstructor, beq_iff_eq] at hc
  rw [hc] at hidden
  exact absurd hidden (by decide)

theorem alike_withCode (g : Callable → Callable) (r : Reflector) :
    r.resolver.Alike (r.withCode g).resolver :=
  ⟨r.resolver.world.alike_withCode g, rfl, rfl⟩

/-- A refused call is not planned. -/
theorem plan_of_refused {r : Reflector} (hrefused : r.Refused) (h : Heap) (frame : σ) :
    ∃ e, r.plan frame h = (.error e, h) := by
  rw [plan, BridgeM.bind_apply]
  cases hprepare : r.prepare h frame with
  | error e => exact ⟨e, rfl⟩
  | ok prepared =>
    obtain ⟨owner, args⟩ := prepared
    have hidden := private_of_prepare hrefused hprepare
    dsimp only
    by_cases hs : r.signature.isStatic = true
    · rw [if_pos hs, announcing_apply, BridgeM.ofExcept_apply,
        Resolver.planStatic_of_private hidden]
      split <;> exact ⟨_, rfl⟩
    rw [if_neg hs, isConstructor_of_private hidden, if_neg Bool.false_ne_true, BridgeM.bind_apply,
      BridgeM.ofExcept_apply]
    cases RegisterFile.peek frame 0 with
    | error e => exact ⟨_, rfl⟩
    | ok cell =>
      dsimp only [mapError_ok]
      rw [announcing_apply, Resolver.planVirtual_of_private hidden]
      split <;> exact ⟨_, rfl⟩

/-- The dispatch of a refused call goes the same way whatever code the host has. -/
theorem attempt_withCode {r : Reflector} (hrefused : r.Refused) (g : Callable → Callable) (h : Heap)
    (frame : σ) : (r.withCode g).attempt h frame = r.attempt h frame := by
  have hprepared : (r.withCode g).prepare h frame = r.prepare h frame :=
    (alike_withCode g r).prepare rfl h frame
  have hdispatch : ∀ (announced : Except HostError Text) (call call' : BridgeM Value),
      call h = call' h →
        (r.withCode g).dispatchCall h announced call = r.dispatchCall h announced call' := by
    intro announced call call' hcall
    rw [dispatchCall, dispatchCall, hcall]
    rfl
  rw [attempt, attempt, hprepared]
  cases hprepare : r.prepare h frame with
  | error e => rfl
  | ok prepared =>
    obtain ⟨owner, args⟩ := prepared
    have hidden := private_of_prepare hrefused hprepare
    dsimp only
    have hsignature : (r.withCode g).signature = r.signature := rfl
    rw [hsignature]
    by_cases hs : r.signature.isStatic = true
    · rw [if_pos hs, if_pos hs]
      have hcall : (r.withCode g).resolver.invokeStatic owner r.signature.name args h =
          r.resolver.invokeStatic owner r.signature.name args h := by
        rw [Resolver.invokeStatic_of_private hidden, Resolver.invokeStatic_of_private hidden]
      rw [hdispatch _ _ _ hcall]
    · rw [if_neg hs, if_neg hs, isConstructor_of_private hidden, if_neg Bool.false_ne_true,
        if_neg Bool.false_ne_true]
      cases RegisterFile.peek frame 0 with
      | error e => rfl
      | ok cell =>
        have hcall :
            (r.withCode g).resolver.invokeVirtual owner r.signature.name cell.value args h =
              r.resolver.invokeVirtual owner r.signature.name cell.value args h := by
          rw [Resolver.invokeVirtual_of_private hidden, Resolver.invokeVirtual_of_private hidden]
        dsimp only
        rw [hdispatch _ _ _ hcall]

end Reflector

end

/-! ## What is left behind -/

/-- A failure is committed as an unknown value where a value is due. -/
theorem commit_failure (f : Frame) (s : Signature) (e : Failure) :
    commit f s (.failure e) =
      .ok { f with
        returned := if s.isInstanceConstructor || s.returnsVoid then f.returned
          else some ⟨.unknown, s.returnType⟩ } := by
  unfold commit
  cases s.isInstanceConstructor <;> cases s.returnsVoid <;> rfl

/-- **A refused call touches nothing.**  Where a class that the call speaks of is denied, or its
name is private, no call is planned, and no code of the host is run: the invocation is the same
whatever code stands in place of it.  The heap and the registers stay, and the return slot receives
an unknown value where the call is no constructor of an instance and returns one.  But the return
slot stays as well where the logging raises. -/
theorem Reflector.untouched_of_refused (r : Reflector) (hrefused : r.Refused) (h : Heap)
    (f : Frame) :
    (∃ e, r.plan f h = (.error e, h)) ∧
      (∀ g, (r.withCode g).invoke h f = r.invoke h f) ∧
      (r.invoke h f).heap = h ∧
      (r.invoke h f).frame.registers = f.registers ∧
      (∀ e, (r.invoke h f).raised = some e ↔ r.Raises h f e) ∧
      (r.invoke h f).frame.returned =
        if (r.invoke h f).raised.isSome || r.signature.isInstanceConstructor ||
          r.signature.returnsVoid then f.returned
        else some ⟨.unknown, r.signature.returnType⟩ := by
  obtain ⟨e, hplan⟩ := plan_of_refused hrefused h f
  have hcall : r.call f h = (.error e, h) := by
    rw [call, BridgeM.bind_apply, hplan]
  have hcode (g : Callable → Callable) : (r.withCode g).invoke h f = r.invoke h f := by
    have hdispatch : (r.withCode g).dispatch h f = r.dispatch h f := by
      rw [dispatch, dispatch, attempt_withCode hrefused g]
      rfl
    rw [invoke, invoke, hdispatch]
    rfl
  have hheap : (r.invoke h f).heap = h := by
    rw [heap_invoke, hcall, ite_self]
  have hframe : (r.invoke h f).frame.registers = f.registers ∧
      (r.invoke h f).frame.returned =
        if (r.invoke h f).raised.isSome || r.signature.isInstanceConstructor ||
          r.signature.returnsVoid then f.returned
        else some ⟨.unknown, r.signature.returnType⟩ := by
    cases hraised : (r.invoke h f).raised with
    | some e =>
      rw [frame_of_raises (raised_invoke.1 hraised)]
      exact ⟨rfl, rfl⟩
    | none =>
      have hcommit := commit_of_quiet (raised_invoke_eq_none.1 hraised)
      rw [outcome_dispatch, hcall, Outcome.ofResult, commit_failure] at hcommit
      rw [← Except.ok.inj hcommit]
      exact ⟨rfl, rfl⟩
  exact ⟨⟨e, hplan⟩, hcode, hheap, hframe.1, fun _ => raised_invoke, hframe.2⟩

/-- A call is refused for what an array of arrays holds, though its member is there. -/
theorem Reflector.untouched_array_parameter :
    let space : HostType := .declared ⟨"m", "C"⟩
    let member : Member := .staticMethod (.unary "f" "x" pure)
    let decl : ClassDecl := { members := [("f", member)], construct := .nullary "C" (pure .null) }
    let s : Signature := ⟨"Lx/C;", "x.C", "f", [.reference "[[Lx/Secret;"], "I", true⟩
    let settings : Settings := { deniedTypes := ["x.Secret"] }
    let registry : Registry := ⟨[("x.C", ⟨"x.C", space, space⟩)], []⟩
    let r : Reflector :=
      ⟨s, ⟨{ classes := [(space, decl)] }, registry, settings⟩, ⟨"engine", .warning, none⟩⟩
    let f := Frame.ofCells [⟨.null, "[[Lx/Secret;"⟩]
    r.Refused ∧ r.resolver.resolveClass "x.C" = .ok ⟨"x.C", space, space⟩ ∧
      r.resolver.world.member? space "f" = some member ∧
      (∃ e, r.plan f {} = (.error e, {})) ∧
      (∀ g, (r.withCode g).invoke {} f = r.invoke {} f) ∧
      (r.invoke {} f).frame.registers = f.registers ∧
      (r.invoke {} f).frame.returned = some ⟨.unknown, "I"⟩ := by
  intro space member decl s settings registry r f
  have hrefused : r.Refused :=
    .parameter (List.mem_singleton.2 rfl) (.component (n := 1) (c := "x.Secret") rfl)
      (List.mem_singleton.2 rfl)
  have howner : r.resolver.resolveClass "x.C" = .ok ⟨"x.C", space, space⟩ := by
    rw [Resolver.resolveClass_eq]
    rfl
  obtain ⟨d, hsecret⟩ : ∃ d, r.resolver.resolveClass (binaryName "[[Lx/Secret;") =
      .error (.bridge (.access (.deniedType d))) :=
    Resolver.resolveClass_of_denied (.component (n := 1) (c := "x.Secret") rfl)
      (List.mem_singleton.2 rfl)
  have hcall : r.call f {} = (.error (.bridge (.access (.deniedType d))), {}) := by
    have hmarshal : marshal r.resolver {} f s = .error (.bridge (.access (.deniedType d))) := by
      rw [marshal_of_count rfl, marshalFrom_cons, Resolver.hostType, hsecret]
      rfl
    have hprepare : r.prepare {} f = .error (.bridge (.access (.deniedType d))) := by
      rw [prepare, howner]
      show (marshal r.resolver {} f s >>= _) = _
      rw [hmarshal]
      rfl
    rw [call_apply, hprepare]
  obtain ⟨hplan, hcode, -, hregisters, -, hreturned⟩ := r.untouched_of_refused hrefused {} f
  have hquiet : (r.invoke {} f).raised = none := by
    refine raised_invoke_of_hidden rfl fun failure hfailure => ?_
    rw [hcall] at hfailure
    cases hfailure
    rfl
  rw [hquiet] at hreturned
  exact ⟨hrefused, howner, rfl, hplan, hcode, hregisters, hreturned⟩

/-- A refused call whose frame holds an integer with too many digits, before a console that shows
the lowest level: nothing is written to the return slot. -/
theorem Reflector.refused_long_numeral :
    let s : Signature := ⟨"Lx/C;", "x.C", "_f", [.primitive .int], "I", true⟩
    let r : Reflector := ⟨s, ⟨{}, {}, {}⟩, ⟨"engine", .debug, some .debug⟩⟩
    let f : Frame := .ofCells [⟨.integer (10 ^ digitLimit), "I"⟩]
    r.Refused ∧ (s.isInstanceConstructor || s.returnsVoid) = false ∧
      (r.invoke {} f).frame.returned ≠ some ⟨.unknown, s.returnType⟩ := by
  intro s r f
  have hraises : r.Raises {} f .numeralTooLong :=
    .inl ⟨rfl, Frame.quoted_pow_digitLimit {} _⟩
  refine ⟨.privateName (by decide), by decide, ?_⟩
  rw [frame_of_raises hraises]
  exact Option.some_ne_none _ ∘ Eq.symm

end HostCall
