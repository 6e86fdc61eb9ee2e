import HostCall.Library.Standard
import HostCall.Reflector
import HostCall.Proofs.PlannedCall

/-!
# What an invocation leaves in its frame

The records that a dispatch makes on its way do not bear on its outcome, but for the one that
announces the call, which may fail as a call may.  `Reflector.call` is the dispatch with this record
alone, a call that is planned and then made, and `outcome_dispatch` says that the outcome is its
result.  There is a result only where the arguments were read, so a constructor that succeeds has a
register for its receiver (`receiver_of_call`), and the commit cannot fail.

What is raised is raised by the logging: `Reflector.Raises` says when.

Main statement, `frame_invoke`: an invocation that raises leaves its frame as it was, and for any
other exactly one of three endings is due, and it is the one reached.
-/

namespace HostCall

open Result

/-! ## A dispatch without its records -/

/-- A recorder without a console. -/
def Recorder.quiet : Recorder := { component := [], threshold := .debug }

namespace Outcome

/-- The outcome that a result stands for: a constructor makes a new receiver, and any other call a
value. -/
def ofResult (s : Signature) : Except Failure Value → Outcome
  | .ok v => if s.isInstanceConstructor then .success .null v else .success v .null
  | .error e => .failure e

/-- The outcome that an attempt stands for. -/
def ofAttempt : Except Failure (Value × Value) → Outcome
  | .ok (v, created) => .success v created
  | .error e => .failure e

theorem ofAttempt_value {s : Signature} (hs : s.isInstanceConstructor = false)
    (result : Except Failure Value) :
    ofAttempt (result.map fun v => (v, .null)) = ofResult s result := by
  cases result with
  | error e => rfl
  | ok v => simp [ofResult, ofAttempt, Except.map, hs]

theorem ofAttempt_created {s : Signature} (hs : s.isInstanceConstructor = true)
    (result : Except Failure Value) :
    ofAttempt (result.map fun v => (.null, v)) = ofResult s result := by
  cases result with
  | error e => rfl
  | ok v => simp [ofResult, ofAttempt, Except.map, hs]

end Outcome

namespace Reflector

section

variable {σ : Type} [RegisterFile σ] {r : Reflector} {h : Heap} {frame : σ}

/-- The announcement of a call, which fails where a console is to show it and its text cannot be
made. -/
def announcing (r : Reflector) (announced : Heap → Except HostError Text) : BridgeM Unit := fun h =>
  match (r.announce (announced h)).raised with
  | some e => (.error (.host e), h)
  | none => (.ok (), h)

/-- The call that a reflector makes of a frame. -/
def plan (r : Reflector) (frame : σ) : BridgeM Call := do
  let (owner, args) ← fun h => (r.prepare h frame, h)
  if r.signature.isStatic then do
    r.announcing fun h => announceOwner h owner args
    BridgeM.ofExcept (r.resolver.planStatic owner r.signature.name args)
  else if r.signature.isConstructor then do
    r.announcing fun h => announceOwner h owner args
    BridgeM.ofExcept (r.resolver.planConstructor owner args)
  else do
    let cell ← BridgeM.ofExcept ((RegisterFile.peek frame 0).mapError .host)
    r.announcing fun h => announceReceiver h cell.value args
    r.resolver.planVirtual owner r.signature.name cell.value args

/-- Plans a call and makes it. -/
def call (r : Reflector) (frame : σ) : BridgeM Value := do (← r.plan frame).perform

theorem announcing_apply (r : Reflector) (announced : Heap → Except HostError Text) (h : Heap)
    {α : Type} (m : BridgeM α) :
    (r.announcing announced >>= fun _ => m) h =
      match (r.announce (announced h)).raised with
      | some e => (.error (.host e), h)
      | none => m h := by
  rw [BridgeM.bind_apply, announcing]
  cases (r.announce (announced h)).raised <;> rfl

/-- A call that is not announced on a console is made at once. -/
theorem announcing_of_hidden {r : Reflector} (hidden : r.recorder.shows .debug = false)
    (announced : Heap → Except HostError Text) {α : Type} (m : BridgeM α) :
    (r.announcing announced >>= fun _ => m) = m := by
  funext h
  have hraised : (r.announce (announced h)).raised = none := by
    rw [announce, emitDebug, emit, Option.eq_none_iff_forall_ne_some]
    intro e he
    rw [(Recorder.raised_emit.1 he).1] at hidden
    cases hidden
  rw [announcing_apply, hraised]

/-- What is announced and called is planned behind the announcement. -/
theorem announcing_call (r : Reflector) {announced : Heap → Except HostError Text}
    {planned : BridgeM Call} {invoked : BridgeM Value} {h : Heap}
    (hinvoked : (planned >>= Call.perform) h = invoked h) :
    ((r.announcing announced >>= fun _ => planned) >>= Call.perform) h =
      (r.announcing announced >>= fun _ => invoked) h := by
  rw [BridgeM.bind_apply, announcing_apply, announcing_apply, ← hinvoked]
  cases (r.announce (announced h)).raised with
  | some e => rfl
  | none => exact (BridgeM.bind_apply planned Call.perform h).symm

theorem call_apply (r : Reflector) (h : Heap) (frame : σ) :
    r.call frame h = match r.prepare h frame with
      | .error e => (.error e, h)
      | .ok (owner, args) =>
        if r.signature.isStatic then
          (r.announcing (announceOwner · owner args) >>= fun _ =>
            r.resolver.invokeStatic owner r.signature.name args) h
        else if r.signature.isConstructor then
          (r.announcing (announceOwner · owner args) >>= fun _ =>
            r.resolver.invokeConstructor owner args) h
        else match RegisterFile.peek frame 0 with
          | .error e => (.error (.host e), h)
          | .ok cell =>
            (r.announcing (announceReceiver · cell.value args) >>= fun _ =>
              r.resolver.invokeVirtual owner r.signature.name cell.value args) h := by
  rw [call, BridgeM.bind_apply, plan, BridgeM.bind_apply]
  cases r.prepare h frame with
  | error e => rfl
  | ok prepared =>
    obtain ⟨owner, args⟩ := prepared
    dsimp only
    by_cases hs : r.signature.isStatic = true
    · rw [if_pos hs, if_pos hs, ← BridgeM.bind_apply]
      exact r.announcing_call rfl
    by_cases hc : r.signature.isConstructor = true
    · rw [if_neg hs, if_neg hs, if_pos hc, if_pos hc, ← BridgeM.bind_apply]
      exact r.announcing_call rfl
    rw [if_neg hs, if_neg hs, if_neg hc, if_neg hc, BridgeM.bind_apply, BridgeM.ofExcept_apply]
    cases RegisterFile.peek frame 0 with
    | error e => rfl
    | ok cell =>
      dsimp only [mapError_ok]
      rw [← BridgeM.bind_apply]
      exact r.announcing_call rfl

/-- How the call that a frame leads to is announced, if one is come to. -/
def announced? (r : Reflector) (h : Heap) (frame : σ) : Option (Except HostError Text) :=
  match r.prepare h frame with
  | .error _ => none
  | .ok (owner, args) =>
    if r.signature.isStatic || r.signature.isConstructor then some (announceOwner h owner args)
    else match RegisterFile.peek frame 0 with
      | .error _ => none
      | .ok cell => some (announceReceiver h cell.value args)

/-- What the announcement of a call raises. -/
def announcementError? (r : Reflector) (h : Heap) (frame : σ) : Option HostError :=
  (r.announced? h frame).bind fun announced => (r.announce announced).raised

/-- The recorder bears on a call by the announcement alone: where it raises the call is not made,
and else it goes as before a recorder that shows nothing. -/
theorem call_eq_quiet (r : Reflector) (h : Heap) (frame : σ) :
    r.call frame h =
      match r.announcementError? h frame with
      | some e => (.error (.host e), h)
      | none => Reflector.call ⟨r.signature, r.resolver, .quiet⟩ frame h := by
  have hquiet (announced : Heap → Except HostError Text) (m : BridgeM Value) :
      (announcing ⟨r.signature, r.resolver, .quiet⟩ announced >>= fun _ => m) h = m h :=
    congrFun (announcing_of_hidden rfl announced m) h
  have hprepare : prepare ⟨r.signature, r.resolver, .quiet⟩ h frame = r.prepare h frame := rfl
  rw [call_apply, call_apply, hprepare, announcementError?, announced?]
  simp only [hquiet, announcing_apply]
  cases r.prepare h frame with
  | error e => rfl
  | ok prepared =>
    obtain ⟨owner, args⟩ := prepared
    dsimp only
    by_cases hs : r.signature.isStatic = true
    · simp only [hs, Bool.true_or, if_true, Option.bind_some]
    by_cases hc : r.signature.isConstructor = true
    · simp only [hs, hc, Bool.or_true, if_true, if_false, Option.bind_some,
        Bool.false_eq_true]
    rw [Bool.not_eq_true] at hs hc
    simp only [hs, hc, Bool.or_self, Bool.false_eq_true, if_false]
    cases RegisterFile.peek frame 0 with
    | error e => rfl
    | ok cell => rfl

/-- A dispatched call is the call behind its announcement. -/
theorem dispatchCall_eq (r : Reflector) (h : Heap) (announced : Heap → Except HostError Text)
    (m : BridgeM Value) :
    let d := r.dispatchCall h (announced h) m
    (d.1, d.2.1) = (r.announcing announced >>= fun _ => m) h := by
  intro d
  show ((r.dispatchCall h (announced h) m).1, (r.dispatchCall h (announced h) m).2.1) = _
  rw [announcing_apply, dispatchCall]
  cases (r.announce (announced h)).raised <;> rfl

/-- The outcome of a dispatch is that of its attempt. -/
theorem outcome_of_attempt (r : Reflector) (h : Heap) (frame : σ) :
    (r.dispatch h frame).outcome = Outcome.ofAttempt (r.attempt h frame).1 := by
  rw [dispatch]
  obtain ⟨result, h', log⟩ := r.attempt h frame
  cases result <;> rfl

/-- An attempt goes the way of its call. -/
theorem attempt_eq (r : Reflector) (h : Heap) (frame : σ) :
    Outcome.ofAttempt (r.attempt h frame).1 = Outcome.ofResult r.signature (r.call frame h).1 ∧
      (r.attempt h frame).2.1 = (r.call frame h).2 := by
  rw [call_apply, attempt]
  cases r.prepare h frame with
  | error e => exact ⟨rfl, rfl⟩
  | ok prepared =>
    obtain ⟨owner, args⟩ := prepared
    dsimp only
    by_cases hs : r.signature.isStatic = true
    · have hinit : r.signature.isInstanceConstructor = false := by
        simp [Signature.isInstanceConstructor, hs]
      rw [if_pos hs, if_pos hs, ← dispatchCall_eq]
      exact ⟨Outcome.ofAttempt_value hinit _, rfl⟩
    by_cases hc : r.signature.isConstructor = true
    · have hinit : r.signature.isInstanceConstructor = true := by
        simp [Signature.isInstanceConstructor, hs, hc]
      rw [if_neg hs, if_neg hs, if_pos hc, if_pos hc, ← dispatchCall_eq]
      exact ⟨Outcome.ofAttempt_created hinit _, rfl⟩
    have hinit : r.signature.isInstanceConstructor = false := by
      simp [Signature.isInstanceConstructor, hc]
    rw [if_neg hs, if_neg hs, if_neg hc, if_neg hc]
    cases RegisterFile.peek frame 0 with
    | error e => exact ⟨rfl, rfl⟩
    | ok cell =>
      dsimp only
      rw [← dispatchCall_eq]
      exact ⟨Outcome.ofAttempt_value hinit _, rfl⟩

/-- A dispatch ends in what its call gives. -/
theorem outcome_dispatch (r : Reflector) (h : Heap) (frame : σ) :
    (r.dispatch h frame).outcome = Outcome.ofResult r.signature (r.call frame h).1 :=
  (r.outcome_of_attempt h frame).trans (r.attempt_eq h frame).1

theorem heap_of_attempt (r : Reflector) (h : Heap) (frame : σ) :
    (r.dispatch h frame).heap = (r.attempt h frame).2.1 := by
  rw [dispatch]
  obtain ⟨result, h', log⟩ := r.attempt h frame
  cases result <;> rfl

/-- A dispatch leaves the heap that its call leaves. -/
theorem heap_dispatch (r : Reflector) (h : Heap) (frame : σ) :
    (r.dispatch h frame).heap = (r.call frame h).2 :=
  (r.heap_of_attempt h frame).trans (r.attempt_eq h frame).2

/-! ## What the logging raises -/

theorem raised_announce {announced : Except HostError Text} {e : HostError} :
    (r.announce announced).raised = some e ↔
      r.recorder.shows .debug = true ∧ announced = .error e := by
  rw [announce, emitDebug, emit, Recorder.raised_emit]
  cases announced <;> simp [bind, Except.bind, pure, Except.pure]

/-- Where no console shows it, an announcement raises nothing. -/
theorem announcementError?_of_hidden (hidden : r.recorder.shows .debug = false) :
    r.announcementError? h frame = none := by
  rw [announcementError?, Option.bind_eq_none_iff]
  intro announced _
  rw [Option.eq_none_iff_forall_ne_some]
  intro e he
  rw [(raised_announce.1 he).1] at hidden
  cases hidden

/-- A call whose announcement has a text is made. -/
theorem announcing_of_ok {announced : Heap → Except HostError Text} {t : Text}
    (htext : announced h = .ok t) {α : Type} (m : BridgeM α) :
    (r.announcing announced >>= fun _ => m) h = m h := by
  have hraised : (r.announce (announced h)).raised = none := by
    rw [Option.eq_none_iff_forall_ne_some]
    intro e he
    rw [(raised_announce.1 he).2] at htext
    cases htext
  rw [announcing_apply, hraised]

theorem raised_context {e : HostError} : (r.context h frame).raised = some e ↔
    r.recorder.shows .debug = true ∧ RegisterFile.describe h frame = .error e := by
  rw [context, emitDebug, emit, Recorder.raised_emit]
  cases RegisterFile.describe h frame <;> simp [bind, Except.bind, pure, Except.pure]

theorem text_eq_error_iff {f : Failure} {e : HostError} :
    f.text = .error e ↔ f.unprintable? = some e := by
  cases f with
  | bridge b => simp [Failure.text, Failure.unprintable?]
  | refused es => simp [Failure.text, Failure.unprintable?]
  | host c =>
    rw [Failure.text, Failure.unprintable?, HostError.text]
    cases c.unprintable? <;> simp

/-- The text of a failure of the bridge is asked for by a console that is to show its record, and
that of any other failure behind its record. -/
theorem raised_failureRecords {f : Failure} {e : HostError} :
    (r.failureRecords f).raised = some e ↔ f.unprintable? = some e ∧
      (f.isOfBridge = true → r.recorder.shows .warning = true) := by
  have hrecord {level : Level} {start : Text} {raised : Option Raised} {e : HostError} :
      (r.emit level (do return Text.concat [start, r.signature.text, ": ", ← f.text])
        raised).raised = some e ↔ r.recorder.shows level = true ∧ f.unprintable? = some e := by
    rw [emit, Recorder.raised_emit, ← text_eq_error_iff]
    cases f.text <;> simp [bind, Except.bind, pure, Except.pure]
  unfold failureRecords
  cases hbridge : f.isOfBridge with
  | true =>
    dsimp only
    rw [if_pos rfl, Emission.andThen]
    split
    · next e' hraised =>
      obtain ⟨hshows, hprintable⟩ := hrecord.1 hraised
      rw [hraised, hprintable]
      simp [hshows]
    · next hraised =>
      -- the trace has a text of its own
      have htrace : (if r.resolver.settings.logTraces then
          r.emit .debug (.ok "Stack trace:") (some (Raised.ofFailure f)) else {}).raised =
            none := by
        split
        · rw [Option.eq_none_iff_forall_ne_some]
          intro e' he'
          cases (Recorder.raised_emit.1 he').2
        · rfl
      rw [htrace]
      refine iff_of_false (by simp) fun ⟨hprintable, hshows⟩ => ?_
      rw [hrecord.2 ⟨hshows rfl, hprintable⟩] at hraised
      cases hraised
  | false =>
    dsimp only
    rw [if_neg Bool.false_ne_true, Emission.andThen]
    split
    · next e' hraised =>
      obtain ⟨-, hprintable⟩ := hrecord.1 hraised
      rw [hraised, hprintable]
      simp
    · simp

/-- What the logging of an invocation raises: the error of a frame that a console is to show, or
else that of a failure whose text cannot be made, unless it is a failure of the bridge and no
console shows its record. -/
def Raises (r : Reflector) (h : Heap) (frame : σ) (e : HostError) : Prop :=
  (r.recorder.shows .debug = true ∧ RegisterFile.describe h frame = .error e) ∨
    ((r.recorder.shows .debug = true → ∃ t, RegisterFile.describe h frame = .ok t) ∧
      ∃ f, (r.call frame h).1 = .error f ∧ f.unprintable? = some e ∧
        (f.isOfBridge = true → r.recorder.shows .warning = true))

/-- A dispatch raises what the record of its failure raises. -/
theorem raised_dispatch {e : HostError} : (r.dispatch h frame).raised = some e ↔
    ∃ f, (r.call frame h).1 = .error f ∧ f.unprintable? = some e ∧
      (f.isOfBridge = true → r.recorder.shows .warning = true) := by
  have houtcome := (r.attempt_eq h frame).1
  rw [dispatch]
  generalize r.attempt h frame = attempted at houtcome ⊢
  obtain ⟨result, h', log⟩ := attempted
  cases hcall : (r.call frame h).1 with
  | error f =>
    rw [hcall] at houtcome
    cases result with
    | error f' =>
      obtain rfl : f' = f := Outcome.failure.inj houtcome
      simp only [Except.error.injEq, exists_eq_left']
      exact raised_failureRecords
    | ok v => cases houtcome
  | ok v =>
    rw [hcall] at houtcome
    cases result with
    | error f' =>
      rw [Outcome.ofResult] at houtcome
      split at houtcome <;> cases houtcome
    | ok v => simp

theorem raised_context_eq_none : (r.context h frame).raised = none ↔
    (r.recorder.shows .debug = true → ∃ t, RegisterFile.describe h frame = .ok t) := by
  rw [Option.eq_none_iff_forall_ne_some]
  simp only [ne_eq, raised_context, not_and]
  cases RegisterFile.describe h frame with
  | ok t => simp
  | error e => simp

/-- The steps of an invocation whose first record raises. -/
theorem invoke_of_context {e : HostError} (hcontext : (r.context h frame).raised = some e) :
    r.invoke h frame = ⟨frame, h, (r.context h frame).records, some e⟩ := by
  simp only [invoke, hcontext]

/-- The steps of an invocation whose dispatch raises. -/
theorem invoke_of_dispatch {e : HostError} (hcontext : (r.context h frame).raised = none)
    (hdispatch : (r.dispatch h frame).raised = some e) :
    r.invoke h frame = ⟨frame, (r.dispatch h frame).heap,
      (r.context h frame).records ++ (r.dispatch h frame).records, some e⟩ := by
  simp only [invoke, hcontext, hdispatch]

/-- The steps of an invocation that comes to its commit. -/
theorem invoke_of_dispatched (hcontext : (r.context h frame).raised = none)
    (hdispatch : (r.dispatch h frame).raised = none) {committed : Except HostError σ}
    (hcommit : commit frame r.signature (r.dispatch h frame).outcome = committed) :
    r.invoke h frame = ⟨committed.toOption.getD frame, (r.dispatch h frame).heap,
      (r.context h frame).records ++ (r.dispatch h frame).records ++
        (r.commitRecords committed).records,
      (r.commitRecords committed).raised⟩ := by
  simp only [invoke, hcontext, hdispatch, hcommit]

/-- What an invocation raises is what its logging raises before the commit or, where nothing is, in
the record of a failed commit. -/
theorem raised_invoke_iff {committed : Except HostError σ} {e : HostError}
    (hcommit : commit frame r.signature (r.dispatch h frame).outcome = committed) :
    (r.invoke h frame).raised = some e ↔ r.Raises h frame e ∨
      (r.context h frame).raised = none ∧ (r.dispatch h frame).raised = none ∧
        (r.commitRecords committed).raised = some e := by
  rw [Raises, ← raised_context, ← raised_dispatch, ← raised_context_eq_none]
  cases hcontext : (r.context h frame).raised with
  | some e' =>
    rw [invoke_of_context hcontext]
    simp
  | none =>
    cases hdispatch : (r.dispatch h frame).raised with
    | some e' =>
      rw [invoke_of_dispatch hcontext hdispatch]
      simp
    | none =>
      rw [invoke_of_dispatched hcontext hdispatch hcommit]
      simp

end

/-- A call that gives a value has read its receiver. -/
theorem receiver_of_call {r : Reflector} {h : Heap} {f : Frame} {v : Value}
    (hcall : (r.call f h).1 = .ok v) : r.signature.receiverWidth ≤ f.registers.length := by
  rw [call_apply] at hcall
  cases hprepare : r.prepare h f with
  | error e =>
    rw [hprepare] at hcall
    cases hcall
  | ok prepared =>
    obtain ⟨owner, -, hargs⟩ := bind_eq_ok_iff.1 hprepare
    obtain ⟨args, hargs, -⟩ := bind_eq_ok_iff.1 hargs
    rw [marshal_of_count rfl] at hargs
    by_contra hlt
    rw [if_pos (Nat.not_le.1 hlt)] at hargs
    cases hargs

end Reflector

/-! ## Endings -/

/-- What becomes of a frame: its receiver is renewed, nothing is written, or the return slot is. -/
inductive Ending where
  | renewed
  | untouched
  | answered

namespace Ending

/-- Whether a result calls for an ending. -/
def Due (s : Signature) (result : Except Failure Value) : Ending → Prop
  | .renewed => s.isInstanceConstructor = true ∧ ∃ v, result = .ok v
  | .untouched =>
    (s.isInstanceConstructor = true ∧ ∃ e, result = .error e) ∨
      (s.isInstanceConstructor = false ∧ s.returnsVoid = true)
  | .answered => s.isInstanceConstructor = false ∧ s.returnsVoid = false

/-- Whether an ending turns one frame into another. -/
def Leaves (s : Signature) (result : Except Failure Value) (f g : Frame) : Ending → Prop
  | .renewed =>
    (∃ v, result = .ok v ∧ g.registers[0]?.map Register.cell = some ⟨v, s.owner⟩) ∧
      g.registers.length = f.registers.length ∧
      (∀ i, i ≠ 0 → g.registers[i]? = f.registers[i]?) ∧ g.returned = f.returned
  | .untouched => g.registers = f.registers ∧ g.returned = f.returned
  | .answered =>
    g.registers = f.registers ∧
      g.returned = some ⟨result.toOption.getD .unknown, s.returnType⟩

theorem due_iff_of_due {s : Signature} {result : Except Failure Value} {e e' : Ending}
    (h : e.Due s result) : e'.Due s result ↔ e' = e := by
  constructor
  · intro h'
    cases result <;> cases e <;> cases e' <;> simp_all [Due]
  · intro heq
    rw [heq]
    exact h

end Ending

theorem Signature.receiverWidth_of_isInstanceConstructor {s : Signature}
    (h : s.isInstanceConstructor = true) : s.receiverWidth = 1 := by
  rw [isInstanceConstructor, Bool.and_eq_true, Bool.not_eq_true'] at h
  rw [receiverWidth, h.2]
  rfl

/-- A commit reaches the ending that is due. -/
theorem leaves_commit {s : Signature} {result : Except Failure Value} {f : Frame}
    (hreceiver : ∀ v, result = .ok v → s.receiverWidth ≤ f.registers.length) :
    ∃ e : Ending, ∃ g, e.Due s result ∧ commit f s (Outcome.ofResult s result) = .ok g ∧
      e.Leaves s result f g := by
  unfold commit
  by_cases hc : s.isInstanceConstructor = true
  · rw [if_pos hc]
    cases result with
    | error e => exact ⟨.untouched, f, .inl ⟨hc, e, rfl⟩, rfl, rfl, rfl⟩
    | ok v =>
      have hpos : 0 < f.registers.length := by
        have hle := hreceiver v rfl
        rw [Signature.receiverWidth_of_isInstanceConstructor hc] at hle
        exact hle
      rw [Outcome.ofResult, if_pos hc]
      refine ⟨.renewed, _, ⟨hc, v, rfl⟩, (f.assignAt_natCast 0 _).trans (if_pos hpos), ?_⟩
      refine ⟨⟨v, rfl, ?_⟩, List.length_set, fun i hi => ?_, rfl⟩
      · rw [List.getElem?_set_self hpos]
        rfl
      · exact List.getElem?_set_ne hi.symm
  rw [if_neg hc]
  rw [Bool.not_eq_true] at hc
  by_cases hv : s.returnsVoid = true
  · rw [if_pos hv]
    exact ⟨.untouched, f, .inr ⟨hc, hv⟩, rfl, rfl, rfl⟩
  rw [if_neg hv]
  rw [Bool.not_eq_true] at hv
  refine ⟨.answered, _, ⟨hc, hv⟩, rfl, rfl, ?_⟩
  cases result with
  | error e => rfl
  | ok v =>
    rw [Outcome.ofResult, hc]
    rfl

/-- The commit of what a call gives does not fail. -/
theorem Reflector.exists_commit (r : Reflector) (h : Heap) (f : Frame) :
    ∃ g, commit f r.signature (r.dispatch h f).outcome = .ok g := by
  obtain ⟨e, g, -, hcommit, -⟩ := leaves_commit (f := f) (s := r.signature)
    (fun v (hv : (r.call f h).1 = .ok v) => receiver_of_call hv)
  exact ⟨g, by rw [outcome_dispatch]; exact hcommit⟩

/-- What an invocation raises is what its logging raises. -/
theorem Reflector.raised_invoke {r : Reflector} {h : Heap} {f : Frame} {e : HostError} :
    (r.invoke h f).raised = some e ↔ r.Raises h f e := by
  obtain ⟨g, hg⟩ := r.exists_commit h f
  rw [raised_invoke_iff hg]
  simp [commitRecords]

theorem Reflector.raised_invoke_eq_none {r : Reflector} {h : Heap} {f : Frame} :
    (r.invoke h f).raised = none ↔ ∀ e, ¬ r.Raises h f e := by
  simp only [Option.eq_none_iff_forall_ne_some, ne_eq, raised_invoke]

/-- Where no console shows the frame, only a failure without a text is raised. -/
theorem Reflector.raised_invoke_of_hidden {r : Reflector} {h : Heap} {f : Frame}
    (hidden : r.recorder.shows .debug = false)
    (hprintable : ∀ failure, (r.call f h).1 = .error failure → failure.unprintable? = none) :
    (r.invoke h f).raised = none := by
  refine raised_invoke_eq_none.2 fun e hraises => ?_
  rcases hraises with ⟨hshows, -⟩ | ⟨-, failure, hfailure, hunprintable, -⟩
  · rw [hidden] at hshows
    cases hshows
  · rw [hprintable failure hfailure] at hunprintable
    cases hunprintable

/-- The heap is the one that the call leaves, unless the call is not come to. -/
theorem Reflector.heap_invoke (r : Reflector) (h : Heap) (f : Frame) :
    (r.invoke h f).heap = if (r.context h f).raised.isSome then h else (r.call f h).2 := by
  cases hcontext : (r.context h f).raised with
  | some e => simp [invoke_of_context hcontext]
  | none =>
    cases hdispatch : (r.dispatch h f).raised with
    | some e => simp [invoke_of_dispatch hcontext hdispatch, heap_dispatch]
    | none =>
      obtain ⟨g, hg⟩ := r.exists_commit h f
      simp [invoke_of_dispatched hcontext hdispatch hg, heap_dispatch]

/-- An invocation that raises has not come to its commit. -/
theorem Reflector.frame_of_raises {r : Reflector} {h : Heap} {f : Frame} {e : HostError}
    (hraises : r.Raises h f e) : (r.invoke h f).frame = f := by
  obtain hfirst | ⟨hfirst, hsecond⟩ := hraises
  · rw [invoke_of_context (raised_context.2 hfirst)]
  · rw [invoke_of_dispatch (raised_context_eq_none.2 hfirst) (raised_dispatch.2 hsecond)]

/-- An invocation that does not raise leaves the frame that is committed. -/
theorem Reflector.commit_of_quiet {r : Reflector} {h : Heap} {f : Frame}
    (hquiet : ∀ e, ¬ r.Raises h f e) :
    commit f r.signature (r.dispatch h f).outcome = .ok (r.invoke h f).frame := by
  obtain ⟨g, hg⟩ := r.exists_commit h f
  have hcontext : (r.context h f).raised = none := by
    rw [Option.eq_none_iff_forall_ne_some]
    exact fun e he => hquiet e (.inl (raised_context.1 he))
  have hdispatch : (r.dispatch h f).raised = none := by
    rw [Option.eq_none_iff_forall_ne_some]
    exact fun e he => hquiet e (.inr ⟨raised_context_eq_none.1 hcontext, raised_dispatch.1 he⟩)
  rw [invoke_of_dispatched hcontext hdispatch hg]
  exact hg

/-- An invocation that does not raise leaves its frame in the ending that is due. -/
theorem Reflector.leaves_invoke (r : Reflector) (h : Heap) (f : Frame)
    (hquiet : ∀ e, ¬ r.Raises h f e) :
    ∃ e : Ending, (∀ e' : Ending, e'.Due r.signature (r.call f h).1 ↔ e' = e) ∧
      e.Leaves r.signature (r.call f h).1 f (r.invoke h f).frame := by
  obtain ⟨e, g, hdue, hcommit, hleaves⟩ := leaves_commit (f := f) (s := r.signature)
    (fun v (hv : (r.call f h).1 = .ok v) => receiver_of_call hv)
  have hframe := commit_of_quiet hquiet
  rw [outcome_dispatch, hcommit] at hframe
  rw [← Except.ok.inj hframe]
  exact ⟨e, fun e' => Ending.due_iff_of_due hdue, hleaves⟩

/-- **An invocation ends in one of three ways, or its logging raises.**  What a call gives calls for
exactly one ending, which is the one that its frame is left in, and no commit fails.  But an
invocation whose logging raises leaves its frame as it was, whatever is due. -/
theorem Reflector.frame_invoke (r : Reflector) (h : Heap) (f : Frame) :
    let result := (r.call f h).1
    (r.dispatch h f).outcome = Outcome.ofResult r.signature result ∧
      (∃ g, commit f r.signature (r.dispatch h f).outcome = .ok g) ∧
      (∀ e, (r.invoke h f).raised = some e ↔ r.Raises h f e) ∧
      (∀ e, r.Raises h f e → (r.invoke h f).frame = f) ∧
      ((∀ e, ¬ r.Raises h f e) →
        commit f r.signature (r.dispatch h f).outcome = .ok (r.invoke h f).frame ∧
        ∃ e : Ending, (∀ e' : Ending, e'.Due r.signature result ↔ e' = e) ∧
          e.Leaves r.signature result f (r.invoke h f).frame) :=
  ⟨outcome_dispatch r h f, r.exists_commit h f, fun _ => raised_invoke,
    fun _ => frame_of_raises, fun hquiet => ⟨commit_of_quiet hquiet, r.leaves_invoke h f hquiet⟩⟩

/-- A frame that holds an integer with too many digits cannot be quoted. -/
theorem Frame.quoted_pow_digitLimit (h : Heap) (type : Text) :
    Frame.quoted h (.ofCells [⟨.integer (10 ^ digitLimit), type⟩]) = .error .numeralTooLong := by
  have hquoted : (Value.integer (10 ^ digitLimit)).quoted h = .error .numeralTooLong :=
    decimalText_pow_digitLimit
  simp only [quoted, cells, ofCells, List.zipIdx_cons, List.zipIdx_nil, List.map_cons,
    List.map_nil, List.mapM_cons, Cell.quoted, hquoted]
  rfl

/-- A frame that holds an integer with too many digits, before a console that shows the lowest
level: the text of the integer is due, or that there is none, and neither is written. -/
theorem Reflector.not_leaves_long_numeral :
    ∃ s : Signature,
      Signature.parse "Ljava/lang/Integer;->toHexString(I)Ljava/lang/String;" true = .ok s ∧
      let r : Reflector := ⟨s, ⟨.standard, .standard, {}⟩, ⟨"engine", .debug, some .debug⟩⟩
      let f : Frame := .ofCells [⟨.integer (10 ^ digitLimit), "I"⟩]
      (r.invoke {} f).raised = some .numeralTooLong ∧
        ¬ ∃ e : Ending, e.Due s (r.call f {}).1 ∧
          e.Leaves s (r.call f {}).1 f (r.invoke {} f).frame := by
  refine ⟨⟨"Ljava/lang/Integer;", "java.lang.Integer", "toHexString", [.primitive .int],
    "Ljava/lang/String;", true⟩, by decide +kernel, ?_⟩
  intro r f
  have hraises : r.Raises {} f .numeralTooLong := .inl ⟨rfl, Frame.quoted_pow_digitLimit {} _⟩
  refine ⟨raised_invoke.2 hraises, fun ⟨e, hdue, hleaves⟩ => ?_⟩
  obtain rfl : Ending.answered = e := (Ending.due_iff_of_due hdue).1 ⟨rfl, rfl⟩
  rw [frame_of_raises hraises] at hleaves
  cases hleaves.2

end HostCall
