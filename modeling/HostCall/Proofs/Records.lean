import HostCall.Proofs.Commit
import HostCall.Proofs.HostCode

/-!
# What an invocation puts on record

An invocation makes debug records on its way, and further ones where its dispatch or its commit
fails.  All of them are made by `Reflector.emit`, so all bear the marks of the reflector
(`mem_emit`).  What is left of them beyond debug depends on the outcome and on its commit alone
(`beyondDebug_of_dispatched`), unless the logging raises an error before.

Whether traces are logged is a setting, and the settings go through all that an invocation looks up:
`withTraces` turns this one over, and each step of a plan comes out the same under it.

Main statement, `alarms_invoke`: how many warnings and errors an invocation makes, that where
nothing is raised it makes none exactly when dispatch and commit succeed, and that logging traces
changes debug records alone.
-/

namespace HostCall

open Result

/-! ## Records beyond debug -/

/-- How many records have the level. -/
def countAt (level : Level) (records : List LogRecord) : Nat :=
  records.countP fun x => x.level == level

/-- The records of another level than debug. -/
def beyondDebug (records : List LogRecord) : List LogRecord :=
  records.filter fun x => x.level != Level.debug

theorem countAt_append (level : Level) (xs ys : List LogRecord) :
    countAt level (xs ++ ys) = countAt level xs + countAt level ys :=
  List.countP_append

theorem beyondDebug_append (xs ys : List LogRecord) :
    beyondDebug (xs ++ ys) = beyondDebug xs ++ beyondDebug ys :=
  List.filter_append ..

theorem beyondDebug_eq_nil {xs : List LogRecord} (h : ∀ x ∈ xs, x.level = Level.debug) :
    beyondDebug xs = [] := by
  rw [beyondDebug, List.filter_eq_nil_iff]
  intro x hx
  rw [h x hx]
  decide

theorem countAt_beyondDebug (level : Level) (hlevel : level ≠ Level.debug)
    (xs : List LogRecord) : countAt level (beyondDebug xs) = countAt level xs := by
  rw [countAt, countAt, beyondDebug, List.countP_filter]
  refine List.countP_congr fun x _ => ?_
  rw [Bool.and_eq_true, beq_iff_eq, bne_iff_ne]
  exact ⟨And.left, fun h => ⟨h, h ▸ hlevel⟩⟩

/-- No record has the level of warnings or a higher one. -/
def Quiet (records : List LogRecord) : Prop := ∀ x ∈ records, x.level < Level.warning

theorem quiet_beyondDebug {xs : List LogRecord} : Quiet (beyondDebug xs) ↔ Quiet xs := by
  constructor
  · intro h x hx
    by_cases hdebug : x.level = Level.debug
    · rw [hdebug]
      decide
    · exact h x (List.mem_filter.2 ⟨hx, bne_iff_ne.2 hdebug⟩)
  · intro h x hx
    exact h x (List.mem_filter.1 hx).1

theorem quiet_append {xs ys : List LogRecord} : Quiet (xs ++ ys) ↔ Quiet xs ∧ Quiet ys := by
  simp only [Quiet, List.mem_append, or_imp, forall_and]

theorem not_quiet_singleton {x : LogRecord} (h : Level.warning ≤ x.level) : ¬ Quiet [x] :=
  fun hquiet => Int.not_lt.2 h (hquiet x List.mem_cons_self)

/-- The level on which a failed dispatch is on record. -/
def Failure.severity (e : Failure) : Level := if e.isOfBridge then .warning else .error

/-- Whether an outcome is a failure that is, or is not, one of the bridge. -/
def Outcome.failsWith (ofBridge : Bool) : Outcome → Bool
  | .success .. => false
  | .failure e => e.isOfBridge == ofBridge

namespace Reflector

/-! ## Marks of a reflector -/

/-- A record names the component of a reflector and its signature. -/
structure Marks (r : Reflector) (x : LogRecord) : Prop where
  component : x.component = r.recorder.component
  signature : x.signature = some r.signature.text

section

variable {r : Reflector} {level : Level} {message : Except HostError Text} {raised : Option Raised}
  {x : LogRecord}

theorem mem_emit (hx : x ∈ (r.emit level message raised).records) :
    r.Marks x ∧ x.level = level := by
  obtain rfl := Recorder.mem_emit hx
  exact ⟨⟨rfl, rfl⟩, rfl⟩

theorem beyondDebug_emit (hlevel : level ≠ Level.debug) :
    beyondDebug (r.emit level message raised).records = (r.emit level message raised).records := by
  refine List.filter_eq_self.2 fun x hx => ?_
  rw [(mem_emit hx).2]
  exact bne_iff_ne.2 hlevel

/-- The trace of a failure, where traces are logged. -/
def traceRecord (r : Reflector) (e : Failure) : Emission :=
  if r.resolver.settings.logTraces then
    r.emit .debug (.ok "Stack trace:") (some (Raised.ofFailure e))
  else {}

theorem mem_traceRecord {e : Failure} (hx : x ∈ (r.traceRecord e).records) :
    r.Marks x ∧ x.level = Level.debug := by
  unfold traceRecord at hx
  split at hx
  · exact mem_emit hx
  · cases hx

/-- What a failed dispatch puts on record beyond debug. -/
def alarm (r : Reflector) (e : Failure) : Emission :=
  let start := if e.isOfBridge then "Failed to reflect " else "Unexpected failure reflecting "
  r.emit e.severity (do return Text.concat [start, r.signature.text, ": ", ← e.text])
    (if e.isOfBridge then none else some (Raised.ofFailure e))

theorem failureRecords_eq (r : Reflector) (e : Failure) :
    r.failureRecords e = (r.alarm e).andThen
      (if e.isOfBridge then r.traceRecord e else { raised := e.unprintable? }) := by
  unfold failureRecords alarm Failure.severity traceRecord
  cases e.isOfBridge <;> rfl

theorem mem_failureRecords {e : Failure} (hx : x ∈ (r.failureRecords e).records) : r.Marks x := by
  rw [failureRecords_eq] at hx
  rcases Emission.mem_andThen hx with hx | hx
  · exact (mem_emit hx).1
  · split at hx
    · exact (mem_traceRecord hx).1
    · cases hx

theorem beyondDebug_failureRecords (r : Reflector) (e : Failure) :
    beyondDebug (r.failureRecords e).records = (r.alarm e).records := by
  have halarm : beyondDebug (r.alarm e).records = (r.alarm e).records := by
    refine beyondDebug_emit ?_
    rw [Failure.severity]
    split <;> decide
  have hbehind : beyondDebug (if e.isOfBridge then r.traceRecord e
      else { raised := e.unprintable? }).records = [] := by
    refine beyondDebug_eq_nil fun x hx => ?_
    split at hx
    · exact (mem_traceRecord hx).2
    · cases hx
  rw [failureRecords_eq, Emission.andThen]
  split
  · exact halarm
  · rw [beyondDebug_append, halarm, hbehind, List.append_nil]

theorem raised_alarm {e : Failure} {c : HostError} : (r.alarm e).raised = some c ↔
    r.recorder.shows e.severity = true ∧ e.unprintable? = some c := by
  rw [alarm, emit, Recorder.raised_emit, ← text_eq_error_iff]
  cases e.text <;> simp [bind, Except.bind, pure, Except.pure]

end

/-! ## Records of an outcome and of its commit -/

section

variable {σ : Type} {r : Reflector}

/-- The records of an outcome. -/
def outcomeRecords (r : Reflector) : Outcome → Emission
  | .success .. => {}
  | .failure e => r.failureRecords e

/-- What an outcome puts on record beyond debug. -/
def alarms (r : Reflector) : Outcome → Emission
  | .success .. => {}
  | .failure e => r.alarm e

theorem beyondDebug_outcomeRecords (r : Reflector) (outcome : Outcome) :
    beyondDebug (r.outcomeRecords outcome).records = (r.alarms outcome).records := by
  cases outcome with
  | success v created => rfl
  | failure e => exact beyondDebug_failureRecords r e

theorem beyondDebug_commitRecords (r : Reflector) (committed : Except HostError σ) :
    beyondDebug (r.commitRecords committed).records = (r.commitRecords committed).records := by
  cases committed with
  | ok g => rfl
  | error e => exact beyondDebug_emit (by decide)

theorem raised_commitRecords {committed : Except HostError σ} {e : HostError} :
    (r.commitRecords committed).raised = some e ↔
      r.recorder.shows .error = true ∧ ∃ c, committed = .error c ∧ c.unprintable? = some e := by
  cases committed with
  | ok g => simp [commitRecords]
  | error c =>
    have htext : c.text = .error e ↔ c.unprintable? = some e := text_eq_error_iff (f := .host c)
    rw [commitRecords, emit, Recorder.raised_emit]
    simp only [Except.error.injEq, exists_eq_left', ← htext]
    cases c.text <;> simp [bind, Except.bind, pure, Except.pure]

theorem records_commitRecords_of_raised {committed : Except HostError σ} {e : HostError}
    (hraised : (r.commitRecords committed).raised = some e) :
    (r.commitRecords committed).records = [] := by
  cases committed with
  | ok g => cases hraised
  | error c => exact Recorder.records_emit_of_raised hraised

/-- The alarms of an outcome, where none of them raises. -/
theorem countAt_alarms (hlevel : r.recorder.threshold ≤ Level.warning) {outcome : Outcome}
    (hquiet : (r.alarms outcome).raised = none) :
    countAt .warning (r.alarms outcome).records = (outcome.failsWith true).toNat ∧
      countAt .error (r.alarms outcome).records = (outcome.failsWith false).toNat ∧
      (Quiet (r.alarms outcome).records ↔ outcome.isUnknown = false) := by
  cases outcome with
  | success v created => exact ⟨rfl, rfl, fun _ => rfl, fun _ x hx => absurd hx List.not_mem_nil⟩
  | failure e =>
    have hemitted : r.recorder.threshold ≤ e.severity := by
      refine Int.le_trans hlevel ?_
      rw [Failure.severity]
      split <;> decide
    rw [alarms, alarm, emit, Recorder.records_emit hemitted hquiet, Failure.severity,
      Outcome.failsWith, Outcome.failsWith]
    have hloud : Level.warning ≤ Level.error := by decide
    cases e.isOfBridge with
    | true =>
      exact ⟨rfl, rfl, iff_of_false (not_quiet_singleton (Int.le_refl _)) Bool.noConfusion⟩
    | false => exact ⟨rfl, rfl, iff_of_false (not_quiet_singleton hloud) Bool.noConfusion⟩

/-- The records of a commit, where none of them raises. -/
theorem countAt_commitRecords (hlevel : r.recorder.threshold ≤ Level.warning)
    {committed : Except HostError σ} (hquiet : (r.commitRecords committed).raised = none) :
    countAt .warning (r.commitRecords committed).records = 0 ∧
      countAt .error (r.commitRecords committed).records = (!committed.isOk).toNat ∧
      (Quiet (r.commitRecords committed).records ↔ committed.isOk = true) := by
  cases committed with
  | ok g => exact ⟨rfl, rfl, fun _ => rfl, fun _ x hx => absurd hx List.not_mem_nil⟩
  | error e =>
    rw [commitRecords, emit, Recorder.records_emit (Int.le_trans hlevel (by decide)) hquiet]
    have hloud : Level.warning ≤ Level.error := by decide
    exact ⟨rfl, rfl, iff_of_false (not_quiet_singleton hloud) Bool.false_ne_true⟩

/-- The alarms of an outcome whose records raise: a failure of the bridge makes none, and any other
one an error if no console is to show it. -/
theorem countAt_alarms_of_raised (hlevel : r.recorder.threshold ≤ Level.warning) {outcome : Outcome}
    {e : HostError} (hraised : (r.outcomeRecords outcome).raised = some e) :
    countAt .warning (r.alarms outcome).records = 0 ∧
      countAt .error (r.alarms outcome).records =
        (outcome.failsWith false && !r.recorder.shows .error).toNat := by
  cases outcome with
  | success v created => cases hraised
  | failure f =>
    obtain ⟨hunprintable, hshows⟩ := raised_failureRecords.1 hraised
    by_cases hlost : r.recorder.shows f.severity = true
    · have hrecords : (r.alarms (.failure f)).records = [] :=
        Recorder.records_emit_of_raised (raised_alarm.2 ⟨hlost, hunprintable⟩)
      rw [hrecords]
      refine ⟨rfl, ?_⟩
      cases hbridge : f.isOfBridge with
      | true => simp [countAt, Outcome.failsWith, hbridge]
      | false =>
        rw [Failure.severity, hbridge] at hlost
        simp [countAt, show r.recorder.shows .error = true from hlost]
    · have hbridge : f.isOfBridge = false := by
        rw [Bool.eq_false_iff]
        intro hbridge
        rw [Failure.severity, hbridge] at hlost
        exact hlost (hshows hbridge)
      have hquiet : (r.alarms (.failure f)).raised = none := by
        rw [Option.eq_none_iff_forall_ne_some]
        exact fun c hc => hlost (raised_alarm.1 hc).1
      rw [Failure.severity, hbridge, if_neg Bool.false_ne_true, Bool.not_eq_true] at hlost
      obtain ⟨hwarnings, herrors, -⟩ := countAt_alarms hlevel hquiet
      rw [hwarnings, herrors, hlost]
      simp [Outcome.failsWith, hbridge]

/-- Where the records of an outcome raise nothing, no alarm does. -/
theorem raised_alarms_eq_none {outcome : Outcome}
    (hquiet : (r.outcomeRecords outcome).raised = none) : (r.alarms outcome).raised = none := by
  cases outcome with
  | success v created => rfl
  | failure f =>
    rw [Option.eq_none_iff_forall_ne_some]
    intro c hc
    obtain ⟨hshows, hunprintable⟩ := raised_alarm.1 hc
    refine Option.ne_none_iff_exists'.2
      ⟨c, raised_failureRecords.2 ⟨hunprintable, fun hbridge => ?_⟩⟩ hquiet
    rw [Failure.severity, hbridge] at hshows
    exact hshows

end

/-! ## Records of an invocation -/

section

variable {σ : Type} [RegisterFile σ] {r : Reflector} {h : Heap} {frame : σ} {x : LogRecord}

theorem mem_dispatchCall {announced : Except HostError Text} {call : BridgeM Value}
    (hx : x ∈ (r.dispatchCall h announced call).2.2) : r.Marks x ∧ x.level = Level.debug := by
  unfold dispatchCall at hx
  dsimp only at hx
  split at hx
  · exact mem_emit hx
  · rcases List.mem_append.1 hx with hx | hx
    · exact mem_emit hx
    · exact mem_emit hx

/-- An attempt makes debug records only. -/
theorem mem_attempt (hx : x ∈ (r.attempt h frame).2.2) : r.Marks x ∧ x.level = Level.debug := by
  rw [attempt] at hx
  cases hprepare : r.prepare h frame with
  | error e =>
    rw [hprepare] at hx
    cases hx
  | ok prepared =>
    obtain ⟨owner, args⟩ := prepared
    rw [hprepare] at hx
    dsimp only at hx
    split at hx
    · exact mem_dispatchCall hx
    split at hx
    · exact mem_dispatchCall hx
    split at hx
    · cases hx
    · exact mem_dispatchCall hx

/-- The records of a dispatch: those of its attempt, and behind them those of its outcome, which
alone may raise. -/
theorem records_dispatch (r : Reflector) (h : Heap) (frame : σ) :
    (r.dispatch h frame).records =
        (r.attempt h frame).2.2 ++ (r.outcomeRecords (r.dispatch h frame).outcome).records ∧
      (r.dispatch h frame).raised = (r.outcomeRecords (r.dispatch h frame).outcome).raised := by
  rw [dispatch]
  obtain ⟨result, h', log⟩ := r.attempt h frame
  cases result with
  | ok v => exact ⟨(List.append_nil log).symm, rfl⟩
  | error e => exact ⟨rfl, rfl⟩

theorem mem_dispatch (hx : x ∈ (r.dispatch h frame).records) : r.Marks x := by
  rw [(r.records_dispatch h frame).1, List.mem_append] at hx
  rcases hx with hx | hx
  · exact (mem_attempt hx).1
  · generalize (r.dispatch h frame).outcome = outcome at hx
    cases outcome with
    | success v created => cases hx
    | failure e => exact mem_failureRecords hx

theorem beyondDebug_dispatch (r : Reflector) (h : Heap) (frame : σ) :
    beyondDebug (r.dispatch h frame).records = (r.alarms (r.dispatch h frame).outcome).records := by
  rw [(r.records_dispatch h frame).1, beyondDebug_append, beyondDebug_outcomeRecords,
    beyondDebug_eq_nil fun x hx => (mem_attempt hx).2, List.nil_append]

theorem beyondDebug_context (r : Reflector) (h : Heap) (frame : σ) :
    beyondDebug (r.context h frame).records = [] :=
  beyondDebug_eq_nil fun _ hx => (mem_emit hx).2

/-- Where the record of the frame raises, nothing is on record. -/
theorem records_of_context {e : HostError} (hcontext : (r.context h frame).raised = some e) :
    (r.invoke h frame).records = [] := by
  rw [invoke_of_context hcontext]
  exact Recorder.records_emit_of_raised hcontext

/-- What an invocation that comes to its commit puts on record beyond debug. -/
theorem beyondDebug_of_dispatched (hcontext : (r.context h frame).raised = none)
    (hdispatch : (r.dispatch h frame).raised = none) :
    let outcome := (r.dispatch h frame).outcome
    beyondDebug (r.invoke h frame).records = (r.alarms outcome).records ++
      (r.commitRecords (commit frame r.signature outcome)).records := by
  intro outcome
  rw [invoke_of_dispatched hcontext hdispatch rfl, beyondDebug_append, beyondDebug_append,
    beyondDebug_context, beyondDebug_dispatch, beyondDebug_commitRecords, List.nil_append]

/-- Where an invocation raises nothing, none of its steps does. -/
theorem quiet_of_raised_eq_none (hquiet : (r.invoke h frame).raised = none) :
    (r.context h frame).raised = none ∧ (r.dispatch h frame).raised = none ∧
      (r.commitRecords (commit frame r.signature (r.dispatch h frame).outcome)).raised = none := by
  cases hcontext : (r.context h frame).raised with
  | some e =>
    rw [invoke_of_context hcontext] at hquiet
    cases hquiet
  | none =>
    cases hdispatch : (r.dispatch h frame).raised with
    | some e =>
      rw [invoke_of_dispatch hcontext hdispatch] at hquiet
      cases hquiet
    | none =>
      rw [invoke_of_dispatched hcontext hdispatch rfl] at hquiet
      exact ⟨rfl, rfl, hquiet⟩

theorem marks_of_mem_invoke (hx : x ∈ (r.invoke h frame).records) : r.Marks x := by
  cases hcontext : (r.context h frame).raised with
  | some e =>
    rw [invoke_of_context hcontext] at hx
    exact (mem_emit hx).1
  | none =>
    cases hdispatch : (r.dispatch h frame).raised with
    | some e =>
      rw [invoke_of_dispatch hcontext hdispatch] at hx
      rcases List.mem_append.1 hx with hx | hx
      · exact (mem_emit hx).1
      · exact mem_dispatch hx
    | none =>
      rw [invoke_of_dispatched hcontext hdispatch rfl, List.mem_append, List.mem_append] at hx
      rcases hx with (hx | hx) | hx
      · exact (mem_emit hx).1
      · exact mem_dispatch hx
      · generalize commit frame r.signature _ = committed at hx
        cases committed with
        | ok g => cases hx
        | error e => exact (mem_emit hx).1

end

end Reflector

/-! ## Logging traces -/

/-- The resolver that logs traces, or does not. -/
def Resolver.withTraces (r : Resolver) (b : Bool) : Resolver :=
  ⟨r.world, r.registry, { r.settings with logTraces := b }⟩

def Reflector.withTraces (r : Reflector) (b : Bool) : Reflector :=
  ⟨r.signature, r.resolver.withTraces b, r.recorder⟩

namespace Resolver

variable (r : Resolver) (b : Bool)

theorem alike_withTraces : r.Alike (r.withTraces b) := ⟨.refl r.world, rfl, rfl⟩

theorem variantTypes_withTraces {α : Type} (v : Overload α) :
    (r.withTraces b).variantTypes v = r.variantTypes v := by
  have htype : (r.withTraces b).typeOfDescriptor = r.typeOfDescriptor := by
    funext d
    simp only [typeOfDescriptor, (r.alike_withTraces b).hostType]
  rw [variantTypes, variantTypes, htype]

theorem price_withTraces {α : Type} (supplied : List HostType) (v : Overload α) :
    (r.withTraces b).price supplied v = r.price supplied v := by
  rw [price, price, variantTypes_withTraces]
  rfl

theorem scored_withTraces {α : Type} (supplied : List HostType) (vs : List (Overload α)) :
    (r.withTraces b).scored supplied vs = r.scored supplied vs := by
  induction vs with
  | nil => rfl
  | cons v vs ih =>
    rw [scored, scored, price_withTraces, ih]

theorem select_withTraces {α : Type} (set : OverloadSet α) (supplied : List HostType)
    (owner : Text) : (r.withTraces b).select set supplied owner = r.select set supplied owner := by
  rw [select, select, scored_withTraces]

theorem planOverload_withTraces (set : OverloadSet Callable) (owner label : Text)
    (leading : List Value) (args : Arguments) :
    (r.withTraces b).planOverload set owner label leading args =
      r.planOverload set owner label leading args := by
  simp only [planOverload, select_withTraces, variantTypes_withTraces]
  rfl

theorem planStatic_withTraces (owner : HostClass) (name : Text) (args : Arguments) :
    (r.withTraces b).planStatic owner name args = r.planStatic owner name args := by
  simp only [planStatic, planOverload_withTraces]
  rfl

theorem planConstructor_withTraces (owner : HostClass) (args : Arguments) :
    (r.withTraces b).planConstructor owner args = r.planConstructor owner args := by
  simp only [planConstructor, planOverload_withTraces]
  rfl

theorem planVirtual_withTraces (owner : HostClass) (name : Text) (receiver : Value)
    (args : Arguments) :
    (r.withTraces b).planVirtual owner name receiver args =
      r.planVirtual owner name receiver args := by
  simp only [planVirtual, planOverload_withTraces]
  rfl

end Resolver

namespace Reflector

section

variable {σ : Type} [RegisterFile σ] (r : Reflector) (b : Bool)

theorem signature_withTraces : (r.withTraces b).signature = r.signature := rfl

theorem announcing_withTraces (announced : Heap → Except HostError Text) :
    (r.withTraces b).announcing announced = r.announcing announced := rfl

/-- What is called does not depend on whether traces are logged. -/
theorem plan_withTraces (frame : σ) : (r.withTraces b).plan frame = r.plan frame := by
  have halike : r.resolver.Alike (r.withTraces b).resolver := r.resolver.alike_withTraces b
  have hprepare (h : Heap) : (r.withTraces b).prepare h frame = r.prepare h frame :=
    halike.prepare rfl h frame
  have hresolver : (r.withTraces b).resolver = r.resolver.withTraces b := rfl
  simp only [plan, hprepare, signature_withTraces, hresolver, announcing_withTraces,
    Resolver.planStatic_withTraces, Resolver.planConstructor_withTraces,
    Resolver.planVirtual_withTraces]

theorem call_withTraces (frame : σ) : (r.withTraces b).call frame = r.call frame := by
  rw [call, call, plan_withTraces]

variable (h : Heap) (frame : σ)

theorem outcome_withTraces :
    ((r.withTraces b).dispatch h frame).outcome = (r.dispatch h frame).outcome := by
  rw [outcome_dispatch, outcome_dispatch, call_withTraces, signature_withTraces]

theorem heap_withTraces :
    ((r.withTraces b).dispatch h frame).heap = (r.dispatch h frame).heap := by
  rw [heap_dispatch, heap_dispatch, call_withTraces]

/-- The trace of a failure has a text of its own and raises nothing. -/
theorem raised_withTraces :
    ((r.withTraces b).dispatch h frame).raised = (r.dispatch h frame).raised := by
  refine Option.ext fun e => ?_
  rw [raised_dispatch, raised_dispatch, call_withTraces]
  rfl

theorem beyondDebug_withTraces :
    beyondDebug ((r.withTraces b).dispatch h frame).records =
      beyondDebug (r.dispatch h frame).records := by
  rw [beyondDebug_dispatch, beyondDebug_dispatch, outcome_withTraces]
  rfl

/-- What an invocation leaves and raises does not depend on whether traces are logged, and neither
do its records beyond debug. -/
theorem invoke_withTraces :
    ((r.withTraces b).invoke h frame).frame = (r.invoke h frame).frame ∧
      ((r.withTraces b).invoke h frame).heap = (r.invoke h frame).heap ∧
      ((r.withTraces b).invoke h frame).raised = (r.invoke h frame).raised ∧
      beyondDebug ((r.withTraces b).invoke h frame).records =
        beyondDebug (r.invoke h frame).records := by
  cases hcontext : (r.context h frame).raised with
  | some e =>
    rw [invoke_of_context hcontext, invoke_of_context (r := r.withTraces b) hcontext]
    exact ⟨rfl, rfl, rfl, rfl⟩
  | none =>
    have hraised := r.raised_withTraces b h frame
    cases hdispatch : (r.dispatch h frame).raised with
    | some e =>
      rw [invoke_of_dispatch hcontext hdispatch,
        invoke_of_dispatch (r := r.withTraces b) hcontext (hraised.trans hdispatch)]
      refine ⟨rfl, r.heap_withTraces b h frame, rfl, ?_⟩
      rw [beyondDebug_append, beyondDebug_append, beyondDebug_withTraces]
      rfl
    | none =>
      have hcommit : commit frame (r.withTraces b).signature
          ((r.withTraces b).dispatch h frame).outcome =
            commit frame r.signature (r.dispatch h frame).outcome := by
        rw [outcome_withTraces]
        rfl
      rw [invoke_of_dispatched hcontext hdispatch rfl,
        invoke_of_dispatched (r := r.withTraces b) hcontext (hraised.trans hdispatch) hcommit]
      refine ⟨rfl, r.heap_withTraces b h frame, ?_, ?_⟩
      · generalize commit frame r.signature _ = committed
        cases committed <;> rfl
      · simp only [beyondDebug_append, beyondDebug_withTraces, beyondDebug_commitRecords]
        generalize commit frame r.signature _ = committed
        cases committed <;> rfl

/-- **No failure is silent and no success is noisy, unless the logging raises.**  Where warnings are
on record and nothing is raised, an invocation makes one warning if its dispatch fails with a
failure of the bridge, and one error for any other failure and one for a commit that fails; nothing
is on record from warnings up exactly when both succeed.

Where the record of the frame raises, nothing is on record at all; where the record of a failed
dispatch raises, there is no warning, and an error only where no console is to show it; and where
the record of a failed commit raises, only what the dispatch put on record is left.

All records bear the marks of the reflector, and whether traces are logged changes debug records
alone. -/
theorem alarms_invoke (hlevel : r.recorder.threshold ≤ Level.warning) :
    let start := r.context h frame
    let d := r.dispatch h frame
    let committed := commit frame r.signature d.outcome
    let i := r.invoke h frame
    (i.raised = none →
      countAt .warning i.records = (d.outcome.failsWith true).toNat ∧
      countAt .error i.records = (d.outcome.failsWith false).toNat + (!committed.isOk).toNat ∧
      (Quiet i.records ↔ d.outcome.isUnknown = false ∧ committed.isOk = true)) ∧
    (∀ e, i.raised = some e ↔ r.Raises h frame e ∨
      start.raised = none ∧ d.raised = none ∧ r.recorder.shows .error = true ∧
        ∃ c, committed = .error c ∧ c.unprintable? = some e) ∧
    (∀ e, start.raised = some e → i.records = []) ∧
    (∀ e, start.raised = none → d.raised = some e → countAt .warning i.records = 0 ∧
      countAt .error i.records = (d.outcome.failsWith false && !r.recorder.shows .error).toNat) ∧
    (∀ e, start.raised = none → d.raised = none → i.raised = some e →
      countAt .warning i.records = (d.outcome.failsWith true).toNat ∧
      countAt .error i.records = (d.outcome.failsWith false).toNat) ∧
    (∀ x ∈ i.records, r.Marks x) ∧
    ∀ b, ((r.withTraces b).invoke h frame).frame = i.frame ∧
      ((r.withTraces b).invoke h frame).heap = i.heap ∧
      ((r.withTraces b).invoke h frame).raised = i.raised ∧
      beyondDebug ((r.withTraces b).invoke h frame).records = beyondDebug i.records := by
  intro start d committed i
  refine ⟨fun hquiet => ?_, fun e => ?_, fun e hstart => ?_, fun e hstart hd => ?_,
    fun e hstart hd hraised => ?_, fun x => marks_of_mem_invoke,
    fun b => r.invoke_withTraces b h frame⟩
  · obtain ⟨hstart, hd, hlast⟩ := quiet_of_raised_eq_none hquiet
    obtain ⟨hwarnings, herrors, hsilent⟩ :=
      countAt_alarms hlevel (raised_alarms_eq_none ((r.records_dispatch h frame).2.symm.trans hd))
    obtain ⟨hwarnings', herrors', hsilent'⟩ := countAt_commitRecords hlevel hlast
    have hrecords := beyondDebug_of_dispatched hstart hd
    refine ⟨?_, ?_, ?_⟩
    · rw [← countAt_beyondDebug _ (by decide), hrecords, countAt_append, hwarnings, hwarnings',
        Nat.add_zero]
    · rw [← countAt_beyondDebug _ (by decide), hrecords, countAt_append, herrors, herrors']
    · rw [← quiet_beyondDebug, hrecords, quiet_append, hsilent, hsilent']
  · have hcommitted : commit frame r.signature d.outcome = committed := rfl
    rw [raised_invoke_iff hcommitted, raised_commitRecords]
  · exact records_of_context hstart
  · rw [show i = _ from invoke_of_dispatch hstart hd, ← countAt_beyondDebug .warning (by decide),
      ← countAt_beyondDebug .error (by decide), beyondDebug_append, beyondDebug_context,
      beyondDebug_dispatch]
    exact countAt_alarms_of_raised hlevel ((r.records_dispatch h frame).2.symm.trans hd)
  · obtain ⟨hwarnings, herrors, -⟩ :=
      countAt_alarms hlevel (raised_alarms_eq_none ((r.records_dispatch h frame).2.symm.trans hd))
    have hlost : (r.commitRecords committed).records = [] := by
      rw [show i = _ from invoke_of_dispatched hstart hd rfl] at hraised
      exact records_commitRecords_of_raised hraised
    rw [← countAt_beyondDebug .warning (by decide), ← countAt_beyondDebug .error (by decide),
      beyondDebug_of_dispatched hstart hd, hlost, List.append_nil]
    exact ⟨hwarnings, herrors⟩

end

/-- A resolver that knows nothing does not find the class. -/
theorem outcome_of_unbound {σ : Type} [RegisterFile σ] {s : Signature} {recorder : Recorder}
    (howner : s.ownerName = "x.C") (h : Heap) (frame : σ) :
    (dispatch ⟨s, ⟨{}, {}, {}⟩, recorder⟩ h frame).outcome =
      .failure (.bridge (.resolution (.classNotFound "x.C"))) := by
  have hresolve : Resolver.resolveClass ⟨{}, {}, {}⟩ s.ownerName =
      .error (.bridge (.resolution (.classNotFound "x.C"))) := by
    rw [howner, Resolver.resolveClass_eq]
    rfl
  have hprepare : prepare ⟨s, ⟨{}, {}, {}⟩, recorder⟩ h frame =
      .error (.bridge (.resolution (.classNotFound "x.C"))) := by
    rw [prepare, hresolve]
    rfl
  rw [dispatch, attempt, hprepare]

/-- A class that is not found makes a warning, and a frame that cannot be written an error as well.
-/
theorem alarms_read_only :
    let s : Signature := ⟨"Lx/C;", "x.C", "f", [], "I", true⟩
    let r : Reflector := ⟨s, ⟨{}, {}, {}⟩, ⟨"engine", .warning, none⟩⟩
    let f : ReadOnlyFrame := ⟨{}⟩
    let e : Failure := .bridge (.resolution (.classNotFound "x.C"))
    (r.dispatch {} f).outcome = .failure e ∧
      countAt .warning (r.invoke {} f).records = 1 ∧ countAt .error (r.invoke {} f).records = 1 ∧
      ¬ Quiet (r.invoke {} f).records ∧ (∀ x ∈ (r.invoke {} f).records, r.Marks x) ∧
      beyondDebug ((r.withTraces false).invoke {} f).records =
        beyondDebug (r.invoke {} f).records := by
  intro s r f e
  have houtcome : (r.dispatch {} f).outcome = .failure e := outcome_of_unbound rfl {} f
  obtain ⟨hcounts, hraised, -, -, -, hmarks, htraces⟩ := r.alarms_invoke {} f (Int.le_refl _)
  have hquiet : (r.invoke {} f).raised = none := by
    rw [Option.eq_none_iff_forall_ne_some]
    intro c hc
    rcases (hraised c).1 hc with (⟨hshows, -⟩ | ⟨-, hdispatch⟩) | ⟨-, -, hshows, -⟩
    · cases hshows
    · have hraises : (r.dispatch {} f).raised = some c := raised_dispatch.2 hdispatch
      rw [(r.records_dispatch {} f).2, houtcome] at hraises
      cases (raised_failureRecords.1 hraises).1
    · cases hshows
  obtain ⟨hwarnings, herrors, hsilent⟩ := hcounts hquiet
  rw [houtcome] at hwarnings herrors hsilent
  refine ⟨houtcome, hwarnings, herrors, fun h => ?_, hmarks, (htraces false).2.2.2⟩
  cases (hsilent.1 h).1

/-- A frame that holds an integer with too many digits, before a console that shows the lowest
level: the warning of a class that is not found is missing. -/
theorem silent_long_numeral :
    let s : Signature := ⟨"Lx/C;", "x.C", "f", [.primitive .int], "I", true⟩
    let r : Reflector := ⟨s, ⟨{}, {}, {}⟩, ⟨"engine", .debug, some .debug⟩⟩
    let f : Frame := .ofCells [⟨.integer (10 ^ digitLimit), "I"⟩]
    r.recorder.threshold ≤ Level.warning ∧
      (r.dispatch {} f).outcome = .failure (.bridge (.resolution (.classNotFound "x.C"))) ∧
      countAt .warning (r.invoke {} f).records = 0 ∧ Quiet (r.invoke {} f).records := by
  have hlevel : Level.debug ≤ Level.warning := by decide
  intro s r f
  have hstart : (r.context {} f).raised = some .numeralTooLong :=
    raised_context.2 ⟨rfl, Frame.quoted_pow_digitLimit {} _⟩
  rw [records_of_context hstart]
  exact ⟨hlevel, outcome_of_unbound rfl {} f, rfl, fun x hx => absurd hx List.not_mem_nil⟩

end Reflector

end HostCall
