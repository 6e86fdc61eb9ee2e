import HostCall.Invoke
import HostCall.Log.Record

/-!
# Reflection of one method

A reflector carries out the calls of one method reference: it resolves the owner, reads the
arguments from the frame, invokes the member, and commits the outcome to the frame.  Failures are
logged and leave an unknown value in the return slot.

The logging itself may fail.  A console raises where the text of a record cannot be made, and the
text of an error that is no failure of the bridge is made once more behind its record.  Only what
the announcement of a call raises is a failure like any other; the rest is raised to the caller.
-/

namespace HostCall

/-- The result of a dispatch. -/
inductive Outcome where
  | success (value : Value) (created : Value)
  | failure (e : Failure)
  deriving DecidableEq

namespace Outcome

def isUnknown : Outcome → Bool
  | .success .. => false
  | .failure _ => true

/-- What the return slot receives. -/
def cellValue : Outcome → Value
  | .success v _ => v
  | .failure _ => .unknown

end Outcome

section

variable {σ : Type} [RegisterFile σ]

/-- Commits an outcome.  A constructor writes its new receiver, a void method nothing, and any
other method its return slot. -/
def commit (frame : σ) (s : Signature) (o : Outcome) : Except HostError σ :=
  if s.isInstanceConstructor then
    match o with
    | .success _ created => RegisterFile.assign frame 0 ⟨created, s.owner⟩
    | .failure _ => .ok frame
  else if s.returnsVoid then .ok frame
  else RegisterFile.assignReturn frame ⟨o.cellValue, s.returnType⟩

end

structure Reflector where
  signature : Signature
  resolver : Resolver
  recorder : Recorder

namespace Reflector

/-- A record of the reflector. -/
def emit (r : Reflector) (level : Level) (message : Except HostError Text)
    (raised : Option Raised) : Emission :=
  r.recorder.emit level message (some r.signature.text) raised

def emitDebug (r : Reflector) (message : Except HostError Text) : Emission :=
  r.emit .debug message none

/-- What a dispatch gives: an outcome, the heap after it, the records made on the way, and the error
that the record of a failure raises. -/
structure Dispatch where
  outcome : Outcome
  heap : Heap
  records : List LogRecord
  raised : Option HostError

/-- The record that announces a call. -/
def announce (r : Reflector) (announced : Except HostError Text) : Emission :=
  r.emitDebug do return Text.concat ["Reflecting ", r.signature.text, ", ", ← announced]

/-- Runs the call behind the record that announces it. -/
def dispatchCall (r : Reflector) (h : Heap) (announced : Except HostError Text)
    (call : BridgeM Value) : Except Failure Value × Heap × List LogRecord :=
  let start := r.announce announced
  match start.raised with
  | some e => (.error (.host e), h, start.records)
  | none =>
    let (result, h') := call h
    -- the seconds that the call took, which the text ends with, are left out
    let finish := r.emitDebug (.ok (Text.concat ["Completed: ", r.signature.text]))
    (result, h', start.records ++ finish.records)

/-- How the owner of a call and its arguments are announced. -/
def announceOwner (h : Heap) (owner : HostClass) (args : Arguments) : Except HostError Text := do
  return Text.concat ["class=", owner.name, " args=", ← Value.quotedTuple h args.values]

/-- How the receiver of a call and its arguments are announced. -/
def announceReceiver (h : Heap) (receiver : Value) (args : Arguments) :
    Except HostError Text := do
  return Text.concat
    ["target=", ← receiver.quoted h, " args=", ← Value.quotedTuple h args.values]

section

variable {σ : Type} [RegisterFile σ]

/-- The owner of a call and its arguments. -/
def prepare (r : Reflector) (h : Heap) (frame : σ) : Except Failure (HostClass × Arguments) := do
  let owner ← r.resolver.resolveClass r.signature.ownerName
  return (owner, ← marshal r.resolver h frame r.signature)

/-- Resolves the owner, reads the arguments and calls. -/
def attempt (r : Reflector) (h : Heap) (frame : σ) :
    Except Failure (Value × Value) × Heap × List LogRecord :=
  let s := r.signature
  match r.prepare h frame with
  | .error e => (.error e, h, [])
  | .ok (owner, args) =>
    if s.isStatic then
      let (v, h', log) := r.dispatchCall h (announceOwner h owner args)
        (r.resolver.invokeStatic owner s.name args)
      (v.map fun v => (v, .null), h', log)
    else if s.isConstructor then
      let (v, h', log) := r.dispatchCall h (announceOwner h owner args)
        (r.resolver.invokeConstructor owner args)
      (v.map fun v => (.null, v), h', log)
    else
      match RegisterFile.peek frame 0 with
      | .error e => (.error (.host e), h, [])
      | .ok cell =>
        let (v, h', log) := r.dispatchCall h (announceReceiver h cell.value args)
          (r.resolver.invokeVirtual owner s.name cell.value args)
        (v.map fun v => (v, .null), h', log)

/-- The records of a failed dispatch: a warning for a failure of the bridge, with its trace where
traces are logged, and an error for any other, which is then cited once more. -/
def failureRecords (r : Reflector) (e : Failure) : Emission :=
  let raised := Raised.ofFailure e
  if e.isOfBridge then
    (r.emit .warning
      (do return Text.concat ["Failed to reflect ", r.signature.text, ": ", ← e.text]) none).andThen
      (if r.resolver.settings.logTraces then r.emit .debug (.ok "Stack trace:") (some raised)
      else {})
  else
    (r.emit .error
      (do return Text.concat ["Unexpected failure reflecting ", r.signature.text, ": ", ← e.text])
      (some raised)).andThen { raised := e.unprintable? }

def dispatch (r : Reflector) (h : Heap) (frame : σ) : Dispatch :=
  match r.attempt h frame with
  | (.ok (v, created), h', log) => ⟨.success v created, h', log, none⟩
  | (.error e, h', log) =>
    let failed := r.failureRecords e
    ⟨.failure e, h', log ++ failed.records, failed.raised⟩

/-- The record of the frame that a call begins with. -/
def context (r : Reflector) (h : Heap) (frame : σ) : Emission :=
  r.emitDebug do
    return Text.concat
      ["Reflecting ", r.signature.text, " with context:\n", ← RegisterFile.describe h frame]

/-- The records of a commit. -/
def commitRecords (r : Reflector) : Except HostError σ → Emission
  | .ok _ => {}
  | .error e => r.emit .error
      (do return Text.concat ["Failed to commit result of ", r.signature.text, ": ", ← e.text])
      (some (Raised.ofHostError e))

/-- What an invocation leaves behind, and the error that it raises. -/
structure Invocation (σ : Type) where
  frame : σ
  heap : Heap
  records : List LogRecord
  raised : Option HostError

/-- Invokes the method on a frame and commits the outcome. -/
def invoke (r : Reflector) (h : Heap) (frame : σ) : Invocation σ :=
  let start := r.context h frame
  match start.raised with
  | some e => ⟨frame, h, start.records, some e⟩
  | none =>
    let d := r.dispatch h frame
    match d.raised with
    | some e => ⟨frame, d.heap, start.records ++ d.records, some e⟩
    | none =>
      let committed := commit frame r.signature d.outcome
      let last := r.commitRecords committed
      ⟨committed.toOption.getD frame, d.heap, start.records ++ d.records ++ last.records,
        last.raised⟩

end

end Reflector

end HostCall
