import HostCall.Error
import HostCall.Log.Level

/-!
# Log records

A record carries the component that made it, the signature that was being reflected, and the error
that was being handled.  Its text is made when a sink asks for it, which may fail.

A `Recorder` says what becomes of the records of a component, and an `Emission` is what comes of
records that are made one after another: a console that takes a record without a text raises the
error, so that no further records are made.
-/

namespace HostCall

/-- An error as a record shows it: its class and text, and the class of its cause. -/
structure Raised where
  kind : ErrorKind
  message : Text
  cause : Option ErrorKind := none
  deriving DecidableEq

namespace Raised

def ofFailure : Failure → Raised
  | .bridge e => ⟨e.kind, e.message, e.cause?⟩
  | .host e => ⟨e.kind, e.message, none⟩
  | .refused _ => ⟨.other "ValidationError", "", none⟩

def ofHostError (e : HostError) : Raised := ⟨e.kind, e.message, none⟩

/-- The last line of a trace: the class, and the text if there is any. -/
def trace (r : Raised) : Text :=
  if r.message = [] then r.kind.qualifiedName
  else Text.concat [r.kind.qualifiedName, ": ", r.message]

end Raised

structure LogRecord where
  level : Level
  /-- The text, or why it cannot be made. -/
  message : Except HostError Text
  component : Text
  signature : Option Text
  raised : Option Raised := none
  deriving DecidableEq

/-- What becomes of the records of a component. -/
structure Recorder where
  component : Text
  /-- Records below this level are not made. -/
  threshold : Level
  /-- The least level that a console shows, if there is one.  Other sinks pass over a record whose
  text cannot be made, but a console raises the error. -/
  console : Option Level := none

/-- Whether records of a level are shown on a console. -/
def Recorder.shows (r : Recorder) (level : Level) : Bool :=
  decide (r.threshold ≤ level) && r.console.any fun least => decide (least ≤ level)

/-- Records that are made one after another, and the error that a console ends them with. -/
structure Emission where
  records : List LogRecord := []
  raised : Option HostError := none

/-- Further records, unless an error has been raised. -/
def Emission.andThen (a b : Emission) : Emission :=
  match a.raised with
  | some _ => a
  | none => ⟨a.records ++ b.records, b.raised⟩

theorem Emission.mem_andThen {a b : Emission} {x : LogRecord} (hx : x ∈ (a.andThen b).records) :
    x ∈ a.records ∨ x ∈ b.records := by
  unfold andThen at hx
  split at hx
  · exact .inl hx
  · exact List.mem_append.1 hx

/-- Makes one record, if its level is high enough. -/
def Recorder.emit (r : Recorder) (level : Level) (message : Except HostError Text)
    (signature : Option Text) (raised : Option Raised) : Emission :=
  if level < r.threshold then {}
  else match message with
    | .ok _ => { records := [⟨level, message, r.component, signature, raised⟩] }
    | .error e =>
      if r.shows level then { raised := some e }
      else { records := [⟨level, message, r.component, signature, raised⟩] }

namespace Recorder

variable {r : Recorder} {level : Level} {message : Except HostError Text} {signature : Option Text}
  {raised : Option Raised} {e : HostError} {x : LogRecord}

/-- A record raises an error where a console is to show it and its text is that error. -/
theorem raised_emit : (r.emit level message signature raised).raised = some e ↔
    r.shows level = true ∧ message = .error e := by
  unfold emit
  by_cases hlow : level < r.threshold
  · have hshows : r.shows level = false := by
      rw [shows, decide_eq_false (Int.not_le.2 hlow), Bool.false_and]
    simp [hlow, hshows]
  · rw [if_neg hlow]
    cases message with
    | ok t => simp
    | error e' => cases hshows : r.shows level <;> simp

/-- A record that is made bears the component and the signature. -/
theorem mem_emit (hx : x ∈ (r.emit level message signature raised).records) :
    x = ⟨level, message, r.component, signature, raised⟩ := by
  unfold emit at hx
  split at hx
  · cases hx
  · split at hx
    · exact List.mem_singleton.1 hx
    · split at hx
      · cases hx
      · exact List.mem_singleton.1 hx

/-- A record that raises an error is not made. -/
theorem records_emit_of_raised (hraised : (r.emit level message signature raised).raised = some e) :
    (r.emit level message signature raised).records = [] := by
  obtain ⟨hshows, hmessage⟩ := raised_emit.1 hraised
  unfold emit
  rw [hmessage, hshows]
  split <;> rfl

/-- A record of a level that is high enough is made where it raises nothing. -/
theorem records_emit (hlevel : r.threshold ≤ level)
    (hquiet : (r.emit level message signature raised).raised = none) :
    (r.emit level message signature raised).records =
      [⟨level, message, r.component, signature, raised⟩] := by
  unfold emit at hquiet ⊢
  rw [if_neg (Int.not_lt.2 hlevel)] at hquiet ⊢
  cases message with
  | ok t => rfl
  | error e' =>
    cases hshows : r.shows level with
    | true => simp [hshows] at hquiet
    | false => rfl

end Recorder

end HostCall
