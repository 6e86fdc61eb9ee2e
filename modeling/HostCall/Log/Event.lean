import HostCall.Log.Instant
import HostCall.Log.Record
import HostCall.Value.Json
import HostCall.Value.Template

/-!
# Events and their lines

An event is what a logger hands to its sinks: a template with arguments, the time, the component
and signature it belongs to, and data bound to it.  Its line is JSON or plain text.
-/

namespace HostCall

/-- Data bound to an event. -/
inductive EventData where
  | none
  | value (v : Value)
  | fields (entries : List (Text × Value))

namespace EventData

/-- The data as JSON, if there is any. -/
def json? (h : Heap) : EventData → Except HostError (Option Text)
  | .none => .ok Option.none
  | .value .null => .ok Option.none
  | .value v => (v.json h).map some
  | .fields entries => do
    return some (Json.object (← entries.mapM fun (k, v) => do return (k, ← v.json h)))

end EventData

/-- What the template of an event is filled with. -/
inductive EventArguments where
  | list (values : List Value)
  /-- One value in place of all arguments; what counts as false means none. -/
  | whole (v : Value)

/-- What an event tells about an error. -/
inductive ErrorInfo where
  | none
  /-- That there was no error. -/
  | absent
  | raised (r : Raised)
  /-- A value in place of an error. -/
  | value (v : Value)

structure Event where
  /-- The full name of the logger. -/
  logger : Value
  level : Level
  levelName : Value := .text level.name
  template : Value
  arguments : EventArguments := .list []
  /-- Seconds since the start of 1970. -/
  created : Value
  component : Value := .null
  signature : Value := .null
  data : EventData := .none
  info : ErrorInfo := .none

namespace EventArguments

/-- What fills the template: nothing without arguments.  A mapping that is the only argument and not
empty is asked for its entries. -/
def supply? (h : Heap) : EventArguments → Except HostError (Option Supply)
  | .list [] => .ok none
  | .list [v] => match v.entries? h with
    | some (_ :: _) => .ok (some (.ofValue h v))
    | _ => .ok (some (.sequence [v]))
  | .list vs => .ok (some (.sequence vs))
  | .whole v => do
    if ← v.truth h then return some (.ofValue h v) else return none

end EventArguments

namespace ErrorInfo

/-- The items of a value in place of an error: its class, the error and its trace. -/
def items (h : Heap) : Value → Except HostError (List Value)
  | .list a | .tuple a => .ok (h.items a)
  | v => .error (.notSubscriptable v.errorName)

/-- Why a value in place of an error has no trace. -/
def fault (v : Value) : List Value → HostError
  | _ :: w :: t :: _ =>
    if t = .null then .noAttribute w.errorName "__suppress_context__"
    else .noAttribute t.errorName "tb_frame"
  | _ => .raised .index (Text.concat [v.errorName, " index out of range"])

/-- The trace where it is told only of an error. -/
def trace? (h : Heap) : ErrorInfo → Except HostError (Option Text)
  | .none | .absent => .ok Option.none
  | .raised r => .ok (some r.trace)
  | .value v => do
    if !(← v.truth h) then return Option.none
    match ← items h v with
    | _ :: .null :: _ => return Option.none
    | vs => throw (fault v vs)

/-- The trace where it is told also that there was no error. -/
def fullTrace? (h : Heap) : ErrorInfo → Except HostError (Option Text)
  | .none => .ok Option.none
  | .absent => .ok (some noError)
  | .raised r => .ok (some r.trace)
  | .value v => do
    if !(← v.truth h) then return Option.none
    match ← items h v with
    | _ :: .null :: .null :: _ => return some noError
    | vs => throw (fault v vs)
where
  noError : Text := "NoneType: None"

/-- The error that is told of. -/
def raised? : ErrorInfo → Option Raised
  | .raised r => some r
  | _ => Option.none

end ErrorInfo

namespace Event

def message (h : Heap) (e : Event) : Except HostError Text := do
  let template ← e.template.display h
  match ← e.arguments.supply? h with
  | none => return template
  | some s => Template.fill h s template

/-- A member of the JSON line; null is left out. -/
def member (h : Heap) (name : Text) (v : Value) : Except HostError (List (Text × Text)) := do
  if v = .null then return [] else return [(name, ← v.json h)]

/-- The event as one JSON object. -/
def jsonLine (h : Heap) (e : Event) : Except HostError Text := do
  let stamp ← (← Instant.ofValue e.created).precise
  let message ← e.message h
  let trace : List (Text × Text) := match ← e.info.trace? h with
    | none => []
    | some t => [("exc_info", Json.text t)]
  let fixed : List (Text × Text) := [("timestamp", Json.text stamp),
    ("level", ← e.levelName.json h), ("logger", ← e.logger.json h),
    ("message", Json.text message)]
  let extra : List (Text × Text) := match ← e.data.json? h with
    | none => []
    | some t => [("extra", t)]
  return Json.object (List.flatten [fixed, ← member h "component" e.component,
    ← member h "signature" e.signature, extra, trace])

/-- The event as text: time, level, logger and message between bars; the trace of an error follows
on a line of its own. -/
def textLine (h : Heap) (e : Event) : Except HostError Text := do
  let message ← e.message h
  let stamp ← (← Instant.ofValue e.created).brief
  let trace : Text := match ← e.info.fullTrace? h with
    | none => []
    | some t => '\n' :: t
  return Text.concat [stamp, " | ", Text.padRight ' ' 8 (← e.levelName.display h), " | ",
    ← e.logger.display h, " | ", message, trace]

/-- What a console needs of an event: its message and the trace of its error. -/
def checkShown (h : Heap) (e : Event) : Except HostError Unit := do
  let _ ← e.message h
  let _ ← e.info.fullTrace? h

/-- The event with attributes set by name; names that its lines do not show are passed over. -/
def withAttributes (e : Event) (attributes : List (Text × Value)) : Event :=
  let find? (name : Text) : Option Value := attributes.lookup name
  let get (name : Text) (v : Value) : Value := (find? name).getD v
  { e with
    logger := get "name" e.logger
    levelName := get "levelname" e.levelName
    template := get "msg" e.template
    arguments := ((find? "args").map .whole).getD e.arguments
    created := get "created" e.created
    component := get "component" e.component
    signature := get "signature" e.signature
    data := ((find? "bridge_extra").map .value).getD e.data
    info := ((find? "exc_info").map .value).getD e.info }

end Event

end HostCall
