import HostCall.Disk
import HostCall.Log.Event

/-!
# Loggers and their files

Loggers of one component share a channel, which has a level and sinks.  A logger is a view of its
channel with a context of its own; binding more context makes another view.  A file sink moves its
file aside when the next line would fill it, and keeps a number of older ones.
-/

namespace HostCall

/-! ## Sinks -/

/-- A file that lines are put into; `stream` is the number of the file that is open. -/
structure FileSink where
  place : Place
  stream : Nat
  level : Level
  json : Bool
  maxBytes : Int
  backups : Int

inductive Sink where
  | console (level : Level)
  | file (s : FileSink)

namespace FileSink

/-- Where the `n`-th older file stands. -/
def backup (s : FileSink) (n : Nat) : Place :=
  s.place.dropLast ++ [Text.concat [s.place.getLastD [], ".", Text.ofNat n]]

/-- Moves older files one number up, the oldest first, and the file itself to number one. -/
def shift (s : FileSink) (d : Disk) : Disk :=
  if s.backups ≤ 0 then d
  else
    let numbers := (List.range (s.backups.toNat - 1)).reverse.map (· + 1)
    let d := numbers.foldl (fun d n => d.move (s.backup n) (s.backup (n + 1))) d
    (d.remove (s.backup 1)).move s.place (s.backup 1)

/-- Starts a file at the sink's place, after older ones have been moved. -/
def rollOver (s : FileSink) (d : Disk) : FileSink × Disk :=
  let (stream, d) := (s.shift d).obtain s.place
  ({ s with stream }, d)

/-- Whether a line of `length` code points fills the file. -/
def isFull (s : FileSink) (d : Disk) (length : Nat) : Bool :=
  0 < s.maxBytes && s.maxBytes ≤ (d.content s.stream).length + length

/-- Writes the line of an event.  An event without a line is passed over. -/
def write (s : FileSink) (h : Heap) (d : Disk) (e : Event) : FileSink × Disk :=
  match if s.json then e.jsonLine h else e.textLine h with
  | .error _ => (s, d)
  | .ok line =>
    let line : Text := line ++ "\n"
    let (s, d) := if s.isFull d line.length then s.rollOver d else (s, d)
    match Utf8.encode? line with
    | none => (s, d)
    | some bytes => (s, d.append s.stream bytes)

end FileSink

/-! ## Channels and loggers -/

/-- What the loggers of one component share. -/
structure Channel where
  level : Level := .notSet
  propagates : Bool := true
  sinks : List Sink := []

/-- A view of the channel of its component. -/
structure Logger where
  component : Text
  context : List (Text × Value) := []

/-- The settings that a shared logger is made for. -/
structure LoggerSettings where
  level : Text := "WARNING"
  file : Option Text := none
  json : Bool := false
  console : Bool := true
  deriving DecidableEq

structure LoggerOptions extends LoggerSettings where
  maxBytes : Int := 10485760
  backups : Int := 5

/-- Channels by component, loggers by number, shared loggers by component, and the disk. -/
structure Logbook where
  channels : List (Text × Channel) := []
  loggers : List Logger := []
  shared : List (Text × LoggerSettings × Nat) := []
  disk : Disk := {}

/-- Work on a logbook; what has been done before a failure stays. -/
abbrev LogM := ExceptT HostError (StateM Logbook)

/-- The full name of the logger of a component. -/
def Logger.fullName (component : Text) : Text := Text.concat ["reflector.", component]

namespace Logbook

def channel (b : Logbook) (component : Text) : Channel :=
  (b.channels.lookup component).getD {}

def setChannel (b : Logbook) (component : Text) (c : Channel) : Logbook :=
  { b with channels := (component, c) :: b.channels.filter fun e => e.1 ≠ component }

/-- The level inherited from the components that a dotted name lies beneath, nearest first. -/
def inheritedLevel (b : Logbook) : List Text → Level
  | [] => .warning
  | component :: rest =>
    Level.orInherited (b.channel component).level (inheritedLevel b rest)

/-- The dotted names that a name lies beneath, nearest first. -/
def ancestors (component : Text) : List Text :=
  let parts := Text.splitOn '.' component
  ((List.range (parts.length - 1)).map fun n => Text.join "." (parts.take (n + 1))).reverse

/-- The level of a component, or the one it inherits. -/
def effectiveLevel (b : Logbook) (component : Text) : Level :=
  Level.orInherited (b.channel component).level (b.inheritedLevel (ancestors component))

def isEnabled (b : Logbook) (component : Text) (l : Level) : Bool :=
  0 < l && b.effectiveLevel component ≤ l

def addLogger (l : Logger) : LogM Nat := modifyGet fun b =>
  (b.loggers.length, { b with loggers := b.loggers ++ [l] })

def addSink (component : Text) (s : Sink) : LogM Unit := modify fun b =>
  let c := b.channel component
  b.setChannel component { c with sinks := c.sinks ++ [s] }

/-- Opens a file for lines; the folders on the way to it are made. -/
def openFile (path : Text) (level : Level) (o : LoggerOptions) : LogM FileSink := do
  let p := Path.ofText path
  p.parent.check
  let (made, d) := (← get).disk.ensureFolders p.parent
  modify fun b => { b with disk := d }
  made
  let (stream, d) ← d.openFile p
  modify fun b => { b with disk := d }
  return ⟨p.place, stream, level, o.json, o.maxBytes, o.backups⟩

/-- A new logger.  Its channel gets the level and sinks of the options in place of those it had. -/
def create (component : Text) (o : LoggerOptions) : LogM Nat := do
  modify fun b => b.setChannel component (b.channel component)
  let level ← Level.ofSetting o.level
  modify fun b => b.setChannel component ⟨level, false, []⟩
  if o.console then addSink component (.console (← Level.ofWord o.level))
  match o.file with
  | none => pure ()
  | some path => addSink component (.file (← openFile path level o))
  addLogger ⟨component, []⟩

def ofSettings (component : Text) (s : LoggerSettings) : LogM Nat :=
  create component { s with }

/-- The shared logger of a component, which is made anew when the settings are others. -/
def obtainShared (component : Text) (s : LoggerSettings) : LogM Nat := do
  match (← get).shared.lookup component with
  | some (s', n) => if s' = s then return n
  | none => pure ()
  let n ← ofSettings component s
  modify fun b => { b with shared := (component, s, n) :: b.shared }
  return n

/-- The text of a level that is given as a value; only texts have an upper case. -/
def levelWord : Value → Except HostError Text
  | .text t => .ok t
  | v => .error (.noAttribute v.errorName "upper")

/-- The value of a name. -/
def valueOf? (entries : List (Text × Value)) (name : Text) : Option Value := entries.lookup name

/-- Entries with others put over them; new names stand behind. -/
def overlay (entries more : List (Text × Value)) : List (Text × Value) :=
  entries.map (fun (k, v) => (k, (valueOf? more k).getD v)) ++
    more.filter fun e => (valueOf? entries e.1).isNone

/-- Refuses named arguments that the places of a method take already. -/
def checkNames (method : Text) (places : List Text) (named : List (Text × Value)) :
    Except HostError Unit :=
  match named.find? fun e => e.1 ∈ places with
  | some (name, _) => .error (.severalValues (Text.concat ["BridgeLogger.", method]) name)
  | none => .ok ()

/-- Another view of a logger's channel, with more context. -/
def bind (l : Logger) (context : List (Text × Value)) : LogM Nat := do
  checkNames "bind" ["self"] context
  addLogger { l with context := overlay l.context context }

/-! ## Events -/

/-- What a logger is asked to log. -/
structure Request where
  level : Level
  template : Text
  arguments : List Value := []
  /-- Attributes that are given to the event by name. -/
  attributes : List (Text × Value) := []
  /-- Data to be bound to the event. -/
  data : List (Text × Value) := []
  /-- The error that is being handled. -/
  current : Option Raised := none
  /-- Whether the event tells of an error: a tuple stands for one itself, and for any other value
  that counts as true the current one is taken. -/
  withError : Value := .null
  /-- Whether the event tells where it was made. -/
  withStack : Value := .null
  /-- How many callers up the event was made. -/
  stackLevel : Value := .integer 1

/-- Names of arguments that are no data. -/
def controlNames : List Text := ["exc_info", "stack_info", "stacklevel"]

/-- Names that events have of their own. -/
def reservedNames : List Text := ["message", "asctime", "name", "msg", "args", "levelname",
  "levelno", "pathname", "filename", "module", "exc_info", "exc_text", "stack_info", "lineno",
  "funcName", "created", "msecs", "relativeCreated", "thread", "threadName", "processName",
  "process"]

/-- The attributes in an argument: the entries of a mapping; what counts as false means none. -/
def attributesOf (h : Heap) (v : Value) : Except HostError (List (Text × Value)) := do
  if !(← v.truth h) then return []
  match v with
  | .list _ | .byteArray _ => throw (.sequenceIndex v.errorName "str")
  | .array .. => throw .arrayIndex
  | v => match v.entries? h with
    | some entries => return Value.named entries
    | none => throw (.noItemAssignment v.errorName)

/-- The methods that log, and their levels. -/
def methods : List (Text × Level) := [("debug", Level.debug), ("info", Level.info),
  ("warning", Level.warning), ("error", Level.error), ("exception", Level.error)]

/-- A request through a method with named arguments; `current` is the error being handled. -/
def Request.ofArguments (h : Heap) (method template : Text) (arguments : List Value)
    (named : List (Text × Value)) (current : Option Raised) : Except HostError Request := do
  match methods.lookup method with
  | none => throw (.noAttribute "BridgeLogger" method)
  | some level =>
    checkNames method ["self", "msg"] named
    let given (name : Text) (default : Value) : Value := (valueOf? named name).getD default
    return {
      level, template, arguments, current
      attributes := ← attributesOf h (given "extra" .null)
      data := named.filter fun e => e.1 ≠ "extra" && e.1 ∉ controlNames
      withError := given "exc_info" (.boolean (method = "exception"))
      withStack := given "stack_info" .null
      stackLevel := given "stacklevel" (.integer 1) }

/-- A count of callers is compared with zero. -/
def checkStackLevel : Value → Except HostError Unit
  | .array _ items _ => do let _ ← Value.truthOfItems (items.map fun _ => true)
  | v =>
    if v.number?.isSome then .ok ()
    else .error (.notComparable ">" v.errorName "int")

/-- What the event of a request tells of an error. -/
def Request.info (h : Heap) (r : Request) : Except HostError ErrorInfo := do
  if !(← r.withError.truth h) then return .none
  match r.withError, r.current with
  | .tuple _, _ => return .value r.withError
  | _, some e => return .raised e
  | _, none => return .absent

/-- The data of an event: the context without the signature, under the data of the request.
Where there is none, the attribute of that name. -/
def dataOf (l : Logger) (r : Request) : EventData :=
  match overlay (l.context.filter fun e => e.1 ≠ "signature") r.data with
  | [] => match valueOf? r.attributes "bridge_extra" with
    | some v => .value v
    | none => .none
  | entries => .fields entries

def eventOf (h : Heap) (l : Logger) (r : Request) (created : Double) :
    Except HostError Event := do
  checkStackLevel r.stackLevel
  let _ ← r.withStack.truth h
  let info ← r.info h
  match r.attributes.find? fun e => e.1 ∈ reservedNames with
  | some (name, _) => throw (.reservedAttribute name)
  | none => return {
      logger := .text (Logger.fullName l.component), level := r.level
      template := .text r.template, arguments := .list r.arguments, created := .real created
      component := .text l.component
      signature := (valueOf? l.context "signature").getD .null
      data := dataOf l r, info }

/-- Hands an event to the sinks that take its level.  A file passes over an event without a line;
a console raises why there is none, and no further sink gets the event. -/
def deliver (h : Heap) (e : Event) : List Sink → Disk → Except HostError Unit × List Sink × Disk
  | [], d => (.ok (), [], d)
  | .file s :: rest, d =>
    let (s, d) := if s.level ≤ e.level then s.write h d e else (s, d)
    let (result, rest, d) := deliver h e rest d
    (result, .file s :: rest, d)
  | .console level :: rest, d =>
    match if level ≤ e.level then e.checkShown h else .ok () with
    | .error fault => (.error fault, .console level :: rest, d)
    | .ok () =>
      let (result, rest, d) := deliver h e rest d
      (result, .console level :: rest, d)

/-- Logs a request through a logger: the event, or nothing below the logger's level. -/
def log (h : Heap) (l : Logger) (r : Request) (created : Double) : LogM (Option Event) := do
  let b ← get
  if !b.isEnabled l.component r.level then return none
  let e ← eventOf h l r created
  let c := b.channel l.component
  let (result, sinks, disk) := deliver h e c.sinks b.disk
  set ({ b with disk }.setChannel l.component { c with sinks })
  result
  return some e

/-- The request that a timed run makes at its end. -/
def Request.completed (label : Text) (seconds : Double) : Request where
  level := Level.debug
  template := "Completed: %s (%.6f sec)"
  arguments := [.text label, .real seconds]

end Logbook

end HostCall
