import HostCall.Disk
import HostCall.Text.Encoding
import HostCall.Toml.Document

/-!
# Configuration

A configuration has two sections, each with a value for every one of its fields.  It is read from
a document: fields that the document does not mention keep their defaults, and names that are no
fields are passed over.

`Section.get?_overlay` says what a field is after a document is read.
-/

namespace HostCall

open Toml (Item Table)

/-- What a section is: its name in documents, its name in messages, its fields with defaults. -/
structure Schema where
  table : Text
  label : Text
  defaults : Table

namespace Schema

/-- What is logged, and where to. -/
def logging : Schema := ⟨"global", "GlobalConfig", [
  ("log_level", .leaf (.text "WARNING")),
  ("log_file", .leaf .null),
  ("log_json", .leaf (.boolean false)),
  ("console_logging", .leaf (.boolean true)),
  ("version", .leaf (.text "1.0.0"))]⟩

/-- How calls are carried out. -/
def bridge : Schema := ⟨"reflector", "ReflectorConfig", [
  ("zero_as_null", .leaf (.boolean true)),
  ("log_traces", .leaf (.boolean true)),
  ("denied_types", .array []),
  ("aliases", .table []),
  ("host_modules", .array []),
  ("import_roots", .array [])]⟩

def fields (s : Schema) : List Text := s.defaults.map Prod.fst

end Schema

/-- A value for each field of a schema, in the order of the schema. -/
structure Section (s : Schema) where
  values : Table
  fields_eq : values.map Prod.fst = s.fields

namespace Section

variable {s : Schema}

def default (s : Schema) : Section s := ⟨s.defaults, rfl⟩

instance : Inhabited (Section s) := ⟨default s⟩

def get? (x : Section s) (field : Text) : Option Item := x.values.lookup field

/-- Gives fields the values that `f` has for them. -/
def update (x : Section s) (f : Text → Option Item) : Section s :=
  ⟨x.values.map fun (k, i) => (k, (f k).getD i), by
    rw [← x.fields_eq, List.map_map]
    rfl⟩

/-- The defaults under the fields that a table has. -/
def overlay (s : Schema) (t : Table) : Section s := (default s).update fun k => t.lookup k

theorem get?_update (x : Section s) (f : Text → Option Item) (k : Text) :
    (x.update f).get? k = (x.get? k).map fun i => (f k).getD i := by
  simp only [get?, update]
  induction x.values with
  | nil => rfl
  | cons e rest ih =>
    obtain ⟨n, j⟩ := e
    by_cases h : k = n
    · simp [h]
    · simp only [List.map_cons, List.lookup_cons, beq_eq_false_iff_ne.2 h]
      exact ih

theorem get?_overlay (t : Table) (k : Text) :
    (overlay s t).get? k = (s.defaults.lookup k).map fun i => (t.lookup k).getD i :=
  get?_update _ _ _

/-- Sets a field; there is no other attribute to set. -/
def assign (x : Section s) (field : Text) (i : Item) : Except HostError (Section s) :=
  match x.get? field with
  | none => .error (.noAttribute s.label field)
  | some _ => .ok (x.update fun k => if k = field then some i else none)

/-- Puts an item behind those of the list in a field. -/
def append (x : Section s) (field : Text) (i : Item) : Except HostError (Section s) :=
  match x.get? field with
  | none => .error (.noAttribute s.label field)
  | some (.array items) =>
    .ok (x.update fun k => if k = field then some (.array (items ++ [i])) else none)
  | some other => .error (.noAttribute other.errorName "append")

end Section

structure Configuration where
  globalSettings : Section .logging := default
  reflector : Section .bridge := default

namespace Configuration

/-- A section of a document, with an empty one where the document has none. -/
def readSection (s : Schema) (t : Table) : Except HostError (Section s) :=
  match t.lookup s.table with
  | none => .ok (.default s)
  | some (.table entries) => .ok (.overlay s entries)
  | some other => .error (.noAttribute other.errorName "items")

def ofTable (t : Table) : Except HostError Configuration := do
  return ⟨← readSection .logging t, ← readSection .bridge t⟩

/-- The configuration in the bytes of a document. -/
def ofBytes (bytes : List UInt8) : Except HostError Configuration := do
  let t ← (Encoding.utf8.decode .strict bytes).mapError .encoding
  match Table.parse t with
  | .error .malformed => throw .badDocument
  | .error (.tooManyDigits n) => throw (.tooManyDigits n)
  | .ok table => ofTable table

/-- The sections as one table. -/
def toTable (c : Configuration) : Table :=
  [("global_settings", .table c.globalSettings.values),
    ("reflector", .table c.reflector.values)]

/-- Reads the document at a path; without a path the defaults are taken. -/
def load (d : Disk) : Option Path → Except HostError Configuration
  | none => .ok {}
  | some p =>
    match p.check, d.find p with
    | .ok (), .ok _ => do ofBytes (← d.read p)
    | .ok (), .error .nameTooLong => .error (.file .nameTooLong p.text)
    | _, _ => .error (.noConfiguration p.text)

/-- Sets a field of a section by the names of both. -/
def assign (c : Configuration) (name field : Text) (i : Item) : Except HostError Configuration :=
  if name = "global_settings" then do
    return { c with globalSettings := ← c.globalSettings.assign field i }
  else if name = "reflector" then do return { c with reflector := ← c.reflector.assign field i }
  else .error (.noAttribute "AppConfig" name)

end Configuration

/-- The configurations that have been made, by number; one of them is kept to be shared. -/
structure Configurations where
  made : List Configuration := []
  shared : Option Nat := none

namespace Configurations

def add (cs : Configurations) (c : Configuration) : Nat × Configurations :=
  (cs.made.length, { cs with made := cs.made ++ [c] })

def get (cs : Configurations) (n : Nat) : Configuration := cs.made.getD n {}

def set (cs : Configurations) (n : Nat) (c : Configuration) : Configurations :=
  { cs with made := cs.made.set n c }

/-- The shared configuration.  It is loaded when a path is given or when there is none yet. -/
def obtainShared (cs : Configurations) (d : Disk) (p : Option Path) :
    Except HostError (Nat × Configurations) :=
  match cs.shared, p with
  | some n, none => .ok (n, cs)
  | _, p => do
    let (n, cs) := cs.add (← Configuration.load d p)
    return (n, { cs with shared := some n })

end Configurations

end HostCall
