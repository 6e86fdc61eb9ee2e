import HostCall.Configuration
import HostCall.Proofs.Result

/-!
# Configurations that are written and read

A configuration is written as a table of its sections and read from a document.  Whether two items,
sections or configurations are the same, and whether a document holds the tables that it should, is
computed, with the entries of a table in any order.

A section that stands in a document under the name that is read comes back (`readSection_of_entry`),
whatever further entries stand beside its own.  Main statement, `load_toTable`: a configuration
comes back from the document that holds its sections under the names that are read.  It is written
with its global settings under another name, and from such a document these are never read.
-/

namespace HostCall

open Result
open Toml (Item Table)

/-! ## Items up to the order of entries -/

namespace Toml

mutual

/-- Whether two items are the same; tables are when they have the same items under the same keys. -/
def Item.same : Item → Item → Bool
  | .leaf v, .leaf w => v = w
  | .date d, .date e => d = e
  | .time t, .time u => t = u
  | .moment d t o, .moment e u p => d = e ∧ t = u ∧ o = p
  | .array is, .array js => sameItems is js
  | .table s, .table t => s.length = t.length && sameEntries s t
  | _, _ => false

def sameItems : List Item → List Item → Bool
  | [], [] => true
  | i :: is, j :: js => i.same j && sameItems is js
  | _, _ => false

/-- Whether each entry stands in a table too, with the same item. -/
def sameEntries : List (Text × Item) → Table → Bool
  | [], _ => true
  | (k, i) :: rest, t =>
    (match t.lookup k with
      | some j => i.same j
      | none => false) && sameEntries rest t

end

theorem sameEntries_iff {s t : Table} :
    sameEntries s t = true ↔ ∀ e ∈ s, ∃ j, t.lookup e.1 = some j ∧ e.2.same j = true := by
  induction s with
  | nil => simp [sameEntries]
  | cons e rest ih =>
    obtain ⟨k, i⟩ := e
    rw [sameEntries, Bool.and_eq_true, ih, List.forall_mem_cons]
    refine and_congr_left' ?_
    cases t.lookup k with
    | none => simp
    | some j => simp

/-- Whether a table has these tables with all of their entries.  There may be more tables, and more
entries in each of them. -/
def Table.extends (t u : Table) : Bool :=
  u.all fun (name, i) =>
    match i, t.lookup name with
    | .table entries, some (.table found) => sameEntries entries found
    | _, _ => false

theorem Table.lookup_of_extends {t u : Table} (h : t.extends u = true) {name : Text}
    {entries : Table} (hu : (name, .table entries) ∈ u) :
    ∃ found, t.lookup name = some (.table found) ∧ sameEntries entries found = true := by
  have hfound := List.all_eq_true.1 h _ hu
  dsimp only at hfound
  split at hfound
  · rename_i entries' found heq hlookup
    cases heq
    exact ⟨found, hlookup, hfound⟩
  · cases hfound

end Toml

/-! ## Sections -/

namespace Section

variable {s : Schema}

/-- Whether two sections have the same items in their fields. -/
def same (x y : Section s) : Bool := Toml.sameEntries x.values y.values

theorem isSome_get?_iff (x : Section s) (k : Text) : (x.get? k).isSome = true ↔ k ∈ s.fields := by
  rw [← x.fields_eq, get?, List.lookup_isSome_iff]
  simp

/-- A section comes back from a table that has all of its entries, whatever else the table has. -/
theorem same_overlay {x : Section s} {t : Table} (h : Toml.sameEntries x.values t = true) :
    x.same (.overlay s t) = true := by
  apply Toml.sameEntries_iff.2
  intro e he
  obtain ⟨j, hj, hsame⟩ := Toml.sameEntries_iff.1 h e he
  have hfield : e.1 ∈ s.fields := x.fields_eq ▸ List.mem_map_of_mem he
  obtain ⟨i, hi⟩ := Option.isSome_iff_exists.1 (((default s).isSome_get?_iff e.1).2 hfield)
  refine ⟨j, ?_, hsame⟩
  have hget := get?_overlay (s := s) t e.1
  rw [show s.defaults.lookup e.1 = some i from hi, Option.map_some, hj, Option.getD_some] at hget
  exact hget

end Section

namespace Configuration

variable {c : Configuration} {d : Disk} {p : Path} {t : Table}

/-- Whether two configurations have the same sections. -/
def same (c c' : Configuration) : Bool :=
  c.globalSettings.same c'.globalSettings && c.reflector.same c'.reflector

/-- The sections as one table, under the names under which they are read. -/
def toDocument (c : Configuration) : Table :=
  [(Schema.logging.table, .table c.globalSettings.values),
    (Schema.bridge.table, .table c.reflector.values)]

/-- Each section is read from the entry of its own name, if that is a table. -/
theorem readSection_of_entry {s : Schema} {entries : Table}
    (h : t.lookup s.table = some (.table entries)) :
    readSection s t = .ok (.overlay s entries) := by
  rw [readSection, h]

theorem readSection_of_extends {s : Schema} {u : Table} (h : t.extends u = true) {x : Section s}
    (hu : (s.table, .table x.values) ∈ u) :
    ∃ y, readSection s t = .ok y ∧ x.same y = true := by
  obtain ⟨found, hlookup, hsame⟩ := Toml.Table.lookup_of_extends h hu
  exact ⟨_, readSection_of_entry hlookup, Section.same_overlay hsame⟩

end Configuration

/-! ## Documents -/

namespace Disk

/-- What the document at a path denotes, if there is one. -/
def document? (d : Disk) (p : Path) : Option Table := do
  let bytes ← (d.read p).toOption
  let text ← (Encoding.utf8.decode .strict bytes).toOption
  (Table.parse text).toOption

/-- Whether the document at a path has these tables with all of their entries. -/
def holds (d : Disk) (p : Path) (u : Table) : Bool := (d.document? p).any fun t => t.extends u

/-- Whether the document at a path has anything under a name. -/
def mentions (d : Disk) (p : Path) (name : Text) : Bool :=
  (d.document? p).any fun t => (t.lookup name).isSome

/-- What a document holds and what it does not, from one look at it. -/
theorem holds_of_document {d : Disk} {p : Path} {u : Table} {name : Text}
    (h : ((d.document? p).any fun t =>
      t.extends u && Table.extends u t && (t.lookup name).isNone) = true) :
    d.holds p u = true ∧ ((d.document? p).any fun t => Table.extends u t) = true ∧
      d.mentions p name = false := by
  obtain ⟨t, hdocument, ht⟩ := (Option.any_eq_true _ _).1 h
  rw [Bool.and_eq_true, Bool.and_eq_true, Option.isNone_iff_eq_none] at ht
  obtain ⟨⟨hextends, hexact⟩, habsent⟩ := ht
  rw [holds, mentions, hdocument, Option.any_some, Option.any_some, Option.any_some, habsent]
  exact ⟨hextends, hexact, rfl⟩

theorem find_of_read {d : Disk} {p : Path} {bytes : List UInt8} (h : d.read p = .ok bytes) :
    p.check = .ok () ∧ ∃ e, d.find p = .ok e := by
  obtain ⟨_, hcheck, h⟩ := bind_eq_ok_iff.1 h
  refine ⟨hcheck, ?_⟩
  split at h
  · cases h
  · cases h
  · rename_i n hfind
    exact ⟨_, hfind⟩

end Disk

namespace Configuration

variable {c : Configuration} {d : Disk} {p : Path} {t : Table}

/-- What is loaded from a path is what its document denotes. -/
theorem load_of_document (h : d.document? p = some t) : load d (some p) = ofTable t := by
  obtain ⟨bytes, hread, h⟩ := Option.bind_eq_some_iff.1 h
  obtain ⟨text, hdecode, h⟩ := Option.bind_eq_some_iff.1 h
  rw [toOption_eq_some_iff] at hread hdecode h
  obtain ⟨hcheck, e, hfind⟩ := Disk.find_of_read hread
  rw [load, hcheck, hfind]
  dsimp only
  rw [hread, ok_bind, ofBytes, hdecode, mapError_ok, ok_bind, h]

/-- A document without global settings leaves their defaults. -/
theorem load_of_holds_toTable (hholds : d.holds p c.toTable = true)
    (hglobal : d.mentions p Schema.logging.table = false) :
    ∃ c', load d (some p) = .ok c' ∧ c'.globalSettings = default ∧
      c.reflector.same c'.reflector = true := by
  obtain ⟨t, hdocument, hextends⟩ := (Option.any_eq_true _ _).1 hholds
  have habsent : t.lookup Schema.logging.table = none := by
    rw [Disk.mentions, hdocument, Option.any_some] at hglobal
    exact Option.isSome_eq_false_iff.1 hglobal |> Option.isNone_iff_eq_none.1
  have hlogging : readSection .logging t = .ok default := by
    rw [readSection, habsent]
    rfl
  have hmem : (Schema.bridge.table, Item.table c.reflector.values) ∈ c.toTable :=
    List.mem_cons_of_mem _ List.mem_cons_self
  obtain ⟨y, hy, hsame⟩ := readSection_of_extends hextends hmem
  refine ⟨⟨default, y⟩, ?_, rfl, hsame⟩
  rw [load_of_document hdocument, ofTable, hlogging, hy]
  rfl

theorem load_of_holds_toDocument (hholds : d.holds p c.toDocument = true) :
    ∃ c', load d (some p) = .ok c' ∧ c.same c' = true := by
  obtain ⟨t, hdocument, hextends⟩ := (Option.any_eq_true _ _).1 hholds
  have hlogging : (Schema.logging.table, Item.table c.globalSettings.values) ∈ c.toDocument :=
    List.mem_cons_self
  have hbridge : (Schema.bridge.table, Item.table c.reflector.values) ∈ c.toDocument :=
    List.mem_cons_of_mem _ List.mem_cons_self
  obtain ⟨x, hx, hsamex⟩ := readSection_of_extends hextends hlogging
  obtain ⟨y, hy, hsamey⟩ := readSection_of_extends hextends hbridge
  refine ⟨⟨x, y⟩, ?_, ?_⟩
  · rw [load_of_document hdocument, ofTable, hx, hy]
    rfl
  · rw [same, hsamex, hsamey]
    rfl

/-- Settings with a file to log to are not the defaults. -/
theorem not_same_default {x : Section .logging}
    (hfile : x.get? "log_file" ≠ some (.leaf .null)) : x.same default = false := by
  apply Bool.eq_false_iff.2
  intro hsame
  have hfield : Text.ofString "log_file" ∈ Schema.logging.fields := by decide
  obtain ⟨i, hi⟩ := Option.isSome_iff_exists.1 ((x.isSome_get?_iff _).2 hfield)
  obtain ⟨before, after, hvalues, -⟩ := List.lookup_eq_some_iff.1 hi
  have hmem : (Text.ofString "log_file", i) ∈ x.values := by
    rw [hvalues]
    exact List.mem_append_right before List.mem_cons_self
  obtain ⟨j, hj, hij⟩ := Toml.sameEntries_iff.1 hsame _ hmem
  -- by default there is no file, and only null is the same as that
  obtain rfl : Item.leaf .null = j := Option.some.inj hj
  cases i with
  | leaf v =>
    rw [Item.same, decide_eq_true_eq] at hij
    subst hij
    exact hfile hi
  | _ => cases hij

/-- **Configurations come back from the names that are read.**  The document with the sections of a
configuration under these names gives the same configuration, whatever else stands in it.  As the
configuration is written, its global settings stand under another name: the document gives the
bridge back and the defaults for everything else, which is never the same for a configuration with a
file to log to. -/
theorem load_toTable (d : Disk) (p : Path) (c : Configuration) :
    (d.holds p c.toTable = true → d.mentions p Schema.logging.table = false →
      ∃ c', load d (some p) = .ok c' ∧ c'.globalSettings = default ∧
        c.reflector.same c'.reflector = true ∧
        c.same c' = c.globalSettings.same default ∧
        (c.globalSettings.get? "log_file" ≠ some (.leaf .null) → c.same c' = false)) ∧
    (d.holds p c.toDocument = true → ∃ c', load d (some p) = .ok c' ∧ c.same c' = true) := by
  constructor
  · intro hholds hglobal
    obtain ⟨c', hload, hdefault, hbridge⟩ := load_of_holds_toTable hholds hglobal
    have hsame : c.same c' = c.globalSettings.same default := by
      rw [same, hbridge, hdefault, Bool.and_true]
    refine ⟨c', hload, hdefault, hbridge, hsame, ?_⟩
    intro hfile
    rw [hsame]
    exact not_same_default hfile
  · exact load_of_holds_toDocument

/-- A configuration that logs to a file. -/
def loggingToFile : Configuration :=
  { globalSettings := .overlay .logging [("log_file", .leaf (.text "a.log"))] }

/-- A disk with one document: these settings with the logging under the given name, and further
lines behind them. -/
def diskOfSettings (path logging : Text) (further : List Text) : Disk :=
  let lines : List Text := [
    "[", logging, "]\n", "log_level = 'WARNING'\n", "log_file = 'a.log'\n", "log_json = false\n",
    "console_logging = true\n", "version = '1.0.0'\n",
    "[reflector]\n", "zero_as_null = true\n", "log_traces = true\n", "denied_types = []\n",
    "aliases = \x7b\x7d\n", "host_modules = []\n", "import_roots = []\n"]
  { files := [([path], 0)]
    contents := [(Text.concat (lines ++ further)).flatMap Utf8.encodePoint] }

theorem document_diskOfSettings :
    (((diskOfSettings "c" "global_settings" []).document? ⟨[], ["c"]⟩).any fun t =>
      t.extends loggingToFile.toTable && Table.extends loggingToFile.toTable t &&
        (t.lookup Schema.logging.table).isNone) = true := by
  decide +kernel

theorem log_file_loggingToFile :
    loggingToFile.globalSettings.get? "log_file" ≠ some (.leaf .null) := nofun

/-- The same settings under the names that are written, and under those that are read beside entries
that are no fields. -/
theorem load_toTable_loggingToFile :
    let p : Path := ⟨[], ["c"]⟩
    let written := diskOfSettings "c" "global_settings" []
    let read := diskOfSettings "c" "global" ["later = 1\n", "[later]\n", "x = 'y'\n"]
    (written.holds p loggingToFile.toTable = true ∧
      written.mentions p Schema.logging.table = false ∧
      loggingToFile.globalSettings.get? "log_file" ≠ some (.leaf .null) ∧
      ∃ c', load written (some p) = .ok c' ∧ loggingToFile.same c' = false) ∧
    read.holds p loggingToFile.toDocument = true ∧
      ∃ c', load read (some p) = .ok c' ∧ loggingToFile.same c' = true := by
  intro p written read
  obtain ⟨hwritten, -, hglobal⟩ := Disk.holds_of_document document_diskOfSettings
  have hread : read.holds p loggingToFile.toDocument = true := by decide +kernel
  obtain ⟨c', hload, -, -, -, hsame⟩ :=
    (load_toTable written p loggingToFile).1 hwritten hglobal
  exact ⟨⟨hwritten, hglobal, log_file_loggingToFile, c', hload, hsame log_file_loggingToFile⟩,
    hread, (load_toTable read p loggingToFile).2 hread⟩

/-- From a document with exactly what is written, another configuration is loaded. -/
theorem not_loaded_as_written :
    let p : Path := ⟨[], ["c"]⟩
    let written := diskOfSettings "c" "global_settings" []
    loggingToFile.globalSettings.get? "log_file" = some (.leaf (.text "a.log")) ∧
      written.holds p loggingToFile.toTable = true ∧
      ((written.document? p).any fun t => Table.extends loggingToFile.toTable t) = true ∧
      ∃ c', load written (some p) = .ok c' ∧ c'.globalSettings = default ∧
        loggingToFile.same c' = false := by
  intro p written
  obtain ⟨hwritten, hexact, hglobal⟩ := Disk.holds_of_document document_diskOfSettings
  obtain ⟨c', hload, hdefault, -⟩ := load_of_holds_toTable hwritten hglobal
  refine ⟨rfl, hwritten, hexact, c', hload, hdefault, ?_⟩
  rw [same, hdefault, not_same_default log_file_loggingToFile, Bool.false_and]

end Configuration

end HostCall
