import HostCall.Value.Basic

/-!
# Documents of tables

What a TOML document denotes: tables of named items in the order of their first mention.  Items
are values of the host, dates and times, arrays and tables.

`Table.lookup_put` says what is read after an item is put into a table.
-/

namespace HostCall.Toml

/-- A day of the proleptic Gregorian calendar. -/
structure Date where
  year : Nat
  month : Nat
  day : Nat
  deriving DecidableEq

structure TimeOfDay where
  hour : Nat
  minute : Nat
  second : Nat
  microsecond : Nat
  deriving DecidableEq

inductive Item where
  | leaf (v : Value)
  | date (d : Date)
  | time (t : TimeOfDay)
  /-- A date with a time and, where one is given, the offset from universal time in minutes. -/
  | moment (d : Date) (t : TimeOfDay) (offset : Option Int)
  | array (items : List Item)
  | table (entries : List (Text × Item))

namespace Item

/-- The name that host errors give the type of an item. -/
def errorName : Item → Text
  | .leaf v => v.errorName
  | .date _ => "datetime.date"
  | .time _ => "datetime.time"
  | .moment .. => "datetime.datetime"
  | .array _ => "list"
  | .table _ => "dict"

/-- Arrays and tables. -/
def isContainer : Item → Bool
  | .array _ | .table _ => true
  | _ => false

end Item

abbrev Table := List (Text × Item)

/-- A path of names into nested tables. -/
abbrev Key := List Text

namespace Table

/-- Replaces the item of a name, or puts it behind the others. -/
def put (k : Text) (i : Item) : Table → Table
  | [] => [(k, i)]
  | (k', i') :: rest => if k' = k then (k', i) :: rest else (k', i') :: put k i rest

theorem lookup_put (k k' : Text) (i : Item) (t : Table) :
    List.lookup k' (put k i t) = if k' = k then some i else List.lookup k' t := by
  induction t with
  | nil =>
    by_cases h : k' = k
    · simp [put, h]
    · simp [put, List.lookup_cons, h, beq_eq_false_iff_ne.2 h]
  | cons e rest ih =>
    obtain ⟨n, j⟩ := e
    by_cases hn : n = k
    · subst hn
      by_cases h : k' = n
      · simp [put, h]
      · simp [put, List.lookup_cons, h, beq_eq_false_iff_ne.2 h]
    · by_cases h : k' = n
      · subst h
        simp [put, hn]
      · simp only [put, hn, if_false, List.lookup_cons, beq_eq_false_iff_ne.2 h]
        exact ih

/-- Changes the table at a path, making the tables that are missing.  With `throughArrays` a path
leads through an array to its last table. -/
def updateAt (throughArrays : Bool) (f : Table → Option Table) : Key → Table → Option Table
  | [], t => f t
  | k :: path, t =>
    match t.lookup k with
    | none => (updateAt throughArrays f path []).map fun inner => put k (.table inner) t
    | some (.table inner) =>
      (updateAt throughArrays f path inner).map fun inner => put k (.table inner) t
    | some (.array items) =>
      if throughArrays then
        match items.getLast? with
        | some (.table inner) => (updateAt throughArrays f path inner).map fun inner =>
            put k (.array (items.dropLast ++ [.table inner])) t
        | _ => none
      else none
    | some _ => none

/-- Adds an item under a name that is still free. -/
def addNew (k : Text) (i : Item) (t : Table) : Option Table :=
  match t.lookup k with
  | none => some (t ++ [(k, i)])
  | some _ => none

/-- Adds an empty table to the array under a name, which is made if there is none. -/
def addTable (k : Text) (t : Table) : Option Table :=
  match t.lookup k with
  | none => some (t ++ [(k, .array [.table []])])
  | some (.array items) => some (put k (.array (items ++ [.table []])) t)
  | some _ => none

end Table

end HostCall.Toml
