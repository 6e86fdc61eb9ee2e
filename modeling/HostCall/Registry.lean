import HostCall.HostType

/-!
# The registry of bound classes

A class of the interpreted program is bound to a host type and to the class that holds its
members.  The registry has two tables: the last binding of a name wins, and the first binding of
a host type.

`lookup_add` and `forType_add` say what each table answers after one more entry.
-/

namespace HostCall

/-- A class name with its host type and the class that holds its members. -/
structure HostClass where
  name : Text
  hostType : HostType
  members : HostType
  deriving DecidableEq

structure Registry where
  byName : List (Text × HostClass) := []
  byType : List (HostType × HostClass) := []
  deriving DecidableEq

namespace Registry

/-- Replaces the entry of a key, or adds one at the end. -/
def put {κ ν : Type} [BEq κ] (key : κ) (value : ν) : List (κ × ν) → List (κ × ν)
  | [] => [(key, value)]
  | (k, v) :: rest => if key == k then (k, value) :: rest else (k, v) :: put key value rest

theorem lookup_put {κ ν : Type} [BEq κ] [LawfulBEq κ] (key k : κ) (value : ν)
    (t : List (κ × ν)) :
    (put key value t).lookup k = if k == key then some value else t.lookup k := by
  induction t with
  | nil => simp [put, List.lookup_cons]; split <;> simp_all
  | cons e rest ih =>
    obtain ⟨k', v⟩ := e
    unfold put
    split
    · rename_i h
      obtain rfl := eq_of_beq h
      by_cases hk : k == key <;> simp [List.lookup_cons, hk]
    · rename_i h
      by_cases hk : k == k'
      · obtain rfl := eq_of_beq hk
        have : (k == key) = false := by
          cases hb : k == key
          · rfl
          · exact absurd (by rw [eq_of_beq hb]; exact beq_self_eq_true _) h
        simp [this]
      · have hk' : (k == k') = false := by simpa using hk
        simp only [List.lookup_cons, hk', ih]

def lookup (r : Registry) (name : Text) : Option HostClass := r.byName.lookup name

def forType (r : Registry) (t : HostType) : Option HostClass := r.byType.lookup t

/-- The registry with one more entry. -/
def add (r : Registry) (e : HostClass) : Registry :=
  ⟨put e.name e r.byName,
    if (r.forType e.hostType).isSome then r.byType else r.byType ++ [(e.hostType, e)]⟩

/-- Binds a name; without a class of members the host type holds them itself. -/
def register (r : Registry) (name : Text) (hostType : HostType) (members : Option HostType) :
    HostClass × Registry :=
  let e : HostClass := ⟨name, hostType, members.getD hostType⟩
  (e, r.add e)

/-- All names, sorted. -/
def names (r : Registry) : List Text := Text.sort (r.byName.map Prod.fst)

def contains (r : Registry) (name : Text) : Bool := (r.lookup name).isSome

def size (r : Registry) : Nat := r.byName.length

theorem lookup_add (r : Registry) (e : HostClass) (name : Text) :
    (r.add e).lookup name = if name == e.name then some e else r.lookup name :=
  lookup_put _ _ _ _

theorem forType_add (r : Registry) (e : HostClass) (t : HostType) :
    (r.add e).forType t = (r.forType t).or (if t == e.hostType then some e else none) := by
  unfold add forType
  cases hbound : r.byType.lookup e.hostType with
  | some old =>
    -- An older entry of the type stays, so nothing is added for it.
    by_cases ht : t = e.hostType
    · simp [ht, hbound]
    · simp [ht]
  | none =>
    have hone : List.lookup t [(e.hostType, e)] = if t == e.hostType then some e else none := by
      cases h : t == e.hostType <;> simp [List.lookup_cons, h]
    simp only [Option.isSome_none, Bool.false_eq_true, if_false]
    rw [List.lookup_append, hone]

/-- Decorating a class of members binds a name to it.  An empty registry counts as none, and the
default one is used instead; the result has the registry first and the default one second. -/
def decorate (r default : Registry) (name : Text) (hostType : Option HostType)
    (members : HostType) : Registry × Registry :=
  let e : HostClass := ⟨name, hostType.getD members, members⟩
  if r.size = 0 then (r, default.add e) else (r.add e, default)

end Registry

end HostCall
