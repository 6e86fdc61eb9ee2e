import HostCall.Attribute
import HostCall.Callable
import HostCall.Overload

/-!
# The host universe

Modules with their attributes, and classes with their bases and members.  `Universe.lineage` gives
the order in which the bases of a type are searched, `Universe.load` what importing a module does.
-/

namespace HostCall

/-- What a name in a class is bound to. -/
inductive Member where
  | method (f : Callable)
  | staticMethod (f : Callable)
  | classMethod (f : Callable)
  | property (f : Callable)
  | overloads (set : OverloadSet Callable)
  | nested (t : HostType)
  | module
  | constant (v : Value)
  /-- A function of classes that their instances do not have. -/
  | classOnly (f : Callable)

/-- What a path finds where a member stands. -/
def Member.attribute : Member → Attribute
  | .nested t => .type t
  | .module => .module
  | .overloads _ => .object .overloads
  | .property _ => .object .property
  | .constant (.integer _) | .constant (.boolean _) => .object .integer
  | .constant (.text _) => .object .text
  | .constant (.type t) => .type t
  | .constant v => .value v.typeOf
  | _ => .object .plain

/-- What a path finds where a member stands on a value: there is no function of classes. -/
def Member.valueAttribute? : Member → Option Attribute
  | .classOnly _ => none
  | .property _ => some (.object .plain)
  | m => some m.attribute

structure ClassDecl where
  /-- The bases in the order in which they are searched, without the class itself. -/
  bases : List HostType := [.object]
  members : List (Text × Member) := []
  construct : Callable

/-- A registration that a module makes when it is imported. -/
structure Binding where
  name : Text
  hostType : HostType
  members : HostType
  deriving DecidableEq

structure HostModule where
  isPackage : Bool := false
  attributes : List (Text × Attribute) := []
  bindings : List Binding := []

/-- A module that can be imported, or the error that importing it raises. -/
inductive ModuleState where
  | present (m : HostModule)
  | failing (e : HostError)

/-- The modules and classes.  A class may decide itself which classes are below it and which values
are its instances, and neither answer follows from the other; else its bases decide. -/
structure Universe where
  modules : List (Text × ModuleState) := []
  classes : List (HostType × ClassDecl) := []
  /-- What a class says of another one that is asked about, when it decides itself. -/
  subclassCheck : HostType → HostType → Option (Except HostError Bool) := fun _ _ => none
  /-- What a class says of a value, when it decides itself. -/
  instanceCheck : Value → HostType → Option (Except HostError Bool) := fun _ _ => none

namespace Universe

def declOf? (u : Universe) (t : HostType) : Option ClassDecl := u.classes.lookup t

/-- The type and its bases in the order in which they are searched. -/
def lineage (u : Universe) (t : HostType) : List HostType :=
  match t with
  | .declared _ => match u.declOf? t with
    | some d => t :: d.bases
    | none => [t, .object]
  | t => t.lineage

theorem head?_lineage (u : Universe) (t : HostType) : (u.lineage t).head? = some t := by
  unfold lineage
  split
  · split <;> rfl
  · exact t.head?_lineage

theorem mem_lineage_self (u : Universe) (t : HostType) : t ∈ u.lineage t :=
  List.mem_of_head? (u.head?_lineage t)

/-- Whether a type derives from another one; numeric types count as numbers, and the built-in
sequences as sequences. -/
def isSubtype (u : Universe) (t s : HostType) : Bool :=
  (u.lineage t).elem s || (s == .number && HostType.isNumeric (u.lineage t)) ||
    (s == .declared HostType.sequence && HostType.isSequence (u.lineage t))

/-- Whether a class is below another one, as the latter says or as its bases do. -/
def isSubclass (u : Universe) (t s : HostType) : Except HostError Bool :=
  match if t.mayDecide s then u.subclassCheck t s else none with
  | some answer => answer
  | none => .ok (u.isSubtype t s)

/-- Whether a value is an instance of a class; it always is one of its own type. -/
def isInstance (u : Universe) (v : Value) (t : HostType) : Except HostError Bool :=
  if v.typeOf = t then .ok true
  else match if v.typeOf.mayDecide t then u.instanceCheck v t else none with
    | some answer => answer
    | none => .ok (u.isSubtype v.typeOf t)

theorem isSubtype_self (u : Universe) (t : HostType) : u.isSubtype t t = true := by
  simp [isSubtype, u.mem_lineage_self t]

theorem isInstance_typeOf (u : Universe) (v : Value) : u.isInstance v v.typeOf = .ok true :=
  if_pos rfl

/-- Where no class decides itself, the bases of the value's type do. -/
theorem isInstance_eq_isSubtype {u : Universe} {v : Value} {t : HostType}
    (h : v.typeOf.mayDecide t = true → u.instanceCheck v t = none) :
    u.isInstance v t = .ok (u.isSubtype v.typeOf t) := by
  unfold isInstance
  by_cases hself : v.typeOf = t
  · rw [if_pos hself, ← hself, isSubtype_self]
  · rw [if_neg hself]
    cases hdecide : v.typeOf.mayDecide t with
    | false => rfl
    | true =>
      rw [if_pos rfl, h hdecide]

theorem isSubclass_eq_isSubtype {u : Universe} {t s : HostType}
    (h : t.mayDecide s = true → u.subclassCheck t s = none) :
    u.isSubclass t s = .ok (u.isSubtype t s) := by
  unfold isSubclass
  cases hdecide : t.mayDecide s with
  | false => rfl
  | true =>
    rw [if_pos rfl, h hdecide]

/-- Whether a value is an instance of one of the classes, which are asked in order. -/
def isInstanceOfAny (u : Universe) (v : Value) : List HostType → Except HostError Bool
  | [] => .ok false
  | t :: ts => do if ← u.isInstance v t then return true else isInstanceOfAny u v ts

/-- The scalar types and the abstract classes above them. -/
def isPrimitive (u : Universe) (t : HostType) : Bool := HostType.isPrimitive (u.lineage t)

/-! ## Members -/

/-- A member in the class itself; one that is bound to null does not count. -/
def ownMember? (u : Universe) (t : HostType) (name : Text) : Option Member :=
  match (u.declOf? t).bind fun d => d.members.lookup name with
  | some (.constant .null) => none
  | m => m

/-- What the name is bound to in the class itself. -/
def ownBinding? (u : Universe) (t : HostType) (name : Text) : Option Member :=
  (u.declOf? t).bind fun d => d.members.lookup name

/-- The list of the bases of a class, which every class can give. -/
def basesMember (u : Universe) (t : HostType) : Member :=
  .classOnly (Callable.nullary "mro" do
    return .list (← HostM.alloc (.items ((u.lineage t).map .type))))

/-- What the name is bound to in the class or one of its bases, or in every class. -/
def binding? (u : Universe) (t : HostType) (name : Text) : Option Member :=
  match (u.lineage t).findSome? fun s => u.ownBinding? s name with
  | some m => some m
  | none => if name = "mro" then some (u.basesMember t) else none

/-- A member of the class or its bases; one that is bound to null does not count. -/
def member? (u : Universe) (t : HostType) (name : Text) : Option Member :=
  match u.binding? t name with
  | some (.constant .null) => none
  | m => m

/-- How a type is called to make an instance. -/
def constructor (u : Universe) (t : HostType) : Callable :=
  match u.declOf? t with
  | some d => d.construct
  | none => Callable.notCallable HostType.type.errorName

/-! ## Modules -/

/-- The module names of a dotted name, outermost first. -/
def enclosing (name : Text) : List Text :=
  let segments := Text.splitOn '.' name
  (List.range segments.length).map fun i => Text.join "." (segments.take (i + 1))

/-- Imports the modules in turn, the last of which is wanted. -/
def loadChain (u : Universe) : Option (Text × HostModule) → List Text →
    Except HostError HostModule
  | some (_, m), [] => .ok m
  | none, [] => .error .emptyModule
  | parent, name :: rest =>
    match u.modules.lookup name with
    | some (.present m) => loadChain u (some (name, m)) rest
    | some (.failing e) => .error e
    | none => .error (.noModule name (match parent with
      | some (p, m) => if m.isPackage then none else some p
      | none => none))

/-- The module of a dotted name.  The modules around it are imported first. -/
def load (u : Universe) (name : Text) : Except HostError HostModule :=
  if name = [] then .error .emptyModule
  else if Text.startsWith "." name then .error (.noPackage name)
  else u.loadChain none (enclosing name)

/-- What every value of a type has under a name, whatever its class holds. -/
def builtinAttribute? (u : Universe) (t : HostType) (name : Text) : Option Attribute :=
  if (u.lineage t).any fun s => s.publicNames.contains name then some (.object .plain) else none

/-- What a name leads to from a class, a value or another object; nothing from a module. -/
def follow? (u : Universe) : Attribute → Text → Option Attribute
  | .type t, name =>
    match u.binding? t name with
    | some m => some m.attribute
    | none => u.builtinAttribute? t name
  | .value t, name =>
    match u.binding? t name with
    | some m => m.valueAttribute?
    | none => u.builtinAttribute? t name
  | .object k, name => (k.follow? name).map .object
  | .module, _ => none

/-- What follows from a class or another object by the names of a path; `none` when a name is
missing or leads to a module. -/
def walk (u : Universe) : Attribute → List Text → Option Attribute
  | a, [] => some a
  | a, name :: rest =>
    match u.follow? a name with
    | none | some .module => none
    | some b => walk u b rest

/-- The attribute of a module at the end of a path. -/
def reach (u : Universe) (m : HostModule) : List Text → Option Attribute
  | [] => none
  | name :: rest =>
    match m.attributes.lookup name with
    | none | some .module => none
    | some a => u.walk a rest

end Universe

end HostCall
