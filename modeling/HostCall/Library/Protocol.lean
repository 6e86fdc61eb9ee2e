import HostCall.Library.Basic

/-!
# Protocols

Classes that say themselves what is below them: the protocols that the bridge declares for frames
and cells, and the two special classes of annotations that a module may hold.
-/

namespace HostCall

namespace Library

namespace Protocol

/-- The class below which the protocols are. -/
def base : ClassName := ⟨"typing", "Protocol"⟩

/-- The class of values of any type. -/
def anything : ClassName := ⟨"typing", "Any"⟩

def stateHome : Text := "reflector.core.state"

def registerFile : ClassName := ⟨stateHome, "RegisterFile"⟩

def valueCell : ClassName := ⟨stateHome, "ValueCell"⟩

/-- A member that only says which parameters it has. -/
def stub (name : Text) (parameters : List Text) : Text × Member :=
  (name, .method
    { name, parameters := parameters.map fun p => ⟨p, none⟩
      body := fun _ => return .null })

/-- A property that is declared and not given. -/
def declaredProperty (name : Text) : Text × Member :=
  (name, .property (.unary name "self" fun _ => return .null))

def registerFileMembers : List (Text × Member) := [
  declaredProperty "register_count",
  stub "peek_parameter" ["self", "index"],
  stub "assign_parameter" ["self", "index", "cell"],
  stub "assign_return_register" ["self", "cell"]]

def valueCellMembers : List (Text × Member) := [
  declaredProperty "value", declaredProperty "type",
  stub "is_primitive_or_wrapper" ["self"], stub "integer_value" ["self"]]

/-- What a class that cannot be called to make an instance does. -/
def refusing (name message : Text) : Callable :=
  { name, parameters := [], variadic := true
    body := fun _ => throw (.raised .type message) }

def decl (members : List (Text × Member)) : ClassDecl where
  bases := [.declared base, .object]
  members := members
  construct := refusing "Protocol" "Protocols cannot be instantiated"

def classes : List (HostType × ClassDecl) := [
  (.declared base, { construct := .nullary "Protocol" (HostM.create base []) }),
  (.declared anything, { construct := refusing "Any" "Any cannot be instantiated" }),
  (.declared registerFile, decl registerFileMembers),
  (.declared valueCell, decl valueCellMembers)]

/-- The names under which a module holds these classes. -/
def attributes (cs : List ClassName) : List (Text × Attribute) :=
  cs.map fun c => (c.path, .type (.declared c))

/-- Built-in types that a protocol of the host itself describes: those that can be made a number. -/
def isDescribed (t : HostType) : Bool :=
  HostType.isNumeric t.lineage || HostType.isPrimitive t.lineage || t == .bytes || t == .array

/-- A protocol with properties is never asked about classes; the class of all protocols finds those
below it and those that one of them describes. -/
def subclassCheck (t : HostType) : HostType → Option (Except HostError Bool)
  | .declared c =>
    if c = registerFile ∨ c = valueCell then
      some (.error (.raised .type "Protocols with non-method members don't support issubclass()"))
    else if c = base ∧ isDescribed t then some (.ok true)
    else none
  | _ => none

/-- The two special classes are never asked about values; a protocol with properties finds the
values that have its members. -/
def instanceCheck (v : Value) : HostType → Option (Except HostError Bool)
  | .declared c =>
    if c = base then some (.error (.raised .type
      "Instance and class checks can only be used with @runtime_checkable protocols"))
    else if c = anything then
      some (.error (.raised .type "typing.Any cannot be used with isinstance()"))
    else if c = valueCell ∧ v.typeOf = .declared HostType.cell then some (.ok true)
    else none
  | _ => none

end Protocol

end Library

end HostCall
