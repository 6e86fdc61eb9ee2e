import HostCall.Universe
import HostCall.Value.Sequence

/-!
# Building members

Short forms for the members of bound classes.
-/

namespace HostCall

namespace Member

/-- A member with variants: the descriptors of each and what it calls. -/
def variants (name : Text) (vs : List (List Text × Callable)) : Member :=
  .overloads ⟨name, vs.map fun (ds, f) => ⟨ds, f⟩⟩

end Member

namespace HostM

def text (r : Except HostError Text) : HostM Value := do return .text (← ofExcept r)

def boolean (r : Except HostError Bool) : HostM Value := do return .boolean (← ofExcept r)

def integer (r : Except HostError Int) : HostM Value := do return .integer (← ofExcept r)

def scalar (r : Except HostError Scalar) : HostM Value := do return .scalar (← ofExcept r)

/-- The failure of a narrowing, as host code raises it. -/
def narrow (h : Heap) (k : Kind) (v : Value) : Except HostError Scalar :=
  (v.narrowTo h k).mapError ArgumentError.toHostError

/-- The value of a field of an instance. -/
def field (v : Value) (name : Text) : HostM Value := fun h =>
  let found := match v with
    | .object _ a => (h.entries a).lookup name
    | _ => none
  match found with
  | some w => (.ok w, h)
  | none => (.error (.noAttribute v.errorName name), h)

/-- A new instance with these fields. -/
def create (c : ClassName) (fields : List (Text × Value)) : HostM Value := do
  return .object (.declared c) (← alloc (.entries fields))

end HostM

end HostCall
