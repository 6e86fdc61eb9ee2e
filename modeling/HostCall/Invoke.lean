import HostCall.Conversion
import HostCall.Marshal

/-!
# Invocation of host members

A static, constructor or instance call finds its member, picks an overload where there are several,
adapts the arguments, and calls.  Each kind of call is planned first: a `Call` has all that its
callee receives, and `Call.perform` makes it.  What the member raises is wrapped; every other
failure is one of the bridge.
-/

namespace HostCall

/-- A computation of the bridge over the heap. -/
abbrev BridgeM := ExceptT Failure (StateM Heap)

namespace BridgeM

def ofExcept {α : Type} (r : Except Failure α) : BridgeM α := fun h => (r, h)

def fail {α : Type} (e : BridgeError) : BridgeM α := throw (.bridge e)

/-- Host code run outside a call: its errors are not wrapped. -/
def ofHost {α : Type} (m : HostM α) : BridgeM α := fun h =>
  let (r, h') := m h
  (r.mapError .host, h')

end BridgeM

/-- What is about to be called, with the arguments that are already in place. -/
structure Target where
  callee : Callable
  leading : List Value := []

/-- A call that is about to be made: its target, the label of its failures, and the arguments behind
those already in place. -/
structure Call where
  target : Target
  label : Text
  arguments : List Value

namespace Call

/-- All that the callee receives. -/
def passed (c : Call) : List Value := c.target.leading ++ c.arguments

/-- How what the callee raises leaves the bridge: under the label, with its own text. -/
def wrapped (c : Call) (e : HostError) : Failure := .wrapping e (.target c.label e)

/-- Calls; what is raised is wrapped. -/
def perform (c : Call) : BridgeM Value := fun h =>
  let (r, h') := c.target.callee.call c.passed h
  (r.mapError c.wrapped, h')

end Call

namespace Target

/-- Refuses a number of arguments that cannot be bound, when that is known beforehand. -/
def checkArity (t : Target) (label : Text) (args : List Value) : Except Failure Unit :=
  if t.callee.inspectable then
    match t.callee.bindFault? (t.leading.length + args.length) with
    | some reason => .error (.bridge (.lookup (.arity label args.length reason)))
    | none => .ok ()
  else .ok ()

/-- The call of a target whose arity fits. -/
def plan (t : Target) (label : Text) (args : List Value) : Except Failure Call := do
  t.checkArity label args
  return ⟨t, label, args⟩

end Target

namespace Resolver

/-! ## Choice of an overload -/

/-- The host types of the parameters of a variant. -/
def variantTypes (r : Resolver) {α : Type} (v : Overload α) : Except Failure (List HostType) :=
  v.descriptors.mapM r.typeOfDescriptor

/-- The sum of the costs at all positions; `none` when one cannot be passed, which ends the sum. -/
def totalCost (u : Universe) : List HostType → List HostType → Except HostError (Option Nat)
  | s :: ss, d :: ds => do
    match ← conversionCost u s d with
    | some c => return (← totalCost u ss ds).map (c + ·)
    | none => return none
  | _, _ => .ok (some 0)

/-- The cost of a variant, once its types are resolved; `none` when an argument cannot be passed. -/
def price (r : Resolver) {α : Type} (supplied : List HostType) (v : Overload α) :
    Except Failure (Option Nat) := do
  let declared ← r.variantTypes v
  (totalCost r.world supplied declared).mapError .host

/-- The variants that accept the supplied types, each with its cost. -/
def scored (r : Resolver) {α : Type} (supplied : List HostType) :
    List (Overload α) → Except Failure (List (Nat × Overload α))
  | [] => .ok []
  | v :: vs => do
    let cost ← r.price supplied v
    let rest ← scored r supplied vs
    match cost with
    | some c => return (c, v) :: rest
    | none => return rest

/-- The cheapest variant and whether its cost is met by another one as well. -/
def cheapest {α : Type} : List (Nat × Overload α) → Option (Nat × Overload α × Bool)
  | [] => none
  | (c, v) :: rest =>
    match cheapest rest with
    | none => some (c, v, false)
    | some (d, w, tie) =>
      if c < d then some (c, v, false)
      else if c = d then some (c, v, true)
      else some (d, w, tie)

/-- The one cheapest variant that accepts the supplied types. -/
def select (r : Resolver) {α : Type} (set : OverloadSet α) (supplied : List HostType)
    (owner : Text) : Except Failure (Overload α) := do
  let label := Text.concat [owner, ".", set.name]
  match cheapest (← r.scored supplied (set.candidates supplied.length)) with
  | none => throw (.bridge (.lookup (.noOverload label (supplied.map HostType.name))))
  | some (_, _, true) => throw (.bridge (.lookup (.ambiguous label)))
  | some (_, v, false) => return v

/-- Arguments adapted to declared types. -/
def adapted (r : Resolver) (values : List Value) (declared : List HostType) :
    Except Failure (List Value) :=
  (Value.adaptAll r.world values declared).mapError ArgumentError.toFailure

/-- The call of the variant that is picked, with the arguments adapted to it behind the leading
values. -/
def planOverload (r : Resolver) (set : OverloadSet Callable) (owner label : Text)
    (leading : List Value) (args : Arguments) : Except Failure Call := do
  let v ← r.select set args.types owner
  let declared ← r.variantTypes v
  let values ← r.adapted args.values declared
  return ⟨⟨v.function, leading⟩, label, values⟩

/-! ## Members as targets -/

/-- A member taken from a class. -/
def classTarget (r : Resolver) (space : HostType) : Member → Target
  | .method f | .staticMethod f | .classOnly f => ⟨f, []⟩
  | .classMethod f => ⟨f, [.type space]⟩
  | .property _ => ⟨Callable.notCallable "property", []⟩
  | .overloads _ => ⟨Callable.notCallable "OverloadSet", []⟩
  | .nested t => ⟨r.world.constructor t, []⟩
  | .module => ⟨Callable.notCallable "module", []⟩
  | .constant v => ⟨Callable.notCallable v.errorName, []⟩

/-- A member taken from an instance. -/
def instanceTarget (r : Resolver) (receiver : Value) (name : Text) : Member → BridgeM Target
  | .method f => return ⟨f, [receiver]⟩
  | .classMethod f => return ⟨f, [.type receiver.typeOf]⟩
  | .property f => do
    let v ← BridgeM.ofHost (f.call [receiver])
    return ⟨Callable.notCallable v.errorName, []⟩
  | .classOnly _ => throw (.host (.noAttribute receiver.errorName name))
  | m => return r.classTarget receiver.typeOf m

/-! ## The three kinds of call -/

def label (owner : HostClass) (name : Text) : Text := Text.concat [owner.name, ".", name]

/-- Names that begin with an underscore are private. -/
def checkAccess (owner : HostClass) (name : Text) : Except Failure Unit :=
  if Text.startsWith "_" name then .error (.bridge (.access (.privateMember (label owner name))))
  else .ok ()

/-- The call of a static member. -/
def planStatic (r : Resolver) (owner : HostClass) (name : Text) (args : Arguments) :
    Except Failure Call := do
  checkAccess owner name
  let label := label owner name
  match r.world.member? owner.members name with
  | none => throw (.bridge (.lookup (.noStaticMethod label)))
  | some (.overloads set) => r.planOverload set owner.name label [] args
  | some (.staticMethod f) => do
    (Target.mk f []).plan label (← r.adapted args.values args.types)
  | some (.classMethod f) => do
    (Target.mk f [.type owner.members]).plan label (← r.adapted args.values args.types)
  | some _ => throw (.bridge (.lookup (.notStatic label)))

def invokeStatic (r : Resolver) (owner : HostClass) (name : Text) (args : Arguments) :
    BridgeM Value := do
  (← BridgeM.ofExcept (r.planStatic owner name args)).perform

/-- The member that makes instances in place of the type itself. -/
def constructorHook : Text := "new_instance"

/-- The call that makes an instance. -/
def planConstructor (r : Resolver) (owner : HostClass) (args : Arguments) :
    Except Failure Call := do
  let label := label owner constructorName
  match r.world.member? owner.members constructorHook with
  | some (.overloads set) => r.planOverload set owner.name label [] args
  | hook =>
    let values ← r.adapted args.values args.types
    let target : Target := match hook with
      | some m => r.classTarget owner.members m
      | none => ⟨r.world.constructor owner.hostType, []⟩
    target.plan label values

def invokeConstructor (r : Resolver) (owner : HostClass) (args : Arguments) : BridgeM Value := do
  (← BridgeM.ofExcept (r.planConstructor owner args)).perform

/-- The member of an instance with the namespace it is found in: the first namespace of the
receiver's type that has it, or else the declared owner. -/
def instanceMember? (r : Resolver) (owner : HostClass) (name : Text) (receiver : HostType) :
    Option (HostType × Member) :=
  match (r.membersChain receiver).findSome? fun t =>
      (r.world.ownMember? t name).map fun m => (t, m) with
  | some found => some found
  | none => (r.world.member? owner.members name).map fun m => (owner.members, m)

/-- The call of a member that is found in a namespace and is no overload set.  It is taken from the
receiver where the namespace is one of the receiver's own classes, which may run host code, and from
the namespace elsewhere. -/
def planMember (r : Resolver) (receiver : Value) (name label : Text) (space : HostType)
    (m : Member) (args : Arguments) : BridgeM Call := do
  let values ← BridgeM.ofExcept (r.adapted args.values args.types)
  if (r.world.lineage receiver.typeOf).elem space then
    let target ← r.instanceTarget receiver name m
    BridgeM.ofExcept (target.plan label values)
  else BridgeM.ofExcept ((r.classTarget space m).plan label (receiver :: values))

/-- The call of a member of an instance. -/
def planVirtual (r : Resolver) (owner : HostClass) (name : Text) (receiver : Value)
    (args : Arguments) : BridgeM Call := do
  let label := label owner name
  match receiver with
  | .null => BridgeM.fail (.nullReceiver label)
  | .unknown => BridgeM.fail (.resolution (.unknownReceiver label))
  | _ =>
    BridgeM.ofExcept (checkAccess owner name)
    match r.instanceMember? owner name receiver.typeOf with
    | none => BridgeM.fail (.lookup (.noMethod name receiver.typeOf.name owner.name))
    | some (_, .overloads set) =>
      BridgeM.ofExcept (r.planOverload set owner.name label [receiver] args)
    | some (space, m) => r.planMember receiver name label space m args

def invokeVirtual (r : Resolver) (owner : HostClass) (name : Text) (receiver : Value)
    (args : Arguments) : BridgeM Value := do
  (← r.planVirtual owner name receiver args).perform

end Resolver

end HostCall
