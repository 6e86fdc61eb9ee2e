import HostCall.Error
import HostCall.Value.Basic

/-!
# Host functions

A callable has named parameters and a body that works on the heap.  `Callable.fits` says whether a
number of arguments can be bound to the parameters, and `Callable.call` binds them before the body
runs.
-/

namespace HostCall

/-- A computation of host code: it may change the heap, also when it fails. -/
abbrev HostM := ExceptT HostError (StateM Heap)

namespace HostM

/-- A result that does not depend on effects. -/
def ofExcept {α : Type} (r : Except HostError α) : HostM α := fun h => (r, h)

/-- A result that reads the heap. -/
def read {α : Type} (f : Heap → Except HostError α) : HostM α := fun h => (f h, h)

/-- A result with a new heap; the heap stays when it fails. -/
def update {α : Type} (f : Heap → Except HostError (α × Heap)) : HostM α := fun h =>
  match f h with
  | .ok (a, h') => (.ok a, h')
  | .error e => (.error e, h)

def alloc (c : Content) : HostM Address := fun h =>
  let (a, h') := h.alloc c
  (.ok a, h')

def set (a : Address) (c : Content) : HostM Unit := fun h => (.ok (), h.set a c)

end HostM

/-- A parameter; one with a default may be left out. -/
structure Parameter where
  name : Text
  default : Option Value := none

structure Callable where
  /-- The name in messages about arguments. -/
  name : Text
  parameters : List Parameter
  /-- Any number of further arguments is taken. -/
  variadic : Bool := false
  /-- The parameters are known before a call. -/
  inspectable : Bool := true
  body : List Value → HostM Value

namespace Callable

/-- Parameters without a default. -/
def required (f : Callable) : List Parameter := f.parameters.filter fun p => p.default.isNone

/-- Why so many arguments cannot be bound, when `hidden` of them are already in place. -/
def bindFault? (f : Callable) (given : Nat) : Option Text :=
  if !f.variadic && given > f.parameters.length then some "too many positional arguments"
  else match f.required.drop given with
    | [] => none
    | p :: _ => some (Text.concat ["missing a required argument: '", p.name, "'"])

/-- The arguments with the defaults of those that are left out. -/
def bind (f : Callable) (args : List Value) : Except HostError (List Value) :=
  if !f.variadic && args.length > f.parameters.length then
    .error (.tooManyArguments f.name f.required.length f.parameters.length args.length)
  else match f.required.drop args.length with
    | [] => .ok (args ++ (f.parameters.drop args.length).filterMap Parameter.default)
    | missing => .error (.missingArguments f.name (missing.map Parameter.name))

/-- Calls the body; without known parameters the body checks its arguments itself. -/
def call (f : Callable) (args : List Value) : HostM Value :=
  if f.inspectable then do f.body (← HostM.ofExcept (f.bind args)) else f.body args

/-- What is called cannot be. -/
def notCallable (type : Text) : Callable :=
  ⟨type, [], true, false, fun _ => throw (.notCallable type)⟩

/-- A function without parameters. -/
def nullary (name : Text) (body : HostM Value) : Callable :=
  { name, parameters := [], body := fun _ => body }

/-- A function of one parameter. -/
def unary (name p : Text) (body : Value → HostM Value) : Callable :=
  { name, parameters := [⟨p, none⟩]
    body := fun
      | [a] => body a
      | args => throw (.tooManyArguments name 1 1 args.length) }

/-- A function of two parameters. -/
def binary (name p q : Text) (body : Value → Value → HostM Value) : Callable :=
  { name, parameters := [⟨p, none⟩, ⟨q, none⟩]
    body := fun
      | [a, b] => body a b
      | args => throw (.tooManyArguments name 2 2 args.length) }

/-- A function of three parameters. -/
def ternary (name p q r : Text) (body : Value → Value → Value → HostM Value) : Callable :=
  { name, parameters := [⟨p, none⟩, ⟨q, none⟩, ⟨r, none⟩]
    body := fun
      | [a, b, c] => body a b c
      | args => throw (.tooManyArguments name 3 3 args.length) }

end Callable

end HostCall
