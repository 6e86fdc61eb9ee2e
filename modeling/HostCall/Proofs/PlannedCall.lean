import HostCall.Proofs.Adaptation
import HostCall.Proofs.Selection

/-!
# What a host call passes

A member is reached only by way of a planned `Call`, and every plan adapts the arguments first.
`Resolver.Declares` says to which types, `Call.Passes` what the callee then receives.

Main statement, `passes_of_plan`: each of the three kinds of call passes its arguments adapted in
order, each of which fits the type declared for it, behind the receiver where the member takes one.
-/

namespace HostCall

open Result

/-! ## Types declared and values passed -/

/-- The types to which a call of a member adapts its arguments: those of the variant that is
selected and called, and for any other member, or where there is none, those supplied. -/
inductive Resolver.Declares (r : Resolver) (owner : HostClass) (args : Arguments) :
    Option Member → Call → List HostType → Prop
  | variant {set : OverloadSet Callable} {v : Overload Callable} {c : Call} {ts : List HostType}
      (selected : r.select set args.types owner.name = .ok v) (types : r.variantTypes v = .ok ts)
      (callee : c.target.callee = v.function) : Declares r owner args (some (.overloads set)) c ts
  | supplied {m : Option Member} {c : Call} (plain : ∀ set, m ≠ some (.overloads set)) :
      Declares r owner args m c args.types

/-- The callee receives some leading values, and behind them all arguments adapted to the declared
types in order, each of which fits its type. -/
def Call.Passes (c : Call) (u : Universe) (leading : List Value) (args : Arguments)
    (declared : List HostType) : Prop :=
  ∃ adapted, c.passed = leading ++ adapted ∧
    Value.adaptAll u args.values declared = .ok adapted ∧
    adapted.length = args.values.length ∧ List.Forall₂ (Value.Fits u) adapted declared

/-- What leads the arguments of a member taken from a class: the class itself, for a function of
classes. -/
def Member.leading (space : HostType) : Option Member → List Value
  | some (.classMethod _) => [.type space]
  | _ => []

/-- What leads the arguments of a member taken from an instance: the instance, for a method. -/
def Member.boundLeading (receiver : Value) : Member → List Value
  | .method _ => [receiver]
  | m => Member.leading receiver.typeOf (some m)

/-- What leads the arguments in a call on a receiver.  A variant takes the receiver, and so does
what is found outside the receiver's own classes. -/
def Resolver.leading (r : Resolver) (receiver : Value) (space : HostType) : Member → List Value
  | .overloads _ => [receiver]
  | m =>
    if (r.world.lineage receiver.typeOf).elem space then m.boundLeading receiver
    else Member.leading space (some m) ++ [receiver]

/-! ## Planning -/

namespace Resolver

variable {r : Resolver} {owner : HostClass} {args : Arguments}

theorem leading_classTarget (space : HostType) (m : Member) :
    (r.classTarget space m).leading = Member.leading space (some m) := by
  cases m <;> rfl

theorem length_variantTypes {α : Type} {v : Overload α} {ts : List HostType}
    (h : r.variantTypes v = .ok ts) : ts.length = v.descriptors.length :=
  length_of_mapM h

theorem variantTypes_singleton {α : Type} (d : Text) (f : α) :
    r.variantTypes ⟨[d], f⟩ = (r.typeOfDescriptor d).map fun t => [t] := by
  rw [variantTypes, List.mapM_cons, List.mapM_nil]
  cases r.typeOfDescriptor d <;> rfl

/-- Adapted arguments are as many as the arguments, and they fit. -/
theorem passes_of_adapted {c : Call} {leading adapted : List Value} {declared : List HostType}
    (hlen : args.values.length = declared.length)
    (hadapted : r.adapted args.values declared = .ok adapted)
    (hpassed : c.passed = leading ++ adapted) : c.Passes r.world leading args declared := by
  have hall := mapError_eq_ok_iff.1 hadapted
  have hfits := Value.forall₂_fits_of_adaptFrom hlen hall
  exact ⟨adapted, hpassed, hall, hfits.length_eq.trans hlen.symm, hfits⟩

theorem plan_eq {t : Target} {label : Text} {values : List Value} {c : Call}
    (h : t.plan label values = .ok c) : c = ⟨t, label, values⟩ := by
  obtain ⟨_, -, hc⟩ := bind_eq_ok_iff.1 h
  exact (pure_eq_ok_iff.1 hc).symm

/-- A call is planned as it is where its arguments can be bound, or where that shows only when it is
made. -/
theorem plan_of_bound {t : Target} {label : Text} {values : List Value}
    (h : t.callee.inspectable = true →
      t.callee.bindFault? (t.leading.length + values.length) = none) :
    t.plan label values = .ok ⟨t, label, values⟩ := by
  rw [Target.plan, Target.checkArity]
  cases hi : t.callee.inspectable with
  | false => rfl
  | true =>
    rw [if_pos rfl, h hi]
    rfl

/-- A planned variant takes the leading values and the arguments adapted to its own types. -/
theorem passes_of_planOverload {set : OverloadSet Callable} {label : Text} {leading : List Value}
    {c : Call} (hlen : args.values.length = args.types.length)
    (h : r.planOverload set owner.name label leading args = .ok c) :
    ∃ declared, r.Declares owner args (some (.overloads set)) c declared ∧
      c.Passes r.world leading args declared := by
  obtain ⟨v, hv, h⟩ := bind_eq_ok_iff.1 h
  obtain ⟨declared, hdeclared, h⟩ := bind_eq_ok_iff.1 h
  obtain ⟨adapted, hadapted, h⟩ := bind_eq_ok_iff.1 h
  obtain rfl := pure_eq_ok_iff.1 h
  have hcount : args.values.length = declared.length := by
    rw [hlen, length_variantTypes hdeclared, (mem_of_select hv).2]
  exact ⟨declared, .variant hv hdeclared rfl, passes_of_adapted hcount hadapted rfl⟩

theorem passes_of_planStatic {name : Text} {c : Call}
    (hlen : args.values.length = args.types.length) (h : r.planStatic owner name args = .ok c) :
    ∃ m declared, r.world.member? owner.members name = some m ∧
      r.Declares owner args (some m) c declared ∧
      c.Passes r.world (Member.leading owner.members (some m)) args declared := by
  obtain ⟨_, -, h⟩ := bind_eq_ok_iff.1 h
  cases hm : r.world.member? owner.members name with
  | none => simp [hm] at h
  | some m =>
    simp only [hm] at h
    cases m with
    | overloads set =>
      obtain ⟨declared, hd, hp⟩ := passes_of_planOverload hlen h
      exact ⟨_, declared, rfl, hd, hp⟩
    | staticMethod f =>
      obtain ⟨adapted, hadapted, h⟩ := bind_eq_ok_iff.1 h
      obtain rfl := plan_eq h
      exact ⟨_, args.types, rfl, .supplied (by simp), passes_of_adapted hlen hadapted rfl⟩
    | classMethod f =>
      obtain ⟨adapted, hadapted, h⟩ := bind_eq_ok_iff.1 h
      obtain rfl := plan_eq h
      exact ⟨_, args.types, rfl, .supplied (by simp), passes_of_adapted hlen hadapted rfl⟩
    | method f => simp at h
    | property f => simp at h
    | nested t => simp at h
    | module => simp at h
    | constant v => simp at h
    | classOnly f => simp at h

theorem passes_of_planConstructor {c : Call} (hlen : args.values.length = args.types.length)
    (h : r.planConstructor owner args = .ok c) :
    ∃ hook declared, r.world.member? owner.members constructorHook = hook ∧
      r.Declares owner args hook c declared ∧
      c.Passes r.world (Member.leading owner.members hook) args declared := by
  unfold planConstructor at h
  generalize r.world.member? owner.members constructorHook = hook at h ⊢
  refine ⟨hook, ?_⟩
  dsimp only at h
  split at h
  · obtain ⟨declared, hd, hp⟩ := passes_of_planOverload hlen h
    exact ⟨declared, rfl, hd, hp⟩
  · rename_i hplain
    obtain ⟨adapted, hadapted, h⟩ := bind_eq_ok_iff.1 h
    obtain rfl := plan_eq h
    refine ⟨args.types, rfl, .supplied hplain, passes_of_adapted hlen hadapted ?_⟩
    cases hook with
    | none => rfl
    | some m => exact congrArg (· ++ adapted) (leading_classTarget owner.members m)

theorem leading_instanceTarget {receiver : Value} {name : Text} {m : Member} {t : Target}
    {h h' : Heap} (ht : r.instanceTarget receiver name m h = (.ok t, h')) :
    t.leading = m.boundLeading receiver := by
  cases m with
  | method f =>
    cases ht
    rfl
  | classMethod f =>
    cases ht
    rfl
  | property f =>
    obtain ⟨v, h₁, -, ht⟩ := BridgeM.bind_eq_ok_iff.1 ht
    cases ht
    rfl
  | classOnly f => cases ht
  | overloads set =>
    cases ht
    rfl
  | staticMethod f =>
    cases ht
    rfl
  | nested t =>
    cases ht
    rfl
  | module =>
    cases ht
    rfl
  | constant v =>
    cases ht
    rfl

theorem passes_of_planMember {receiver : Value} {name label : Text} {space : HostType} {m : Member}
    {c : Call} {h h' : Heap} (hlen : args.values.length = args.types.length)
    (hm : ∀ set, m ≠ .overloads set)
    (hplan : r.planMember receiver name label space m args h = (.ok c, h')) :
    r.Declares owner args (some m) c args.types ∧
      c.Passes r.world (r.leading receiver space m) args args.types := by
  have hdeclares : ∀ c, r.Declares owner args (some m) c args.types :=
    fun c => .supplied (fun set hset => hm set (Option.some.inj hset))
  have hleading : r.leading receiver space m =
      if (r.world.lineage receiver.typeOf).elem space then m.boundLeading receiver
      else Member.leading space (some m) ++ [receiver] := by
    cases m with
    | overloads set => exact absurd rfl (hm set)
    | _ => rfl
  obtain ⟨adapted, h₁, hadapted, hplan⟩ := BridgeM.bind_eq_ok_iff.1 hplan
  obtain ⟨hadapted, -⟩ := BridgeM.ofExcept_eq_ok_iff.1 hadapted
  refine ⟨hdeclares c, passes_of_adapted hlen hadapted ?_⟩
  rw [hleading]
  split at hplan
  · rename_i hown
    obtain ⟨target, h₂, htarget, hplan⟩ := BridgeM.bind_eq_ok_iff.1 hplan
    obtain ⟨hc, -⟩ := BridgeM.ofExcept_eq_ok_iff.1 hplan
    obtain rfl := plan_eq hc
    rw [if_pos hown, ← leading_instanceTarget htarget]
    rfl
  · rename_i hother
    obtain ⟨hc, -⟩ := BridgeM.ofExcept_eq_ok_iff.1 hplan
    obtain rfl := plan_eq hc
    rw [if_neg hother, ← leading_classTarget, List.append_assoc]
    rfl

/-- A method is called as it is, and finding it runs no host code. -/
theorem callee_of_planMember {receiver : Value} {name label : Text} {space : HostType}
    {f : Callable} {c : Call} {h h' : Heap}
    (hplan : r.planMember receiver name label space (.method f) args h = (.ok c, h')) :
    c.target.callee = f ∧ h' = h := by
  obtain ⟨adapted, h₁, hadapted, hplan⟩ := BridgeM.bind_eq_ok_iff.1 hplan
  obtain ⟨-, rfl⟩ := BridgeM.ofExcept_eq_ok_iff.1 hadapted
  split at hplan
  · obtain ⟨target, h₂, htarget, hplan⟩ := BridgeM.bind_eq_ok_iff.1 hplan
    obtain ⟨hc, rfl⟩ := BridgeM.ofExcept_eq_ok_iff.1 hplan
    cases htarget
    obtain rfl := plan_eq hc
    exact ⟨rfl, rfl⟩
  · obtain ⟨hc, rfl⟩ := BridgeM.ofExcept_eq_ok_iff.1 hplan
    obtain rfl := plan_eq hc
    exact ⟨rfl, rfl⟩

theorem passes_of_planVirtual {name : Text} {receiver : Value} {c : Call} {h h' : Heap}
    (hlen : args.values.length = args.types.length)
    (hplan : r.planVirtual owner name receiver args h = (.ok c, h')) :
    receiver ≠ .null ∧ receiver ≠ .unknown ∧
      ∃ space m declared, r.instanceMember? owner name receiver.typeOf = some (space, m) ∧
        r.Declares owner args (some m) c declared ∧
        c.Passes r.world (r.leading receiver space m) args declared := by
  unfold planVirtual at hplan
  split at hplan
  · cases hplan
  · cases hplan
  · rename_i hnull hunknown
    refine ⟨hnull, hunknown, ?_⟩
    obtain ⟨_, h₁, -, hplan⟩ := BridgeM.bind_eq_ok_iff.1 hplan
    generalize hfound : r.instanceMember? owner name receiver.typeOf = found at hplan ⊢
    obtain - | ⟨space, m⟩ := found
    · cases hplan
    refine ⟨space, m, ?_⟩
    cases m with
    | overloads set =>
      obtain ⟨hc, -⟩ := BridgeM.ofExcept_eq_ok_iff.1 hplan
      obtain ⟨declared, hd, hp⟩ := passes_of_planOverload hlen hc
      exact ⟨declared, rfl, hd, hp⟩
    | _ => exact ⟨args.types, rfl, passes_of_planMember hlen (by simp) hplan⟩

/-! ## Making the planned call -/

/-- A call is made by giving the callee all that is passed; what it raises is wrapped. -/
theorem perform_apply (c : Call) (h : Heap) :
    c.perform h = ((c.target.callee.call c.passed h).1.mapError c.wrapped,
      (c.target.callee.call c.passed h).2) := rfl

theorem perform_eq {c : Call} {h h' : Heap} {x : Except HostError Value}
    (hcall : c.target.callee.call c.passed h = (x, h')) :
    c.perform h = (x.mapError c.wrapped, h') := by
  rw [perform_apply, hcall]

theorem call_of_perform {c : Call} {h h' : Heap} {x : Value}
    (hcall : c.perform h = (.ok x, h')) :
    c.target.callee.call c.passed h = (.ok x, h') := by
  rcases hresult : c.target.callee.call c.passed h with ⟨result, h₁⟩
  rw [perform_eq hresult] at hcall
  obtain ⟨hx, rfl⟩ := Prod.mk.inj hcall
  rw [mapError_eq_ok_iff.1 hx]

theorem invokeStatic_apply (name : Text) (h : Heap) :
    r.invokeStatic owner name args h = match r.planStatic owner name args with
      | .ok c => c.perform h
      | .error e => (.error e, h) := by
  rw [invokeStatic, BridgeM.bind_apply, BridgeM.ofExcept_apply]
  cases r.planStatic owner name args <;> rfl

theorem invokeConstructor_apply (h : Heap) :
    r.invokeConstructor owner args h = match r.planConstructor owner args with
      | .ok c => c.perform h
      | .error e => (.error e, h) := by
  rw [invokeConstructor, BridgeM.bind_apply, BridgeM.ofExcept_apply]
  cases r.planConstructor owner args <;> rfl

theorem invokeVirtual_apply (name : Text) (receiver : Value) (h : Heap) :
    r.invokeVirtual owner name receiver args h = match r.planVirtual owner name receiver args h with
      | (.ok c, h') => c.perform h'
      | (.error e, h') => (.error e, h') := by
  rw [invokeVirtual, BridgeM.bind_apply]
  obtain ⟨plan, h'⟩ := r.planVirtual owner name receiver args h
  cases plan <;> rfl

/-- **Every host call is well typed.**  A call is made as it is planned: the callee is given what is
passed and nothing else.  What is passed are the arguments adapted in order to the types declared,
each of which fits, behind the receiver where the member takes it; a receiver is neither null nor
unknown. -/
theorem passes_of_plan (r : Resolver) (owner : HostClass) (name : Text) (receiver : Value)
    (args : Arguments) (hlen : args.values.length = args.types.length) :
    (∀ (c : Call) (h : Heap), c.perform h =
      ((c.target.callee.call c.passed h).1.mapError c.wrapped,
        (c.target.callee.call c.passed h).2)) ∧
    (∀ c h, r.planStatic owner name args = .ok c →
      r.invokeStatic owner name args h = c.perform h ∧
        ∃ m declared, r.world.member? owner.members name = some m ∧
          r.Declares owner args (some m) c declared ∧
          c.Passes r.world (Member.leading owner.members (some m)) args declared) ∧
    (∀ c h, r.planConstructor owner args = .ok c →
      r.invokeConstructor owner args h = c.perform h ∧
        ∃ hook declared, r.world.member? owner.members constructorHook = hook ∧
          r.Declares owner args hook c declared ∧
          c.Passes r.world (Member.leading owner.members hook) args declared) ∧
    (∀ c h h', r.planVirtual owner name receiver args h = (.ok c, h') →
      r.invokeVirtual owner name receiver args h = c.perform h' ∧
        receiver ≠ .null ∧ receiver ≠ .unknown ∧
        ∃ space m declared, r.instanceMember? owner name receiver.typeOf = some (space, m) ∧
          r.Declares owner args (some m) c declared ∧
          c.Passes r.world (r.leading receiver space m) args declared) := by
  refine ⟨perform_apply, fun c h hc => ⟨?_, passes_of_planStatic hlen hc⟩,
    fun c h hc => ⟨?_, passes_of_planConstructor hlen hc⟩,
    fun c h h' hc => ⟨?_, passes_of_planVirtual hlen hc⟩⟩
  · rw [invokeStatic_apply, hc]
  · rw [invokeConstructor_apply, hc]
  · rw [invokeVirtual_apply, hc]

/-- A scalar is boxed on its way to a static member that is declared for unbounded integers. -/
theorem passes_boxed :
    let space : HostType := .declared ⟨"m", "C"⟩
    let member : Member := .staticMethod (.unary "f" "x" pure)
    let decl : ClassDecl := { members := [("f", member)], construct := .nullary "C" (pure .null) }
    let r : Resolver := ⟨{ classes := [(space, decl)] }, {}, {}⟩
    let owner : HostClass := ⟨"C", space, space⟩
    let args : Arguments := ⟨[.scalar (.int 3)], [.integer]⟩
    args.values.length = args.types.length ∧
      ∃ c, r.planStatic owner "f" args = .ok c ∧ c.passed = [.integer 3] ∧
        ∃ m declared, r.world.member? owner.members "f" = some m ∧
          r.Declares owner args (some m) c declared ∧
          c.Passes r.world (Member.leading owner.members (some m)) args declared := by
  intro space member decl r owner args
  refine ⟨rfl, _, rfl, rfl, ?_⟩
  exact ((passes_of_plan r owner "f" .null args rfl).2.1 _ {} rfl).2

end Resolver

end HostCall
