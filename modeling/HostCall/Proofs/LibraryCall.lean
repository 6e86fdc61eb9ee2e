import HostCall.Proofs.BoxedText
import HostCall.Proofs.Commit
import HostCall.Proofs.ExactMatch
import HostCall.Proofs.Layout

/-!
# Calls of library members

A method of the library is called by its reference: the arguments are laid out in a frame, read
back, passed to the variant that their types select, and adapted.  `Resolver.reflect` is the whole
of it.  Between the frame and the member nothing depends on which member is called, so each kind of
call has one equation here: `reflect_variant_static`, `reflect_variant_virtual` and
`reflect_variant_constructor` for a variant that takes one argument, and `reflect_method` for a
member without variants, with `reflect_method_cell` where its argument may be refused.
-/

namespace HostCall

open Result Library

/-- The resolver of the default configuration. -/
def Resolver.standard : Resolver := ⟨Universe.standard, Registry.standard, {}⟩

/-- The call of a method by its reference, on arguments that are laid out for it. -/
def Resolver.reflect (r : Resolver) (s : Signature) (receiver : Argument) (args : List Argument) :
    BridgeM Value := do
  let f ← BridgeM.ofExcept ((Frame.forCall s args receiver).mapError .host)
  Reflector.call ⟨s, r, .quiet⟩ f

/-- A dispatch on a frame that is laid out for it ends as the call does, unless its announcement
raises. -/
theorem Reflector.dispatch_forCall {r : Reflector} {h : Heap} {receiver : Argument}
    {args : List Argument} {f : Frame} (hf : Frame.forCall r.signature args receiver = .ok f)
    (hquiet : r.announcementError? h f = none) :
    (r.dispatch h f).outcome =
        Outcome.ofResult r.signature (r.resolver.reflect r.signature receiver args h).1 ∧
      (r.dispatch h f).heap = (r.resolver.reflect r.signature receiver args h).2 := by
  have hreflect : r.resolver.reflect r.signature receiver args h =
      Reflector.call ⟨r.signature, r.resolver, .quiet⟩ f h := by
    rw [Resolver.reflect, BridgeM.bind_apply, hf]
    rfl
  have hcall := r.call_eq_quiet h f
  rw [hquiet, ← hreflect] at hcall
  rw [show r.resolver.reflect r.signature receiver args h = r.call f h from hcall.symm]
  exact ⟨r.outcome_dispatch h f, r.heap_dispatch h f⟩

theorem Reflector.outcome_of_announcementError {r : Reflector} {h : Heap} {f : Frame}
    {e : HostError} (hraised : r.announcementError? h f = some e) :
    (r.dispatch h f).outcome = .failure (.host e) := by
  rw [outcome_dispatch, call_eq_quiet, hraised]
  rfl

namespace Resolver

variable {r : Resolver} {s : Signature} {h : Heap} {receiver : Argument} {args : List Argument}
  {owner : HostClass}

/-! ## From the frame to the member -/

/-- A frame that is laid out gives the owner of the call and its arguments. -/
theorem prepare_forCall (hlen : args.length = s.parameters.length)
    (howner : r.resolveClass s.ownerName = .ok owner) :
    ∃ f, Frame.forCall s args receiver = .ok f ∧
      (∀ recorder, Reflector.prepare ⟨s, r, recorder⟩ h f =
        (r.readCells h 0 s.parameters (Frame.argumentCells s.parameters args)).map
          fun a => (owner, a)) ∧
      (s.isStatic = false → RegisterFile.peek f 0 = .ok (receiver.toCell s.owner)) := by
  refine ⟨_, if_neg (not_not.2 hlen), fun recorder => ?_, ?_⟩
  · rw [Reflector.prepare, howner, ok_bind, (marshal_layout r h _ hlen rfl).2]
    cases r.readCells h 0 s.parameters (Frame.argumentCells s.parameters args) <;> rfl
  · intro hs
    have hregisters : Frame.receiverRegisters s receiver = [⟨receiver.toCell s.owner, 0⟩] := by
      rw [Frame.receiverRegisters, hs]
      rfl
    show Frame.peekAt _ ((0 : Nat) : Int) = _
    rw [Frame.peekAt_natCast, hregisters]
    rfl

theorem reflect_static (hs : s.isStatic = true) (hlen : args.length = s.parameters.length)
    (howner : r.resolveClass s.ownerName = .ok owner) :
    r.reflect s receiver args h =
      match r.readCells h 0 s.parameters (Frame.argumentCells s.parameters args) with
      | .ok a => r.invokeStatic owner s.name a h
      | .error e => (.error e, h) := by
  obtain ⟨f, hf, hprepare, -⟩ := @prepare_forCall r s h receiver args owner hlen howner
  rw [reflect, BridgeM.bind_apply, hf]
  show Reflector.call ⟨s, r, .quiet⟩ f h = _
  rw [Reflector.call_apply, hprepare]
  cases r.readCells h 0 s.parameters (Frame.argumentCells s.parameters args) with
  | error e => rfl
  | ok a => exact (if_pos hs).trans (congrFun (Reflector.announcing_of_hidden rfl _ _) h)

theorem reflect_virtual (hs : s.isStatic = false) (hname : s.isConstructor = false)
    (hlen : args.length = s.parameters.length) (howner : r.resolveClass s.ownerName = .ok owner) :
    r.reflect s receiver args h =
      match r.readCells h 0 s.parameters (Frame.argumentCells s.parameters args) with
      | .ok a => r.invokeVirtual owner s.name (receiver.toCell s.owner).value a h
      | .error e => (.error e, h) := by
  obtain ⟨f, hf, hprepare, hpeek⟩ := @prepare_forCall r s h receiver args owner hlen howner
  rw [reflect, BridgeM.bind_apply, hf]
  show Reflector.call ⟨s, r, .quiet⟩ f h = _
  rw [Reflector.call_apply, hprepare]
  cases r.readCells h 0 s.parameters (Frame.argumentCells s.parameters args) with
  | error e => rfl
  | ok a =>
    simp only [Except.map, hs, hname, Bool.false_eq_true, if_false, hpeek hs]
    exact congrFun (Reflector.announcing_of_hidden rfl _ _) h

theorem reflect_constructor (hs : s.isStatic = false) (hname : s.isConstructor = true)
    (hlen : args.length = s.parameters.length) (howner : r.resolveClass s.ownerName = .ok owner) :
    r.reflect s receiver args h =
      match r.readCells h 0 s.parameters (Frame.argumentCells s.parameters args) with
      | .ok a => r.invokeConstructor owner a h
      | .error e => (.error e, h) := by
  obtain ⟨f, hf, hprepare, -⟩ := @prepare_forCall r s h receiver args owner hlen howner
  rw [reflect, BridgeM.bind_apply, hf]
  show Reflector.call ⟨s, r, .quiet⟩ f h = _
  rw [Reflector.call_apply, hprepare]
  cases r.readCells h 0 s.parameters (Frame.argumentCells s.parameters args) with
  | error e => rfl
  | ok a =>
    simp only [Except.map, hs, hname, Bool.false_eq_true, if_false, if_true]
    exact congrFun (Reflector.announcing_of_hidden rfl _ _) h

/-! ## One argument -/

/-- What the callee receives for a parameter: the value of the cell, coerced and adapted. -/
def received (r : Resolver) (h : Heap) (p : ValueType) (c : Cell) : Except Failure Value := do
  let v ← r.coerced h p 0 c
  let t ← r.hostType p
  (v.adapt r.world 0 t).mapError ArgumentError.toFailure

theorem adapted_singleton (v : Value) (t : HostType) :
    r.adapted [v] [t] =
      ((v.adapt r.world 0 t).mapError ArgumentError.toFailure).map fun a => [a] := by
  rw [adapted, Value.adaptAll, Value.adaptFrom]
  cases v.adapt r.world 0 t <;> rfl

/-- A variant is selected by its own types in a set in which each list of descriptors names types of
its own, none of which decides itself what is below it. -/
theorem select_named (named : Text → HostType) {set : OverloadSet Callable} {label : Text}
    {w : Overload Callable} (hw : w ∈ set.variants)
    (hnodup : (set.variants.map fun v => v.descriptors.map named).Nodup)
    (hnamed : ∀ v ∈ set.variants, r.variantTypes v = .ok (v.descriptors.map named))
    (hplain : ∀ d e, (named d).mayDecide (named e) = false) :
    r.select set (w.descriptors.map named) label = .ok w := by
  have hset : set.Built := by
    refine OverloadSet.built_of_distinct (List.Nodup.of_map (List.map named) ?_)
    rwa [List.map_map]
  have honly : ∀ v ∈ set.variants, v ≠ w → r.variantTypes v ≠ .ok (w.descriptors.map named) := by
    intro v hv hne htypes
    rw [hnamed v hv] at htypes
    exact hne (List.inj_on_of_nodup_map hnodup hv hw (Except.ok.inj htypes))
  have hcompares : r.Compares set (w.descriptors.map named) := by
    intro v hv _
    obtain ⟨c, hc⟩ : ∃ c, totalCost r.world (w.descriptors.map named) (v.descriptors.map named) =
        .ok c := by
      refine exists_totalCost fun p hp => ?_
      rw [List.zip_map, List.mem_map] at hp
      obtain ⟨q, -, rfl⟩ := hp
      exact exists_conversionCost (hplain q.1 q.2)
    rw [price_of_resolves (hnamed v hv), hc]
    exact ⟨c, rfl⟩
  exact (select_eq_ok_iff hcompares).2 ⟨0, least_of_exact hset hw (hnamed w hw) honly⟩

/-- An argument of the type that selects a variant is adapted to that type. -/
theorem planOverload_selected {set : OverloadSet Callable} {w : Overload Callable} {t : HostType}
    {shown label : Text} {leading : List Value} {v : Value}
    (hselect : r.select set [t] shown = .ok w) (hw : r.variantTypes w = .ok [t]) :
    r.planOverload set shown label leading ⟨[v], [t]⟩ =
      ((v.adapt r.world 0 t).mapError ArgumentError.toFailure).map
        fun a => ⟨⟨w.function, leading⟩, label, [a]⟩ := by
  rw [planOverload, hselect, ok_bind, hw, ok_bind, adapted_singleton]
  cases v.adapt r.world 0 t <;> rfl

variable {p : ValueType} {t : HostType} {c : Cell} {set : OverloadSet Callable}
  {w : Overload Callable}

/-- A call of a static member by a variant with one parameter. -/
theorem reflect_variant_static (hs : s.isStatic = true) (hp : s.parameters = [p])
    (howner : r.resolveClass s.ownerName = .ok owner)
    (haccess : Text.startsWith "_" s.name = false)
    (hmember : r.world.member? owner.members s.name = some (.overloads set))
    (ht : r.hostType p = .ok t) (hselect : r.select set [t] owner.name = .ok w)
    (hw : r.variantTypes w = .ok [t]) :
    r.reflect s receiver [.cell c] h =
      match r.received h p c with
      | .ok a => (Call.mk ⟨w.function, []⟩ (label owner s.name) [a]).perform h
      | .error e => (.error e, h) := by
  rw [reflect_static hs (by rw [hp]; rfl) howner, hp]
  show (match r.readCells h 0 [p] [c] with | .ok a => _ | .error e => _) = _
  rw [readCells_cons, received, ht]
  cases r.coerced h p 0 c with
  | error e => rfl
  | ok v =>
    show r.invokeStatic owner s.name ⟨[v], [t]⟩ h = _
    have hplan : r.planStatic owner s.name ⟨[v], [t]⟩ =
        r.planOverload set owner.name (label owner s.name) [] ⟨[v], [t]⟩ := by
      rw [planStatic, checkAccess, haccess, if_neg Bool.false_ne_true, ok_bind]
      simp only [hmember]
    rw [invokeStatic_apply, hplan, planOverload_selected hselect hw, ok_bind, ok_bind]
    cases v.adapt r.world 0 t <;> rfl

/-- The plan of a call on a receiver, once its member is found. -/
theorem planVirtual_found {name : Text} {v : Value} {a : Arguments} {space : HostType} {m : Member}
    (haccess : Text.startsWith "_" name = false) (hnull : v ≠ .null) (hunknown : v ≠ .unknown)
    (hmember : r.instanceMember? owner name v.typeOf = some (space, m)) :
    r.planVirtual owner name v a h =
      match m with
      | .overloads set => (r.planOverload set owner.name (label owner name) [v] a, h)
      | m => r.planMember v name (label owner name) space m a h := by
  unfold planVirtual
  split
  · exact absurd rfl hnull
  · exact absurd rfl hunknown
  · rw [checkAccess, haccess, if_neg Bool.false_ne_true, BridgeM.bind_apply, BridgeM.ofExcept_apply]
    simp only [hmember]
    cases m <;> rfl

/-- A call of a member of an instance by a variant with one parameter. -/
theorem reflect_variant_virtual {space : HostType} (hs : s.isStatic = false)
    (hname : s.isConstructor = false) (hp : s.parameters = [p])
    (howner : r.resolveClass s.ownerName = .ok owner)
    (haccess : Text.startsWith "_" s.name = false) {v : Value}
    (hreceiver : (receiver.toCell s.owner).value = v) (hnull : v ≠ .null) (hunknown : v ≠ .unknown)
    (hmember : r.instanceMember? owner s.name v.typeOf = some (space, .overloads set))
    (ht : r.hostType p = .ok t) (hselect : r.select set [t] owner.name = .ok w)
    (hw : r.variantTypes w = .ok [t]) :
    r.reflect s receiver [.cell c] h =
      match r.received h p c with
      | .ok a => (Call.mk ⟨w.function, [v]⟩ (label owner s.name) [a]).perform h
      | .error e => (.error e, h) := by
  rw [reflect_virtual hs hname (by rw [hp]; rfl) howner, hp, hreceiver]
  show (match r.readCells h 0 [p] [c] with | .ok a => _ | .error e => _) = _
  rw [readCells_cons, received, ht]
  cases r.coerced h p 0 c with
  | error e => rfl
  | ok x =>
    show r.invokeVirtual owner s.name v ⟨[x], [t]⟩ h = _
    rw [invokeVirtual_apply, planVirtual_found haccess hnull hunknown hmember]
    dsimp only
    rw [planOverload_selected hselect hw, ok_bind, ok_bind]
    cases x.adapt r.world 0 t <;> rfl

/-- The making of an instance by a variant with one parameter. -/
theorem reflect_variant_constructor (hs : s.isStatic = false) (hname : s.isConstructor = true)
    (hp : s.parameters = [p]) (howner : r.resolveClass s.ownerName = .ok owner)
    (hmember : r.world.member? owner.members constructorHook = some (.overloads set))
    (ht : r.hostType p = .ok t) (hselect : r.select set [t] owner.name = .ok w)
    (hw : r.variantTypes w = .ok [t]) :
    r.reflect s receiver [.cell c] h =
      match r.received h p c with
      | .ok a => (Call.mk ⟨w.function, []⟩ (label owner constructorName) [a]).perform h
      | .error e => (.error e, h) := by
  rw [reflect_constructor hs hname (by rw [hp]; rfl) howner, hp]
  show (match r.readCells h 0 [p] [c] with | .ok a => _ | .error e => _) = _
  rw [readCells_cons, received, ht]
  cases r.coerced h p 0 c with
  | error e => rfl
  | ok x =>
    have hplan : r.planConstructor owner ⟨[x], [t]⟩ =
        r.planOverload set owner.name (label owner constructorName) [] ⟨[x], [t]⟩ := by
      rw [planConstructor]
      simp only [hmember]
    show r.invokeConstructor owner ⟨[x], [t]⟩ h = _
    rw [invokeConstructor_apply, hplan, planOverload_selected hselect hw, ok_bind, ok_bind]
    cases x.adapt r.world 0 t <;> rfl

/-! ## Members without variants -/

theorem unary_call (name p : Text) (body : Value → HostM Value) (v : Value) :
    (Callable.unary name p body).call [v] = body v := rfl

theorem binary_call (name p q : Text) (body : Value → Value → HostM Value) (v w : Value) :
    (Callable.binary name p q body).call [v, w] = body v w := rfl

/-- A method takes the receiver first, wherever it is found. -/
theorem planMember_method {f : Callable} (name label : Text) (v : Value) (space : HostType)
    {a : Arguments} {as : List Value} (hadapted : r.adapted a.values a.types = .ok as)
    (harity : f.bindFault? (as.length + 1) = none) :
    ∃ leading rest, leading ++ rest = v :: as ∧
      r.planMember v name label space (.method f) a h = (.ok ⟨⟨f, leading⟩, label, rest⟩, h) := by
  have hplan : ∀ leading rest, leading ++ rest = v :: as →
      (Target.mk f leading).plan label rest = .ok ⟨⟨f, leading⟩, label, rest⟩ := by
    intro leading rest hpassed
    have hcount : leading.length + rest.length = as.length + 1 := by
      rw [← List.length_append, hpassed, List.length_cons]
    exact plan_of_bound fun _ => hcount ▸ harity
  rw [planMember, BridgeM.bind_apply, hadapted, BridgeM.ofExcept_apply]
  dsimp only
  by_cases hown : (r.world.lineage v.typeOf).elem space = true
  · refine ⟨[v], as, rfl, ?_⟩
    rw [if_pos hown]
    exact congrArg (·, h) (hplan [v] as rfl)
  · refine ⟨[], v :: as, rfl, ?_⟩
    rw [if_neg hown]
    exact congrArg (·, h) (hplan [] (v :: as) rfl)

/-- A call of a method on arguments that can be read and adapted. -/
theorem reflect_method (s : Signature) (receiver : Argument) (args : List Argument)
    {space : HostType} {f : Callable} {v : Value} {a : Arguments} {as : List Value}
    (hs : s.isStatic = false) (hname : s.isConstructor = false)
    (hlen : args.length = s.parameters.length) (howner : r.resolveClass s.ownerName = .ok owner)
    (haccess : Text.startsWith "_" s.name = false)
    (hreceiver : (receiver.toCell s.owner).value = v) (hnull : v ≠ .null) (hunknown : v ≠ .unknown)
    (hmember : r.instanceMember? owner s.name v.typeOf = some (space, .method f))
    (hread : r.readCells h 0 s.parameters (Frame.argumentCells s.parameters args) = .ok a)
    (hadapted : r.adapted a.values a.types = .ok as)
    (harity : f.bindFault? (as.length + 1) = none) {x : Except HostError Value} {h' : Heap}
    (hcall : f.call (v :: as) h = (x, h')) :
    r.reflect s receiver args h =
      (x.mapError fun e => .wrapping e (.target (label owner s.name) e), h') := by
  obtain ⟨leading, rest, hpassed, hplan⟩ :=
    planMember_method (h := h) s.name (label owner s.name) v space hadapted harity
  rw [reflect_virtual hs hname hlen howner, hread, hreceiver]
  dsimp only
  rw [invokeVirtual_apply, planVirtual_found haccess hnull hunknown hmember]
  dsimp only
  rw [hplan]
  rw [← hpassed] at hcall
  exact perform_eq (c := ⟨⟨f, leading⟩, _, rest⟩) hcall

/-- A call of a method on one cell. -/
theorem reflect_method_cell {space : HostType} {f : Callable} {v : Value}
    {body : Value → Except HostError Value} (hs : s.isStatic = false)
    (hname : s.isConstructor = false) (hp : s.parameters = [p])
    (howner : r.resolveClass s.ownerName = .ok owner)
    (haccess : Text.startsWith "_" s.name = false)
    (hreceiver : (receiver.toCell s.owner).value = v) (hnull : v ≠ .null) (hunknown : v ≠ .unknown)
    (hmember : r.instanceMember? owner s.name v.typeOf = some (space, .method f))
    (ht : r.hostType p = .ok t) (harity : f.bindFault? 2 = none)
    (hcall : ∀ a, f.call [v, a] h = (body a, h)) :
    r.reflect s receiver [.cell c] h =
      (r.received h p c >>= fun a =>
        (body a).mapError fun e => .wrapping e (.target (label owner s.name) e), h) := by
  have hlen : [Argument.cell c].length = s.parameters.length := by rw [hp]; rfl
  have hread : r.readCells h 0 s.parameters (Frame.argumentCells s.parameters [.cell c]) =
      (r.coerced h p 0 c).map fun x => ⟨[x], [t]⟩ := by
    rw [hp]
    show r.readCells h 0 [p] [c] = _
    rw [readCells_cons, ht]
    cases r.coerced h p 0 c <;> rfl
  rw [received, ht]
  cases hcoerced : r.coerced h p 0 c with
  | error e =>
    rw [hcoerced] at hread
    rw [reflect_virtual hs hname hlen howner, hread]
    rfl
  | ok x =>
    rw [hcoerced] at hread
    rw [ok_bind, ok_bind]
    have hadapted := adapted_singleton (r := r) x t
    cases hadapt : x.adapt r.world 0 t with
    | error e =>
      rw [hadapt] at hadapted
      rw [reflect_virtual hs hname hlen howner, hread, hreceiver]
      show r.invokeVirtual owner s.name v ⟨[x], [t]⟩ h = _
      rw [invokeVirtual_apply, planVirtual_found haccess hnull hunknown hmember]
      dsimp only
      rw [planMember, BridgeM.bind_apply, hadapted]
      rfl
    | ok a =>
      rw [hadapt] at hadapted
      have happly := reflect_method s receiver [.cell c] hs hname hlen howner haccess hreceiver
        hnull hunknown hmember hread hadapted harity (hcall a)
      exact happly

end Resolver

end HostCall
