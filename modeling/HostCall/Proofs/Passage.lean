import HostCall.Proofs.Assignability
import HostCall.Proofs.Coercion
import HostCall.Proofs.Narrowing
import HostCall.Proofs.RenderedText

/-!
# Values on their way to a member

A value of the type that a parameter declares comes through the registers, and through the
adaptation to that type, without a loss.  A `Passage` is such a value with what the callee receives
for it, and carries the proofs that nothing happens on the way; so a call of a member of the library
on a list of passages is a call of its code on what they deliver.

There is one equation for each kind of member that such a call may find: `reflect_staticMethod`,
`reflect_method_received`, and for variants `reflect_variant_of_static` and
`reflect_variant_of_virtual`.  The last section has them for the classes of the library under the
default configuration, where only the member and its code are left to name.
-/

namespace HostCall

open Result Library

/-- A value that is given for a parameter, with the value that the callee receives. -/
structure Passage (r : Resolver) where
  parameter : ValueType
  type : HostType
  given : Value
  received : Value
  hostType_eq : r.hostType parameter = .ok type
  coerced_eq : ∀ h place, r.coerced h parameter place ⟨given, parameter.descriptor⟩ = .ok received
  adapt_eq : ∀ position, received.adapt r.world position type = .ok received

namespace Passage

variable {r : Resolver} {k : Kind} {w : Nat} {v : Value} {n : Int}

theorem coerced_primitive (hk : k.bits? = some w) (hv : v.denoted? = some n)
    (hn : -2 ^ 63 ≤ n ∧ n < 2 ^ 64) (h : Heap) (place : Nat) :
    r.coerced h (.primitive k) place ⟨v, (ValueType.primitive k).descriptor⟩ =
      .ok (.scalar (Scalar.ofInt k n)) := by
  have hnull : v ≠ .null := by
    rintro rfl
    cases hv
  have hunknown : v ≠ .unknown := by
    rintro rfl
    cases hv
  have htag : (⟨v, (ValueType.primitive k).descriptor⟩ : Cell).isPrimitiveOrWrapper = true := by
    simp [Cell.isPrimitiveOrWrapper, Cell.isPrimitive, ValueType.descriptor, Kind.ofText?,
      Kind.ofLetter?_letter]
  rw [Resolver.coerced, coerce_of_known hnull hunknown, if_pos htag]
  show (v.narrow h [k.letter]).mapError _ = _
  rw [Value.narrow_of_fits hv hk hn]
  rfl

/-- A value that stands for an integer is received as the scalar of the kind that is declared. -/
def primitive (k : Kind) (hk : k.bits? = some w) (hv : v.denoted? = some n)
    (hn : -2 ^ 63 ≤ n ∧ n < 2 ^ 64) : Passage r where
  parameter := .primitive k
  type := .scalar k
  given := v
  received := .scalar (Scalar.ofInt k n)
  hostType_eq := by cases k <;> rfl
  coerced_eq := coerced_primitive hk hv hn
  adapt_eq := by
    intro position
    have htype : (Value.scalar (Scalar.ofInt k n)).typeOf = .scalar k := by
      rw [Value.typeOf, Scalar.kind_ofInt]
    have hadmits := Value.admits_typeOf r.world (.scalar (Scalar.ofInt k n))
    rw [htype] at hadmits
    exact Value.adapt_of_admits (by simp) (by simp) hadmits

theorem ofInt_toInt_int (n : Int32) : Scalar.ofInt .int n.toInt = .int n :=
  congrArg Scalar.int (Int32.ofInt_toInt n)

theorem ofInt_toInt_long (n : Int64) : Scalar.ofInt .long n.toInt = .long n :=
  congrArg Scalar.long (Int64.ofInt_toInt n)

/-- A value that stands for an `int`, where one is declared. -/
def int (n : Int32) (hv : v.denoted? = some n.toInt) : Passage r :=
  .primitive .int rfl hv (by have := n.le_toInt; have := n.toInt_lt; omega)

/-- A value that stands for a `long`, where one is declared. -/
def long (n : Int64) (hv : v.denoted? = some n.toInt) : Passage r :=
  .primitive .long rfl hv (by have := n.le_toInt; have := n.toInt_lt; omega)

theorem received_int (n : Int32) (hv : v.denoted? = some n.toInt) :
    (int n hv : Passage r).received = .scalar (.int n) := congrArg Value.scalar (ofInt_toInt_int n)

theorem received_long (n : Int64) (hv : v.denoted? = some n.toInt) :
    (long n hv : Passage r).received = .scalar (.long n) :=
  congrArg Value.scalar (ofInt_toInt_long n)

theorem known_of_typeOf_text (hv : v.typeOf = .text) : v ≠ .null ∧ v ≠ .unknown := by
  constructor <;> (rintro rfl; cases hv)

/-- What is of the type of texts is received as it is under each descriptor that names that type. -/
def textAs (d : Text) (htype : r.hostType (.reference d) = .ok .text)
    (hkind : Kind.ofText? d = none) (hwrapper : d ∉ Cell.wrappers) (hv : v.typeOf = .text) :
    Passage r where
  parameter := .reference d
  type := .text
  given := v
  received := v
  hostType_eq := htype
  coerced_eq := by
    intro h place
    obtain ⟨hnull, hunknown⟩ := known_of_typeOf_text hv
    have htag : (⟨v, d⟩ : Cell).isPrimitiveOrWrapper = false := by
      simp [Cell.isPrimitiveOrWrapper, Cell.isPrimitive, Cell.isWrapper, hkind, hwrapper]
    have hzero : v.isZeroNumber = false := by
      cases v with
      | text _ | object _ _ => rfl
      | _ => cases hv
    rw [Resolver.coerced, coerce_of_known hnull hunknown]
    simp only [ValueType.descriptor, htag, hzero, Bool.and_false, Bool.false_eq_true, if_false]
    rfl
  adapt_eq := by
    intro position
    obtain ⟨hnull, hunknown⟩ := known_of_typeOf_text hv
    have hadmits := Value.admits_typeOf r.world v
    rw [hv] at hadmits
    exact Value.adapt_of_admits hnull hunknown hadmits

/-- The descriptor of the interface of texts. -/
def charsDescriptor : Text := "Ljava/lang/CharSequence;"

theorem hostType_text (hr : r.BindsLibrary) :
    r.hostType (.reference textDescriptor) = .ok .text :=
  hr.hostType_class (b := ⟨"java.lang.String", .text, lang "JavaString"⟩) (by simp [bindings]) rfl

theorem hostType_chars : Resolver.standard.hostType (.reference charsDescriptor) = .ok .text :=
  Resolver.bindsLibrary_standard.hostType_class
    (b := ⟨"java.lang.CharSequence", .text, lang "JavaString"⟩) (by simp [bindings]) rfl

theorem text_notMem_wrappers : textDescriptor ∉ Cell.wrappers := by decide +kernel

theorem chars_notMem_wrappers : charsDescriptor ∉ Cell.wrappers := by decide +kernel

/-- A text, where its class is declared. -/
def text (t : Text) : Passage .standard :=
  textAs (v := .text t) textDescriptor (hostType_text Resolver.bindsLibrary_standard) rfl
    text_notMem_wrappers rfl

/-- A text, where its interface is declared. -/
def chars (t : Text) : Passage .standard :=
  textAs (v := .text t) charsDescriptor hostType_chars rfl chars_notMem_wrappers rfl

theorem object_notMem_wrappers : objectDescriptor ∉ Cell.wrappers := by decide +kernel

/-- A value that is neither null nor unknown, where any object is declared. -/
def object (hr : r.BindsLibrary) (hnull : v ≠ .null) (hunknown : v ≠ .unknown) : Passage r where
  parameter := .reference objectDescriptor
  type := .object
  given := v
  received := v
  hostType_eq := hr.hostType_class (b := ⟨"java.lang.Object", .object, lang "JavaObject"⟩)
    (by simp [bindings]) rfl
  coerced_eq := by
    intro h place
    have htag : (⟨v, objectDescriptor⟩ : Cell).isPrimitiveOrWrapper = false := by
      have hkind : Kind.ofText? objectDescriptor = none := rfl
      simp [Cell.isPrimitiveOrWrapper, Cell.isPrimitive, Cell.isWrapper, hkind,
        object_notMem_wrappers]
    have hobject : (ValueType.reference objectDescriptor).isObject = true := rfl
    rw [Resolver.coerced, coerce_of_known hnull hunknown]
    simp only [ValueType.descriptor, htag, hobject, Bool.not_true, Bool.and_false, Bool.false_and,
      Bool.false_eq_true, if_false]
    rfl
  adapt_eq := fun _ => (Value.adapt_of_known hnull hunknown).trans (if_pos rfl)

theorem received_eq (p : Passage r) (h : Heap) :
    r.received h p.parameter ⟨p.given, p.parameter.descriptor⟩ = .ok p.received := by
  rw [Resolver.received, p.coerced_eq, ok_bind, p.hostType_eq, ok_bind, p.adapt_eq]
  rfl

/-! ## Lists of passages -/

/-- The arguments that are given. -/
def arguments (ps : List (Passage r)) : List Argument := (ps.map given).map .value

theorem length_arguments (ps : List (Passage r)) :
    (arguments ps).length = (ps.map parameter).length := by
  rw [arguments, List.length_map, List.length_map, List.length_map]

theorem readCells_arguments (h : Heap) (ps : List (Passage r)) (place : Nat) :
    r.readCells h place (ps.map parameter)
        (Frame.argumentCells (ps.map parameter) (arguments ps)) =
      .ok ⟨ps.map received, ps.map type⟩ := by
  induction ps generalizing place with
  | nil => rfl
  | cons p ps ih =>
    have hcells : Frame.argumentCells ((p :: ps).map parameter) (arguments (p :: ps)) =
        ⟨p.given, p.parameter.descriptor⟩ ::
          Frame.argumentCells (ps.map parameter) (arguments ps) := rfl
    rw [hcells, List.map_cons, Resolver.readCells_cons, p.coerced_eq, ok_bind, p.hostType_eq,
      ok_bind, ih, ok_bind]
    rfl

theorem adaptFrom_received (ps : List (Passage r)) (position : Nat) :
    Value.adaptFrom r.world position (ps.map received) (ps.map type) = .ok (ps.map received) := by
  induction ps generalizing position with
  | nil => rfl
  | cons p ps ih =>
    rw [List.map_cons, List.map_cons, Value.adaptFrom, p.adapt_eq, ok_bind, ih]
    rfl

theorem adapted_received (ps : List (Passage r)) :
    r.adapted (ps.map received) (ps.map type) = .ok (ps.map received) := by
  rw [Resolver.adapted, Value.adaptAll, adaptFrom_received]
  rfl

end Passage

/-! ## From the reference to the code -/

namespace Resolver

variable {r : Resolver} {s : Signature} {receiver : Argument} {owner : HostClass} {h h' : Heap}
  {x : Except HostError Value} {f : Callable} {set : OverloadSet Callable} {w : Overload Callable}

/-- The variant that the types of the passages select is planned with what they deliver. -/
theorem planOverload_received (ps : List (Passage r)) {shown label : Text} {leading : List Value}
    (hselect : r.select set (ps.map Passage.type) shown = .ok w)
    (hw : r.variantTypes w = .ok (ps.map Passage.type)) :
    r.planOverload set shown label leading ⟨ps.map Passage.received, ps.map Passage.type⟩ =
      .ok ⟨⟨w.function, leading⟩, label, ps.map Passage.received⟩ := by
  rw [planOverload, hselect, ok_bind, hw, ok_bind, Passage.adapted_received]
  rfl

theorem reflect_static_received (ps : List (Passage r)) (hs : s.isStatic = true)
    (hp : s.parameters = ps.map Passage.parameter)
    (howner : r.resolveClass s.ownerName = .ok owner) :
    r.reflect s receiver (Passage.arguments ps) h =
      r.invokeStatic owner s.name ⟨ps.map Passage.received, ps.map Passage.type⟩ h := by
  have hlen : (Passage.arguments ps).length = s.parameters.length := by
    rw [hp, Passage.length_arguments]
  rw [reflect_static hs hlen howner, hp, Passage.readCells_arguments]

/-- A call of a static member without variants. -/
theorem reflect_staticMethod (ps : List (Passage r)) (hs : s.isStatic = true)
    (hp : s.parameters = ps.map Passage.parameter)
    (howner : r.resolveClass s.ownerName = .ok owner)
    (haccess : Text.startsWith "_" s.name = false)
    (hmember : r.world.member? owner.members s.name = some (.staticMethod f))
    (harity : f.bindFault? ps.length = none)
    (hcall : f.call (ps.map Passage.received) h = (x, h')) :
    r.reflect s receiver (Passage.arguments ps) h =
      (x.mapError fun e => .wrapping e (.target (label owner s.name) e), h') := by
  have hplan : r.planStatic owner s.name ⟨ps.map Passage.received, ps.map Passage.type⟩ =
      .ok ⟨⟨f, []⟩, label owner s.name, ps.map Passage.received⟩ := by
    rw [planStatic, checkAccess, haccess, if_neg Bool.false_ne_true, ok_bind]
    simp only [hmember, Passage.adapted_received, ok_bind]
    refine plan_of_bound fun _ => ?_
    rw [List.length_map, List.length_nil, Nat.zero_add, harity]
  rw [reflect_static_received ps hs hp howner, invokeStatic_apply, hplan]
  exact perform_eq hcall

/-- A call of a static member by the variant that is declared for the types of the passages. -/
theorem reflect_variant_of_static (ps : List (Passage r)) (hs : s.isStatic = true)
    (hp : s.parameters = ps.map Passage.parameter)
    (howner : r.resolveClass s.ownerName = .ok owner)
    (haccess : Text.startsWith "_" s.name = false)
    (hmember : r.world.member? owner.members s.name = some (.overloads set))
    (hselect : r.select set (ps.map Passage.type) owner.name = .ok w)
    (hw : r.variantTypes w = .ok (ps.map Passage.type))
    (hcall : w.function.call (ps.map Passage.received) h = (x, h')) :
    r.reflect s receiver (Passage.arguments ps) h =
      (x.mapError fun e => .wrapping e (.target (label owner s.name) e), h') := by
  have hplan : r.planStatic owner s.name ⟨ps.map Passage.received, ps.map Passage.type⟩ =
      .ok ⟨⟨w.function, []⟩, label owner s.name, ps.map Passage.received⟩ := by
    rw [planStatic, checkAccess, haccess, if_neg Bool.false_ne_true, ok_bind]
    simp only [hmember, planOverload_received ps hselect hw]
  rw [reflect_static_received ps hs hp howner, invokeStatic_apply, hplan]
  exact perform_eq hcall

variable {v : Value} {space : HostType}

/-- A call of a method without variants. -/
theorem reflect_method_received (ps : List (Passage r)) (hs : s.isStatic = false)
    (hname : s.isConstructor = false) (hp : s.parameters = ps.map Passage.parameter)
    (howner : r.resolveClass s.ownerName = .ok owner)
    (haccess : Text.startsWith "_" s.name = false)
    (hreceiver : (receiver.toCell s.owner).value = v) (hnull : v ≠ .null) (hunknown : v ≠ .unknown)
    (hmember : r.instanceMember? owner s.name v.typeOf = some (space, .method f))
    (harity : f.bindFault? (ps.length + 1) = none)
    (hcall : f.call (v :: ps.map Passage.received) h = (x, h')) :
    r.reflect s receiver (Passage.arguments ps) h =
      (x.mapError fun e => .wrapping e (.target (label owner s.name) e), h') := by
  have hlen : (Passage.arguments ps).length = s.parameters.length := by
    rw [hp, Passage.length_arguments]
  have hread := Passage.readCells_arguments h ps 0
  rw [← hp] at hread
  rw [← List.length_map (f := Passage.received)] at harity
  exact reflect_method s receiver (Passage.arguments ps) hs hname hlen howner haccess hreceiver
    hnull hunknown hmember hread (Passage.adapted_received ps) harity hcall

/-- A call of a method by the variant that is declared for the types of the passages. -/
theorem reflect_variant_of_virtual (ps : List (Passage r)) (hs : s.isStatic = false)
    (hname : s.isConstructor = false) (hp : s.parameters = ps.map Passage.parameter)
    (howner : r.resolveClass s.ownerName = .ok owner)
    (haccess : Text.startsWith "_" s.name = false)
    (hreceiver : (receiver.toCell s.owner).value = v) (hnull : v ≠ .null) (hunknown : v ≠ .unknown)
    (hmember : r.instanceMember? owner s.name v.typeOf = some (space, .overloads set))
    (hselect : r.select set (ps.map Passage.type) owner.name = .ok w)
    (hw : r.variantTypes w = .ok (ps.map Passage.type))
    (hcall : w.function.call (v :: ps.map Passage.received) h = (x, h')) :
    r.reflect s receiver (Passage.arguments ps) h =
      (x.mapError fun e => .wrapping e (.target (label owner s.name) e), h') := by
  have hlen : (Passage.arguments ps).length = s.parameters.length := by
    rw [hp, Passage.length_arguments]
  rw [reflect_virtual hs hname hlen howner, hp, Passage.readCells_arguments, hreceiver]
  dsimp only
  rw [invokeVirtual_apply, planVirtual_found haccess hnull hunknown hmember]
  dsimp only
  rw [planOverload_received ps hselect hw]
  exact perform_eq hcall

end Resolver

/-! ## Classes of the library -/

namespace HostClass

/-- The reference of a method. -/
def method (c : HostClass) (name : Text) (parameters : List ValueType) (returnType : Text)
    (isStatic : Bool) : Signature :=
  ⟨internalName c.name, c.name, name, parameters, returnType, isStatic⟩

/-- The call of a method on a receiver. -/
def call (c : HostClass) (name : Text) (parameters : List ValueType) (returnType : Text)
    (receiver : Value) (args : List Value) : BridgeM Value :=
  Resolver.standard.reflect (c.method name parameters returnType false) (.value receiver)
    (args.map .value)

/-- The call of a static method. -/
def callStatic (c : HostClass) (name : Text) (parameters : List ValueType) (returnType : Text)
    (args : List Value) : BridgeM Value :=
  Resolver.standard.reflect (c.method name parameters returnType true) (.value .null)
    (args.map .value)

variable {c : HostClass} {name returnType : Text} {h h' : Heap} {x : Except HostError Value}
  {f : Callable}

theorem call_method (ps : List (Passage .standard)) {v : Value} {space : HostType}
    (hclass : Resolver.standard.resolveClass c.name = .ok c)
    (hname : (name == constructorName) = false ∧ Text.startsWith "_" name = false)
    (hnull : v ≠ .null) (hunknown : v ≠ .unknown)
    (hmember : Resolver.standard.instanceMember? c name v.typeOf = some (space, .method f))
    (harity : f.bindFault? (ps.length + 1) = none)
    (hcall : f.call (v :: ps.map Passage.received) h = (x, h')) :
    c.call name (ps.map Passage.parameter) returnType v (ps.map Passage.given) h =
      (x.mapError fun e => .wrapping e (.target (Resolver.label c name) e), h') :=
  Resolver.reflect_method_received ps rfl hname.1 rfl hclass hname.2 rfl hnull hunknown hmember
    harity hcall

theorem call_variant (ps : List (Passage .standard)) {v : Value} {space : HostType}
    {vs : List (List Text × Callable)} {ds : List Text} {shown : Text}
    (hclass : Resolver.standard.resolveClass c.name = .ok c)
    (hname : (name == constructorName) = false ∧ Text.startsWith "_" name = false)
    (hnull : v ≠ .null) (hunknown : v ≠ .unknown)
    (hmember : Resolver.standard.instanceMember? c name v.typeOf =
      some (space, .variants shown vs))
    (hvs : ∀ e ∈ vs, e.1 ⊆ variantDescriptors)
    (hnodup : (vs.map fun e => e.1.map namedType).Nodup)
    (hf : (ds, f) ∈ vs) (hds : ps.map Passage.type = ds.map namedType)
    (hcall : f.call (v :: ps.map Passage.received) h = (x, h')) :
    c.call name (ps.map Passage.parameter) returnType v (ps.map Passage.given) h =
      (x.mapError fun e => .wrapping e (.target (Resolver.label c name) e), h') := by
  have hselect := Resolver.select_variant shown c.name hvs hnodup hf
  have hw := Resolver.bindsLibrary_standard.variantTypes_named (hvs _ hf) f
  rw [← hds] at hselect hw
  exact Resolver.reflect_variant_of_virtual ps rfl hname.1 rfl hclass hname.2 rfl hnull hunknown
    hmember hselect hw hcall

theorem callStatic_plain (ps : List (Passage .standard))
    (hclass : Resolver.standard.resolveClass c.name = .ok c)
    (haccess : Text.startsWith "_" name = false)
    (hmember : Universe.standard.member? c.members name = some (.staticMethod f))
    (harity : f.bindFault? ps.length = none)
    (hcall : f.call (ps.map Passage.received) h = (x, h')) :
    c.callStatic name (ps.map Passage.parameter) returnType (ps.map Passage.given) h =
      (x.mapError fun e => .wrapping e (.target (Resolver.label c name) e), h') :=
  Resolver.reflect_staticMethod ps rfl rfl hclass haccess hmember harity hcall

theorem callStatic_variant (ps : List (Passage .standard)) {vs : List (List Text × Callable)}
    {ds : List Text} {shown : Text} (hclass : Resolver.standard.resolveClass c.name = .ok c)
    (haccess : Text.startsWith "_" name = false)
    (hmember : Universe.standard.member? c.members name = some (.variants shown vs))
    (hvs : ∀ e ∈ vs, e.1 ⊆ variantDescriptors)
    (hnodup : (vs.map fun e => e.1.map namedType).Nodup)
    (hf : (ds, f) ∈ vs) (hds : ps.map Passage.type = ds.map namedType)
    (hcall : f.call (ps.map Passage.received) h = (x, h')) :
    c.callStatic name (ps.map Passage.parameter) returnType (ps.map Passage.given) h =
      (x.mapError fun e => .wrapping e (.target (Resolver.label c name) e), h') := by
  have hselect := Resolver.select_variant shown c.name hvs hnodup hf
  have hw := Resolver.bindsLibrary_standard.variantTypes_named (hvs _ hf) f
  rw [← hds] at hselect hw
  exact Resolver.reflect_variant_of_static ps rfl rfl hclass haccess hmember hselect hw hcall

/-! ## Members of texts -/

variable {t : Text} {space : HostType}

theorem call_text_method (ps : List (Passage .standard))
    (hname : (name == constructorName) = false ∧ Text.startsWith "_" name = false)
    (hmember : Resolver.standard.instanceMember? textClass name .text = some (space, .method f))
    (harity : f.bindFault? (ps.length + 1) = none)
    (hcall : f.call (.text t :: ps.map Passage.received) h = (x, h')) :
    textClass.call name (ps.map Passage.parameter) returnType (.text t) (ps.map Passage.given) h =
      (x.mapError fun e => .wrapping e (.target (Resolver.label textClass name) e), h') :=
  call_method (v := .text t) ps Resolver.bindsLibrary_standard.resolveClass_text hname (by simp)
    (by simp) hmember harity hcall

theorem call_text_variant (ps : List (Passage .standard)) {vs : List (List Text × Callable)}
    {ds : List Text} {shown : Text}
    (hname : (name == constructorName) = false ∧ Text.startsWith "_" name = false)
    (hmember : Resolver.standard.instanceMember? textClass name .text =
      some (space, .variants shown vs))
    (hvs : ∀ e ∈ vs, e.1 ⊆ variantDescriptors)
    (hnodup : (vs.map fun e => e.1.map namedType).Nodup)
    (hf : (ds, f) ∈ vs) (hds : ps.map Passage.type = ds.map namedType)
    (hcall : f.call (.text t :: ps.map Passage.received) h = (x, h')) :
    textClass.call name (ps.map Passage.parameter) returnType (.text t) (ps.map Passage.given) h =
      (x.mapError fun e => .wrapping e (.target (Resolver.label textClass name) e), h') :=
  call_variant (v := .text t) ps Resolver.bindsLibrary_standard.resolveClass_text hname (by simp)
    (by simp) hmember hvs hnodup hf hds hcall

end HostClass

end HostCall
