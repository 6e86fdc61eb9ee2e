import HostCall.Library.Standard
import HostCall.Proofs.IntegerText
import HostCall.Proofs.PlannedCall

/-!
# From text to boxed values

A text becomes a boxed integer, long or boolean in three ways: by the member `valueOf`, by making an
instance, and by the parser of the class.  The ways differ.  A parser of integers is strict, and
`valueOf` is so for integers alone; everything else goes through the conversion of the host, which
takes blanks, underscores, digits of other scripts and numbers of any size.  For booleans that
conversion asks whether the text is empty, and the parser what it spells.

`box_eq` tells what each way reads.  Main statement, `box_agree_iff`: the texts on which the three
ways agree are those that the strict reader takes and those that nothing takes, and among booleans
those for which it makes no difference.
-/

namespace HostCall

open Result Library

/-! ## The three ways -/

/-- A resolver under which every class of the library is what it is bound to. -/
structure Resolver.BindsLibrary (r : Resolver) : Prop where
  world : r.world = Universe.standard
  bound : ∀ b ∈ bindings, r.resolveClass b.name = .ok ⟨b.name, b.hostType, b.members⟩

/-- The classes of boxed values that are read from text. -/
inductive Boxed where
  | integer
  | long
  | boolean

/-- The ways from a text to a boxed value. -/
inductive Route where
  | valueOf
  | construct
  | parse

namespace Boxed

def owner : Boxed → HostClass
  | .integer => ⟨"java.lang.Integer", .integer, lang "JavaInteger"⟩
  | .long => ⟨"java.lang.Long", .integer, lang "JavaLong"⟩
  | .boolean => ⟨"java.lang.Boolean", .boolean, lang "JavaBoolean"⟩

theorem owner_mem (c : Boxed) :
    ⟨c.owner.name, c.owner.hostType, c.owner.members⟩ ∈ bindings := by
  cases c <;> simp [bindings, owner]

/-- The member that a way calls. -/
def memberName : Boxed → Route → Text
  | _, .valueOf => "valueOf"
  | _, .construct => constructorName
  | .integer, .parse => "parseInt"
  | .long, .parse => "parseLong"
  | .boolean, .parse => "parseBoolean"

end Boxed

def textDescriptor : Text := "Ljava/lang/String;"

/-- A call on one argument for a parameter of the class of texts. -/
def Resolver.box (r : Resolver) (c : Boxed) (route : Route) (v : Value) : BridgeM Value := do
  let owner ← BridgeM.ofExcept (r.resolveClass c.owner.name)
  let t ← BridgeM.ofExcept (r.typeOfDescriptor textDescriptor)
  match route with
  | .construct => r.invokeConstructor owner ⟨[v], [t]⟩
  | route => r.invokeStatic owner (c.memberName route) ⟨[v], [t]⟩

/-- A text, or null. -/
def Value.ofText? : Option Text → Value
  | none => .null
  | some t => .text t

/-- What a way reads from a text or null. -/
def Boxed.read : Boxed → Route → Option Text → Except HostError Value
  | .integer, .valueOf, s => (parseInteger s 10 intMin intMax).map .integer
  | .integer, .parse, s =>
    (parseInteger s 10 intMin intMax).map fun n => .scalar (.int (Int32.ofInt n))
  | .long, .parse, s =>
    (parseInteger s 10 longMin longMax).map fun n => .scalar (.long (Int64.ofInt n))
  | .integer, .construct, s | .long, _, s => (Value.ofText? s).toInteger.map .integer
  | .boolean, .parse, s => .ok (.boolean (s.map Text.lower == some (.ofString "true")))
  | .boolean, _, s => .ok (.boolean (s.any (· != [])))

/-! ## Calls on a text -/

namespace Resolver

variable {r : Resolver} {s : Option Text} {h : Heap}

/-- A name of the library is what it is bound to in the registry of the library, where the settings
neither deny it nor let it stand for another class. -/
theorem resolveClass_standard {b : Binding} (hb : b ∈ bindings)
    (hregistry : r.registry = Registry.standard) (hdenied : b.name ∉ r.settings.deniedTypes)
    (halias : r.settings.aliases.lookup b.name = none) :
    r.resolveClass b.name = .ok ⟨b.name, b.hostType, b.members⟩ := by
  have hplain : ∀ b ∈ bindings, Text.startsWith "[" b.name = false := by decide +kernel
  have hallowed : r.isDenied b.name = false := by simpa [isDenied] using hdenied
  rw [resolveClass, hallowed, if_neg Bool.false_ne_true, dif_neg (by simp [hplain b hb]),
    resolvePlain, halias, hregistry, Registry.lookup_standard hb]

theorem bindsLibrary_standard :
    BindsLibrary ⟨Universe.standard, Registry.standard, {}⟩ :=
  ⟨rfl, fun _ hb => resolveClass_standard hb rfl List.not_mem_nil rfl⟩

theorem BindsLibrary.resolveClass_owner (hr : r.BindsLibrary) (c : Boxed) :
    r.resolveClass c.owner.name = .ok c.owner := hr.bound _ c.owner_mem

/-- A reference to a class of the library names the host type that the class is bound to. -/
theorem BindsLibrary.hostType_class (hr : r.BindsLibrary) {b : Binding} (hb : b ∈ bindings)
    {d : Text} (hname : binaryName d = b.name) : r.hostType (.reference d) = .ok b.hostType := by
  show (r.resolveClass (binaryName d) >>= fun c => .ok c.hostType) = _
  rw [hname, hr.bound b hb]
  rfl

theorem BindsLibrary.typeOfDescriptor_class (hr : r.BindsLibrary) {b : Binding} (hb : b ∈ bindings)
    {d : Text} (hparse : ValueType.parse d = .ok (.reference d)) (hname : binaryName d = b.name) :
    r.typeOfDescriptor d = .ok b.hostType := by
  rw [typeOfDescriptor, hparse]
  exact hr.hostType_class hb hname

theorem BindsLibrary.typeOfDescriptor_text (hr : r.BindsLibrary) :
    r.typeOfDescriptor textDescriptor = .ok .text :=
  hr.typeOfDescriptor_class (b := ⟨"java.lang.String", .text, lang "JavaString"⟩)
    (by simp [bindings]) rfl rfl

/-- A text or null passes as a text. -/
theorem adapted_text (s : Option Text) :
    r.adapted [.ofText? s] [.text] = .ok [.ofText? s] := by
  cases s <;> rfl

/-- A call of a plain static member on a text or null. -/
theorem BindsLibrary.invokeStatic_plain (hr : r.BindsLibrary) {owner : HostClass} {name : Text}
    {x : Except HostError Value} (haccess : Text.startsWith "_" name = false)
    (hm : ∃ f, Universe.standard.member? owner.members name = some (.staticMethod f) ∧
      f.bindFault? 1 = none ∧ f.call [.ofText? s] h = (x, h)) :
    r.invokeStatic owner name ⟨[.ofText? s], [.text]⟩ h =
      (x.mapError fun e => .wrapping e (.target (label owner name) e), h) := by
  obtain ⟨f, hm, hf, hcall⟩ := hm
  rw [← hr.world] at hm
  have hplan : r.planStatic owner name ⟨[.ofText? s], [.text]⟩ =
      .ok ⟨⟨f, []⟩, label owner name, [.ofText? s]⟩ := by
    simp only [planStatic, checkAccess, haccess, Bool.false_eq_true, if_false, hm, adapted_text,
      ok_bind]
    exact plan_of_bound fun _ => hf
  rw [invokeStatic_apply, hplan]
  exact perform_eq hcall

/-- Without a member that makes instances the host type is called, on a value that passes as it
is. -/
theorem BindsLibrary.invokeConstructor_hostType (hr : r.BindsLibrary) {owner : HostClass}
    {v : Value} {t : HostType} {x : Except HostError Value}
    (hm : Universe.standard.member? owner.members constructorHook = none)
    (hf : (Universe.standard.constructor owner.hostType).inspectable = false)
    (hadapted : r.adapted [v] [t] = .ok [v])
    (hcall : (Universe.standard.constructor owner.hostType).call [v] h = (x, h)) :
    r.invokeConstructor owner ⟨[v], [t]⟩ h =
      (x.mapError fun e => .wrapping e (.target (label owner constructorName) e), h) := by
  rw [← hr.world] at hm hf hcall
  have hplan : r.planConstructor owner ⟨[v], [t]⟩ =
      .ok ⟨⟨r.world.constructor owner.hostType, []⟩, label owner constructorName, [v]⟩ := by
    simp only [planConstructor, hm, hadapted, ok_bind]
    exact plan_of_bound fun hi => absurd hi (by rw [hf]; exact Bool.false_ne_true)
  rw [invokeConstructor_apply, hplan]
  exact perform_eq hcall

/-- A variant for texts accepts a text at no cost. -/
theorem BindsLibrary.scored_text (hr : r.BindsLibrary) (f : Callable) :
    r.scored [.text] [⟨[textDescriptor], f⟩] = .ok [(0, ⟨[textDescriptor], f⟩)] := by
  simp only [scored, price, variantTypes_singleton, hr.typeOfDescriptor_text, Except.map, ok_bind]
  rfl

/-- A variant for integers does not accept a text. -/
theorem scored_integer_cons (f : Callable) (vs : List (Overload Callable)) :
    r.scored [.text] (⟨["I"], f⟩ :: vs) = r.scored [.text] vs := by
  have htype : r.typeOfDescriptor "I" = .ok (.scalar .int) := rfl
  simp only [scored, price, variantTypes_singleton, htype, Except.map, ok_bind]
  cases r.scored [.text] vs <;> rfl

/-- A call of the variant that alone accepts the type of its argument, on a value that passes as it
is. -/
theorem BindsLibrary.invokeStatic_selected (hr : r.BindsLibrary) {owner : HostClass} {name : Text}
    {set : OverloadSet Callable} {d : Text} {f : Callable} {v : Value} {t declared : HostType}
    {cost : Nat} {x : Except HostError Value} (haccess : Text.startsWith "_" name = false)
    (hm : Universe.standard.member? owner.members name = some (.overloads set))
    (hscored : r.scored [t] (set.candidates 1) = .ok [(cost, ⟨[d], f⟩)])
    (hd : r.typeOfDescriptor d = .ok declared) (hadapted : r.adapted [v] [declared] = .ok [v])
    (hcall : f.call [v] h = (x, h)) :
    r.invokeStatic owner name ⟨[v], [t]⟩ h =
      (x.mapError fun e => .wrapping e (.target (label owner name) e), h) := by
  rw [← hr.world] at hm
  have hselect : r.select set [t] owner.name = .ok ⟨[d], f⟩ := by
    rw [select, List.length_singleton, hscored]
    rfl
  have hplan : r.planStatic owner name ⟨[v], [t]⟩ = .ok ⟨⟨f, []⟩, label owner name, [v]⟩ := by
    simp only [planStatic, checkAccess, haccess, Bool.false_eq_true, if_false, hm, planOverload,
      hselect, ok_bind, variantTypes_singleton, hd, Except.map, hadapted]
    rfl
  rw [invokeStatic_apply, hplan]
  exact perform_eq hcall

/-- A variant for texts behind one for integers is selected. -/
theorem BindsLibrary.invokeStatic_second (hr : r.BindsLibrary) {owner : HostClass}
    {name shown : Text} {x : Except HostError Value} (haccess : Text.startsWith "_" name = false)
    (hm : ∃ f g, Universe.standard.member? owner.members name =
        some (.overloads ⟨shown, [⟨["I"], f⟩, ⟨[textDescriptor], g⟩]⟩) ∧
      g.call [.ofText? s] h = (x, h)) :
    r.invokeStatic owner name ⟨[.ofText? s], [.text]⟩ h =
      (x.mapError fun e => .wrapping e (.target (label owner name) e), h) := by
  obtain ⟨f, g, hm, hcall⟩ := hm
  have hscored := (scored_integer_cons f _).trans (hr.scored_text g)
  exact hr.invokeStatic_selected haccess hm hscored hr.typeOfDescriptor_text (adapted_text s) hcall

/-- A variant for texts before one with a radix is selected. -/
theorem BindsLibrary.invokeStatic_first (hr : r.BindsLibrary) {owner : HostClass}
    {name shown : Text} {x : Except HostError Value} (haccess : Text.startsWith "_" name = false)
    (hm : ∃ f g, Universe.standard.member? owner.members name =
        some (.overloads ⟨shown, [⟨[textDescriptor], f⟩, ⟨[textDescriptor, "I"], g⟩]⟩) ∧
      f.call [.ofText? s] h = (x, h)) :
    r.invokeStatic owner name ⟨[.ofText? s], [.text]⟩ h =
      (x.mapError fun e => .wrapping e (.target (label owner name) e), h) := by
  obtain ⟨f, g, hm, hcall⟩ := hm
  exact hr.invokeStatic_selected haccess hm (hr.scored_text f) hr.typeOfDescriptor_text
    (adapted_text s) hcall

end Resolver

/-! ## Results of members -/

theorem integer_apply (x : Except HostError Int) (h : Heap) :
    HostM.integer x h = (x.map .integer, h) := by
  cases x <;> rfl

theorem scalar_apply (x : Except HostError Int) (f : Int → Scalar) (h : Heap) :
    HostM.scalar (do return f (← x)) h = (x.map fun n => .scalar (f n), h) := by
  cases x <;> rfl

theorem map_read_apply {α : Type} (wrap : α → Value) (f : Heap → Except HostError α) (h : Heap) :
    (do return wrap (← HostM.read f) : HostM Value) h = ((f h).map wrap, h) := by
  let k : α → HostM Value := fun a => pure (wrap a)
  show ExceptT.bindCont k (f h) h = _
  cases f h <;> rfl

/-- What is made without a change of the heap. -/
theorem update_of_map {f : Heap → Except HostError (Value × Heap)} {x : Except HostError Value}
    {h : Heap} (hf : f h = x.map fun v => (v, h)) : HostM.update f h = (x, h) := by
  rw [HostM.update, hf]
  cases x <;> rfl

theorem parseIntegerValue_ofText? (s : Option Text) (low high : Int) :
    parseIntegerValue (.ofText? s) (.integer 10) low high = parseInteger s 10 low high := by
  cases s <;> rfl

/-! ## What each way reads -/

section

variable {r : Resolver} {s : Option Text} {h : Heap}

/-- What a call under a name gives when it reads so. -/
def Boxed.outcome (c : Boxed) (route : Route) (s : Option Text) : Except Failure Value :=
  (c.read route s).mapError fun e =>
    .wrapping e (.target (Resolver.label c.owner (c.memberName route)) e)

theorem invokeStatic_integer (hr : r.BindsLibrary) :
    r.invokeStatic Boxed.integer.owner "valueOf" ⟨[.ofText? s], [.text]⟩ h =
        (Boxed.integer.outcome .valueOf s, h) ∧
      r.invokeStatic Boxed.integer.owner "parseInt" ⟨[.ofText? s], [.text]⟩ h =
        (Boxed.integer.outcome .parse s, h) := by
  constructor
  · refine hr.invokeStatic_second rfl ⟨_, _, rfl, ?_⟩
    show HostM.integer (parseIntegerValue _ _ _ _) h = _
    rw [parseIntegerValue_ofText?, integer_apply]
    rfl
  · refine hr.invokeStatic_first rfl ⟨_, _, rfl, ?_⟩
    refine (scalar_apply _ (fun n => .int (Int32.ofInt n)) h).trans ?_
    rw [parseIntegerValue_ofText?]
    rfl

theorem invokeStatic_long (hr : r.BindsLibrary) :
    r.invokeStatic Boxed.long.owner "valueOf" ⟨[.ofText? s], [.text]⟩ h =
        (Boxed.long.outcome .valueOf s, h) ∧
      r.invokeStatic Boxed.long.owner "parseLong" ⟨[.ofText? s], [.text]⟩ h =
        (Boxed.long.outcome .parse s, h) := by
  constructor
  · exact hr.invokeStatic_plain rfl ⟨_, rfl, rfl, integer_apply (Value.ofText? s).toInteger h⟩
  · refine hr.invokeStatic_first rfl ⟨_, _, rfl, ?_⟩
    refine (scalar_apply _ (fun n => .long (Int64.ofInt n)) h).trans ?_
    rw [parseIntegerValue_ofText?]
    rfl

theorem truth_ofText? (s : Option Text) (h : Heap) :
    (Value.ofText? s).truth h = .ok (s.any (· != [])) := by
  cases s with
  | none => rfl
  | some t => cases t <;> rfl

theorem parseBoolean_ofText? (s : Option Text) (h : Heap) :
    parseBoolean h (.ofText? s) = .ok (s.map Text.lower == some (.ofString "true")) := by
  cases s with
  | none => rfl
  | some t =>
    refine congrArg Except.ok ?_
    rw [Bool.eq_iff_iff, beq_iff_eq, beq_iff_eq, Option.map_some, Option.some.injEq]

theorem invokeStatic_boolean (hr : r.BindsLibrary) :
    r.invokeStatic Boxed.boolean.owner "valueOf" ⟨[.ofText? s], [.text]⟩ h =
        (Boxed.boolean.outcome .valueOf s, h) ∧
      r.invokeStatic Boxed.boolean.owner "parseBoolean" ⟨[.ofText? s], [.text]⟩ h =
        (Boxed.boolean.outcome .parse s, h) := by
  constructor
  · refine hr.invokeStatic_plain rfl ⟨_, rfl, rfl, ?_⟩
    refine (map_read_apply Value.boolean (Value.ofText? s).truth h).trans ?_
    rw [truth_ofText?]
    rfl
  · refine hr.invokeStatic_plain rfl ⟨_, rfl, rfl, ?_⟩
    refine (map_read_apply Value.boolean (parseBoolean · (.ofText? s)) h).trans ?_
    rw [parseBoolean_ofText?]
    rfl

theorem invokeConstructor_boxed (hr : r.BindsLibrary) (c : Boxed) :
    r.invokeConstructor c.owner ⟨[.ofText? s], [.text]⟩ h = (c.outcome .construct s, h) := by
  have hinteger := integer_apply (Value.ofText? s).toInteger h
  cases c with
  | integer => exact hr.invokeConstructor_hostType rfl rfl (Resolver.adapted_text s) hinteger
  | long => exact hr.invokeConstructor_hostType rfl rfl (Resolver.adapted_text s) hinteger
  | boolean =>
    refine hr.invokeConstructor_hostType rfl rfl (Resolver.adapted_text s) ?_
    refine (map_read_apply Value.boolean (Value.ofText? s).truth h).trans ?_
    rw [truth_ofText?]
    rfl

/-- **What each way reads** is all that comes of it; the heap stays. -/
theorem box_eq (hr : r.BindsLibrary) (c : Boxed) (route : Route) (s : Option Text) (h : Heap) :
    r.box c route (.ofText? s) h = (c.outcome route s, h) := by
  rw [Resolver.box, hr.resolveClass_owner, hr.typeOfDescriptor_text]
  cases route with
  | construct => exact invokeConstructor_boxed hr c
  | valueOf =>
    cases c with
    | integer => exact (invokeStatic_integer hr).1
    | long => exact (invokeStatic_long hr).1
    | boolean => exact (invokeStatic_boolean hr).1
  | parse =>
    cases c with
    | integer => exact (invokeStatic_integer hr).2
    | long => exact (invokeStatic_long hr).2
    | boolean => exact (invokeStatic_boolean hr).2

/-! ## Agreement -/

/-- All calls give one value, compared as a number, or all fail. -/
def Agree {ε : Type} (outcomes : List (Except ε Value)) : Prop :=
  (∃ x, ∀ o ∈ outcomes, ∃ v, o = .ok v ∧ v.number? = some x) ∨ ∀ o ∈ outcomes, ∃ e, o = .error e

/-- Where the ways agree: on what the strict reader takes and on what nothing takes; and for
booleans on null, on the empty text, and on the word for true. -/
def Boxed.Uniform : Boxed → Option Text → Prop
  | .integer, s => (∃ n, parseInteger s 10 intMin intMax = .ok n) ∨
    ∃ e, (Value.ofText? s).toInteger = .error e
  | .long, s => (∃ n, parseInteger s 10 longMin longMax = .ok n) ∨
    ∃ e, (Value.ofText? s).toInteger = .error e
  | .boolean, s => s = none ∨ s = some [] ∨ s.map Text.lower = some (.ofString "true")

/-- What the strict reader takes, the conversion of the host takes as well, as the same number. -/
theorem toInteger_of_parseInteger {low high n : Int} (hn : parseInteger s 10 low high = .ok n) :
    (Value.ofText? s).toInteger = .ok n ∧ low ≤ n ∧ n ≤ high := by
  cases s with
  | none => cases hn
  | some t =>
    obtain ⟨-, hrange, -, hread⟩ := parseInteger_eq_ok_iff_read.1 hn
    exact ⟨hread, hrange⟩

/-- Two readers of numbers of which one takes less, and a third that is one of them: they agree on
what the strict one takes and on what the lax one refuses. -/
theorem agree_readers_iff {ε : Type} {strict lax third : Except ε Int} {g : Int → Value}
    (hthird : third = strict ∨ third = lax)
    (hstrict : ∀ n, strict = .ok n → lax = .ok n ∧ (g n).number? = some (.ofInt n)) :
    Agree [third.map .integer, lax.map .integer, strict.map g] ↔
      (∃ n, strict = .ok n) ∨ ∃ e, lax = .error e := by
  cases hs : strict with
  | ok n =>
    obtain ⟨hl, hn⟩ := hstrict n hs
    refine iff_of_true (.inl ⟨.ofInt n, ?_⟩) (.inl ⟨n, rfl⟩)
    rw [hs, hl, or_self] at hthird
    rw [hthird, hl]
    simp only [List.forall_mem_cons]
    exact ⟨⟨_, rfl, rfl⟩, ⟨_, rfl, rfl⟩, ⟨_, rfl, hn⟩, List.forall_mem_nil _⟩
  | error e =>
    cases hl : lax with
    | ok n => simp [Agree, Except.map]
    | error e' =>
      refine iff_of_true (.inr ?_) (.inr ⟨e', rfl⟩)
      obtain rfl | rfl := hthird
      · simp [hs, Except.map]
      · simp [hl, Except.map]

theorem agree_booleans_iff {ε : Type} {a b : Bool} :
    Agree [(.ok (.boolean a) : Except ε Value), .ok (.boolean a), .ok (.boolean b)] ↔ a = b := by
  cases a <;> cases b <;> simp [Agree, Value.number?, Extended.ofInt]

/-- The text that is not empty is true, and the one that spells so. -/
theorem truths_eq_iff :
    s.any (· != []) = (s.map Text.lower == some (.ofString "true")) ↔ Boxed.boolean.Uniform s := by
  match s with
  | none => simp [Boxed.Uniform]
  | some [] =>
    have hword : Text.lower [] ≠ .ofString "true" := by decide
    simp [Boxed.Uniform, hword]
  | some (c :: t) =>
    have hany : (some (c :: t)).any (· != []) = true := rfl
    rw [hany, eq_comm, beq_iff_eq]
    simp [Boxed.Uniform]

/-- All ways to a boxed value. -/
def Route.all : List Route := [.valueOf, .construct, .parse]

theorem agree_read_iff (c : Boxed) (s : Option Text) :
    Agree (Route.all.map fun route => c.read route s) ↔ c.Uniform s := by
  cases c with
  | integer =>
    refine agree_readers_iff (.inl rfl) fun n hn => ?_
    obtain ⟨hread, hlow, hhigh⟩ := toInteger_of_parseInteger hn
    have hval : (Int32.ofInt n).toInt = n := Int32.toInt_ofInt_of_le hlow (by grind [intMax])
    exact ⟨hread, congrArg (fun m => some (Extended.ofInt m)) hval⟩
  | long =>
    refine agree_readers_iff (.inr rfl) fun n hn => ?_
    obtain ⟨hread, hlow, hhigh⟩ := toInteger_of_parseInteger hn
    have hval : (Int64.ofInt n).toInt = n := Int64.toInt_ofInt_of_le hlow (by grind [longMax])
    exact ⟨hread, congrArg (fun m => some (Extended.ofInt m)) hval⟩
  | boolean => exact agree_booleans_iff.trans truths_eq_iff

/-- Whether the ways agree is seen from what each one reads. -/
theorem agree_box_iff_read (hr : r.BindsLibrary) (c : Boxed) (s : Option Text) (h : Heap) :
    Agree (Route.all.map fun route => (r.box c route (.ofText? s) h).1) ↔
      Agree (Route.all.map fun route => c.read route s) := by
  have houtcomes : (Route.all.map fun route => (r.box c route (.ofText? s) h).1) =
      Route.all.map fun route => c.outcome route s :=
    List.map_congr_left fun route _ => congrArg Prod.fst (box_eq hr c route s h)
  rw [houtcomes]
  simp [Agree, Route.all, Boxed.outcome]

/-- **Where the three ways agree.**  On a text or null `valueOf`, the making of an instance and the
parser give the same number, or all fail, exactly where the strict reader takes the text or nothing
does; booleans, where it makes no difference whether a text is not empty or spells the word for
true. -/
theorem box_agree_iff (hr : r.BindsLibrary) (c : Boxed) (s : Option Text) (h : Heap) :
    Agree (Route.all.map fun route => (r.box c route (.ofText? s) h).1) ↔ c.Uniform s :=
  (agree_box_iff_read hr c s h).trans (agree_read_iff c s)

end

theorem box_agree_numeral :
    let r : Resolver := ⟨Universe.standard, Registry.standard, {}⟩
    r.BindsLibrary ∧
      Agree (Route.all.map fun route => (r.box .integer route (.ofText? (some "-7")) {}).1) := by
  intro r
  have hr : r.BindsLibrary := Resolver.bindsLibrary_standard
  exact ⟨hr, (box_agree_iff hr .integer (some "-7") {}).2 (.inl ⟨-7, rfl⟩)⟩

/-- A blank makes a difference for integers, an underscore for longs, and for booleans any word but
the one for true. -/
theorem box_disagree :
    let r : Resolver := ⟨Universe.standard, Registry.standard, {}⟩
    ∀ cs ∈ [(Boxed.integer, " 7"), (.long, "1_0"), (.boolean, "false")],
      ¬ Agree (Route.all.map fun route => (r.box cs.1 route (.text cs.2) {}).1) := by
  intro r
  have hr : r.BindsLibrary := Resolver.bindsLibrary_standard
  have hiff := fun c t => (agree_box_iff_read hr c (some t) {}).trans (agree_read_iff c (some t))
  simp only [List.forall_mem_cons]
  refine ⟨mt (hiff _ _).1 ?_, mt (hiff _ _).1 ?_, mt (hiff _ _).1 ?_, List.forall_mem_nil _⟩
  · rintro (⟨n, h⟩ | ⟨e, h⟩) <;> cases h
  · rintro (⟨n, h⟩ | ⟨e, h⟩) <;> cases h
  · rintro (h | h | h) <;> cases h

end HostCall
