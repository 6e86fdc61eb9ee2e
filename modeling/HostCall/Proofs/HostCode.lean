import HostCall.Reflector
import HostCall.Proofs.Footprint
import HostCall.Proofs.PlannedCall
import HostCall.Proofs.Resolution

/-!
# What runs no host code

Classes hold the code of the host, in their members and in the making of their instances.  Two
universes are `Alike` when they differ in nothing but that code: they have the same modules, the
same bases, and the same kinds of things under the same names.  One becomes another by putting other
code in place of its own (`alike_withCode`), and what comes out the same whatever code is put there
has run none of it.

Resolution of classes and reading of arguments come out the same (`Alike.prepare`).  So does the
refusal of a private name (`planStatic_of_private`, `planVirtual_of_private`), which comes before
anything is looked up.
-/

namespace HostCall

open Result

/-! ## Other code in the same places -/

def OverloadSet.withCode (g : Callable → Callable) (s : OverloadSet Callable) :
    OverloadSet Callable :=
  ⟨s.name, s.variants.map fun v => ⟨v.descriptors, g v.function⟩⟩

def Member.withCode (g : Callable → Callable) : Member → Member
  | .method f => .method (g f)
  | .staticMethod f => .staticMethod (g f)
  | .classMethod f => .classMethod (g f)
  | .property f => .property (g f)
  | .overloads set => .overloads (set.withCode g)
  | .nested t => .nested t
  | .module => .module
  | .constant v => .constant v
  | .classOnly f => .classOnly (g f)

def ClassDecl.withCode (g : Callable → Callable) (d : ClassDecl) : ClassDecl :=
  ⟨d.bases, d.members.map fun (name, m) => (name, m.withCode g), g d.construct⟩

/-- The universe with other code in place of its own. -/
def Universe.withCode (g : Callable → Callable) (u : Universe) : Universe :=
  { u with classes := u.classes.map fun (t, d) => (t, d.withCode g) }

def Reflector.withCode (g : Callable → Callable) (r : Reflector) : Reflector :=
  ⟨r.signature, ⟨r.resolver.world.withCode g, r.resolver.registry, r.resolver.settings⟩,
    r.recorder⟩

/-- Universes that differ in their code alone. -/
structure Universe.Alike (u u' : Universe) : Prop where
  modules : u'.modules = u.modules
  lineage : ∀ t, u'.lineage t = u.lineage t
  shown : ∀ t name,
    (u'.binding? t name).map Member.attribute = (u.binding? t name).map Member.attribute
  shownByValues : ∀ t name,
    (u'.binding? t name).map Member.valueAttribute? = (u.binding? t name).map Member.valueAttribute?

/-- Resolvers of universes that differ in their code alone, under settings that differ in whether
traces are logged alone. -/
structure Resolver.Alike (r r' : Resolver) : Prop where
  world : r.world.Alike r'.world
  registry : r'.registry = r.registry
  settings : r'.settings = { r.settings with logTraces := r'.settings.logTraces }

theorem attribute_withCode (g : Callable → Callable) (m : Member) :
    (m.withCode g).attribute = m.attribute := by
  cases m <;> rfl

theorem valueAttribute?_withCode (g : Callable → Callable) (m : Member) :
    (m.withCode g).valueAttribute? = m.valueAttribute? := by
  cases m <;> rfl

theorem lookup_map_snd {κ ν ν' : Type} [BEq κ] (f : ν → ν') (key : κ) (l : List (κ × ν)) :
    (l.map fun (k, v) => (k, f v)).lookup key = (l.lookup key).map f := by
  induction l with
  | nil => rfl
  | cons e l ih =>
    obtain ⟨k, v⟩ := e
    rw [List.map_cons, List.lookup_cons, List.lookup_cons, ih]
    cases key == k <;> rfl

namespace Universe

theorem declOf?_withCode (g : Callable → Callable) (u : Universe) (t : HostType) :
    (u.withCode g).declOf? t = (u.declOf? t).map (ClassDecl.withCode g) :=
  lookup_map_snd _ t u.classes

theorem lineage_withCode (g : Callable → Callable) (u : Universe) (t : HostType) :
    (u.withCode g).lineage t = u.lineage t := by
  cases t with
  | declared c =>
    simp only [lineage, declOf?_withCode]
    cases u.declOf? (.declared c) <;> rfl
  | _ => rfl

theorem ownBinding?_withCode (g : Callable → Callable) (u : Universe) (t : HostType) (name : Text) :
    (u.withCode g).ownBinding? t name = (u.ownBinding? t name).map (Member.withCode g) := by
  rw [ownBinding?, ownBinding?, declOf?_withCode]
  cases u.declOf? t with
  | none => rfl
  | some d => exact lookup_map_snd _ name d.members

/-- What members show of themselves stays when other code is put in. -/
theorem map_binding?_withCode {α : Type} {view : Member → α} (g : Callable → Callable)
    (hcode : ∀ m : Member, view (m.withCode g) = view m)
    (hclass : ∀ f f', view (.classOnly f) = view (.classOnly f')) (u : Universe) (t : HostType)
    (name : Text) : ((u.withCode g).binding? t name).map view = (u.binding? t name).map view := by
  have hfind : ((u.withCode g).lineage t).findSome? (fun s => (u.withCode g).ownBinding? s name) =
      ((u.lineage t).findSome? fun s => u.ownBinding? s name).map (Member.withCode g) := by
    rw [lineage_withCode, List.map_findSome?]
    congr 1
    funext s
    exact ownBinding?_withCode g u s name
  rw [binding?, binding?, hfind]
  cases (u.lineage t).findSome? fun s => u.ownBinding? s name with
  | none =>
    by_cases hname : name = "mro"
    · simp only [hname, if_pos, Option.map_some, Option.map_none]
      exact congrArg some (hclass _ _)
    · simp only [hname, if_false, Option.map_none]
  | some m => exact congrArg some (hcode m)

/-- Whatever code is put in, the universe stays alike. -/
theorem alike_withCode (g : Callable → Callable) (u : Universe) : u.Alike (u.withCode g) where
  modules := rfl
  lineage := lineage_withCode g u
  shown := map_binding?_withCode g (attribute_withCode g) (fun _ _ => rfl) u
  shownByValues := map_binding?_withCode g (valueAttribute?_withCode g) (fun _ _ => rfl) u

/-- Importing one more module inside the one before. -/
theorem loadChain_cons (u : Universe) (parent : Option (Text × HostModule)) (name : Text)
    (rest : List Text) : u.loadChain parent (name :: rest) =
      match u.modules.lookup name with
      | some (.present m) => u.loadChain (some (name, m)) rest
      | some (.failing e) => .error e
      | none => .error (.noModule name (parent.bind fun (p, m) =>
        if m.isPackage then none else some p)) := by
  cases parent <;> rfl

namespace Alike

protected theorem refl (u : Universe) : u.Alike u :=
  ⟨rfl, fun _ => rfl, fun _ _ => rfl, fun _ _ => rfl⟩

variable {u u' : Universe} (hu : u.Alike u')

include hu

theorem loadChain (parent : Option (Text × HostModule)) (names : List Text) :
    u'.loadChain parent names = u.loadChain parent names := by
  induction names generalizing parent with
  | nil => cases parent <;> rfl
  | cons name rest ih =>
    rw [loadChain_cons, loadChain_cons, hu.modules]
    split
    · exact ih _
    · rfl
    · rfl

theorem load (name : Text) : u'.load name = u.load name := by
  rw [Universe.load, Universe.load, hu.loadChain]

theorem follow? (a : Attribute) (name : Text) : u'.follow? a name = u.follow? a name := by
  have hbuiltin (t : HostType) : u'.builtinAttribute? t name = u.builtinAttribute? t name := by
    rw [builtinAttribute?, builtinAttribute?, hu.lineage]
  cases a with
  | type t =>
    have hshown := hu.shown t name
    rw [Universe.follow?, Universe.follow?, hbuiltin]
    cases hm : u.binding? t name with
    | none =>
      rw [hm, Option.map_none, Option.map_eq_none_iff] at hshown
      rw [hshown]
    | some m =>
      rw [hm, Option.map_some, Option.map_eq_some_iff] at hshown
      obtain ⟨m', hm', heq⟩ := hshown
      rw [hm']
      exact congrArg some heq
  | value t =>
    have hshown := hu.shownByValues t name
    rw [Universe.follow?, Universe.follow?, hbuiltin]
    cases hm : u.binding? t name with
    | none =>
      rw [hm, Option.map_none, Option.map_eq_none_iff] at hshown
      rw [hshown]
    | some m =>
      rw [hm, Option.map_some, Option.map_eq_some_iff] at hshown
      obtain ⟨m', hm', heq⟩ := hshown
      rw [hm']
      exact heq
  | object k => rfl
  | module => rfl

theorem walk (a : Attribute) (names : List Text) : u'.walk a names = u.walk a names := by
  induction names generalizing a with
  | nil => rfl
  | cons name rest ih =>
    rw [Universe.walk, Universe.walk, hu.follow?]
    split
    · rfl
    · rfl
    · exact ih _

theorem reach (m : HostModule) (names : List Text) : u'.reach m names = u.reach m names := by
  cases names with
  | nil => rfl
  | cons name rest =>
    rw [Universe.reach, Universe.reach]
    split
    · rfl
    · rfl
    · exact hu.walk _ _

end Alike

end Universe

/-! ## Resolution and reading -/

/-- Of the settings, import reads the roots alone. -/
theorem Resolver.importType_congr {r r' : Resolver} (hworld : r.world.Alike r'.world)
    (hroots : r'.settings.importRoots = r.settings.importRoots) (path : Text) (gated : Bool) :
    r'.importType path gated = r.importType path gated := by
  have hcut (home : Text) (names : List Text) :
      r'.tryCut path gated home names = r.tryCut path gated home names := by
    simp only [tryCut, hworld.load, hworld.reach, isImportable, hroots]
    rfl
  rw [importType, importType]
  induction cuts path with
  | nil => rfl
  | cons cut rest ih => rw [tryCuts, tryCuts, hcut, ih]

namespace Resolver.Alike

variable {r r' : Resolver} (hr : r.Alike r')

include hr

theorem importRoots : r'.settings.importRoots = r.settings.importRoots := by
  rw [hr.settings]

theorem importType (path : Text) (gated : Bool) :
    r'.importType path gated = r.importType path gated :=
  importType_congr hr.world hr.importRoots path gated

theorem resolvePlain (name : Text) : r'.resolvePlain name = r.resolvePlain name := by
  have haliases : r'.settings.aliases = r.settings.aliases := by rw [hr.settings]
  simp only [Resolver.resolvePlain, Resolver.ofHostType, Resolver.isImportable, hr.importType,
    hr.registry, hr.importRoots, haliases]
  rfl

theorem resolveClass (name : Text) : r'.resolveClass name = r.resolveClass name := by
  have hdenied : ∀ name, r'.isDenied name = r.isDenied name := by
    intro name
    rw [isDenied, isDenied, hr.settings]
  induction name using Resolver.resolveClass.induct r with
  | case1 name hd => rw [resolveClass_eq r', resolveClass_eq r, hdenied, if_pos hd, if_pos hd]
  | case2 name hd hbracket component hkind =>
    rw [resolveClass_eq r', resolveClass_eq r, hdenied, if_neg hd, if_neg hd, if_pos hbracket,
      if_pos hbracket, if_pos hkind, if_pos hkind]
  | case3 name hd hbracket component hkind ih =>
    rw [resolveClass_eq r', resolveClass_eq r, hdenied, if_neg hd, if_neg hd, if_pos hbracket,
      if_pos hbracket, if_neg hkind, if_neg hkind, ih]
  | case4 name hd hbracket =>
    rw [resolveClass_eq r', resolveClass_eq r, hdenied, if_neg hd, if_neg hd, if_neg hbracket,
      if_neg hbracket, hr.resolvePlain]

theorem hostType (v : ValueType) : r'.hostType v = r.hostType v := by
  cases v with
  | primitive k => rfl
  | reference d => rw [Resolver.hostType, Resolver.hostType, hr.resolveClass]

theorem marshal {σ : Type} [RegisterFile σ] (h : Heap) (frame : σ) (s : Signature) :
    marshal r' h frame s = marshal r h frame s := by
  have hcoerced : ∀ p place c, r'.coerced h p place c = r.coerced h p place c := by
    intro p place c
    rw [coerced, coerced, hr.settings]
  have hread : ∀ (count : Nat) (ps : List ValueType) (place register : Nat),
      marshalFrom r' h frame count place register ps =
        marshalFrom r h frame count place register ps := by
    intro count ps
    induction ps with
    | nil => exact fun _ _ => rfl
    | cons p ps ih =>
      intro place register
      simp only [marshalFrom_cons, hcoerced, hr.hostType, ih]
  simp only [HostCall.marshal, hread]

end Resolver.Alike

/-- What is called and with which arguments does not depend on the code of the host. -/
theorem Resolver.Alike.prepare {r r' : Reflector} (hr : r.resolver.Alike r'.resolver)
    (hsignature : r'.signature = r.signature) {σ : Type} [RegisterFile σ] (h : Heap) (frame : σ) :
    r'.prepare h frame = r.prepare h frame := by
  rw [Reflector.prepare, Reflector.prepare, hsignature, hr.resolveClass]
  simp only [hr.marshal]

/-! ## Private names -/

namespace Resolver

theorem planStatic_of_private {name : Text} (hprivate : Text.startsWith "_" name = true)
    (r : Resolver) (owner : HostClass) (args : Arguments) :
    r.planStatic owner name args =
      .error (.bridge (.access (.privateMember (label owner name)))) := by
  rw [planStatic, checkAccess, if_pos hprivate]
  rfl

/-- How a call of a private name on a receiver is refused. -/
def refusal (owner : HostClass) (name : Text) : Value → BridgeError
  | .null => .nullReceiver (label owner name)
  | .unknown => .resolution (.unknownReceiver (label owner name))
  | _ => .access (.privateMember (label owner name))

theorem planVirtual_of_private {name : Text} (hprivate : Text.startsWith "_" name = true)
    (r : Resolver) (owner : HostClass) (receiver : Value) (args : Arguments) (h : Heap) :
    r.planVirtual owner name receiver args h =
      (.error (.bridge (refusal owner name receiver)), h) := by
  unfold planVirtual refusal
  rw [checkAccess, if_pos hprivate]
  cases receiver <;> rfl

theorem invokeStatic_of_private {name : Text} (hprivate : Text.startsWith "_" name = true)
    (r : Resolver) (owner : HostClass) (args : Arguments) (h : Heap) :
    r.invokeStatic owner name args h =
      (.error (.bridge (.access (.privateMember (label owner name)))), h) := by
  rw [invokeStatic_apply, planStatic_of_private hprivate]

theorem invokeVirtual_of_private {name : Text} (hprivate : Text.startsWith "_" name = true)
    (r : Resolver) (owner : HostClass) (receiver : Value) (args : Arguments) (h : Heap) :
    r.invokeVirtual owner name receiver args h =
      (.error (.bridge (refusal owner name receiver)), h) := by
  rw [invokeVirtual_apply, planVirtual_of_private hprivate]

end Resolver

end HostCall
