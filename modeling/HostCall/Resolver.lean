import HostCall.Registry
import HostCall.Settings
import HostCall.Universe

/-!
# Resolution of class names

A class name is denied, an array, an alias, bound in the registry, or the path of a class that can
be imported from one of the roots, in this order.

`resolveClass` ends on every name, since the component of an array is shorter than the array.
-/

namespace HostCall

structure Resolver where
  world : Universe
  registry : Registry
  settings : Settings

namespace Resolver

/-- A name at or below a root. -/
def isUnder (roots : List Text) (name : Text) : Bool :=
  roots.any fun root => name == root || Text.startsWith (root ++ Text.ofString ".") name

def isImportable (r : Resolver) (name : Text) : Bool := isUnder r.settings.importRoots name

def isDenied (r : Resolver) (name : Text) : Bool := r.settings.deniedTypes.elem name

/-- The bound class of a host type; a type that is not bound holds its members itself. -/
def ofHostType (r : Resolver) (name : Text) (t : HostType) : HostClass :=
  match r.registry.forType t with
  | some e => ⟨name, t, e.members⟩
  | none => ⟨name, t, t⟩

/-! ## Imported classes -/

/-- The ways to cut a path into a module and names within it, the longest module first. -/
def cuts (path : Text) : List (Text × List Text) :=
  let segments := Text.splitOn '.' path
  ((List.range (segments.length - 1)).map (· + 1)).reverse.map fun n =>
    (Text.join "." (segments.take n), (segments.drop n).flatMap (Text.splitOn '$'))

/-- What one cut gives: a class, an error, or nothing, so that the next cut is tried. -/
def tryCut (r : Resolver) (path : Text) (gated : Bool) (home : Text) (names : List Text) :
    Except Failure (Option HostType) :=
  match r.world.load home with
  | .error (.noModule missing p) =>
    if Text.startsWith missing home then .ok none
    else .error (.bridge (.resolution (.cannotLoad path (.noModule missing p))))
  | .error e =>
    if e.kind = .moduleNotFound then .error (.wrapping e (.resolution (.cannotLoad path e)))
    else .error (.host e)
  | .ok m =>
    if names.any (Text.startsWith "_") then .error (.bridge (.access (.privatePath path)))
    else match r.world.reach m names with
      | none => .ok none
      | some (.type t) =>
        if gated && !r.isImportable t.home then
          .error (.bridge (.access (.outsideRoots path t.home)))
        else .ok (some t)
      | some _ => .error (.bridge (.resolution (.notAClass path)))

/-- The class of the first cut that settles the path. -/
def tryCuts (r : Resolver) (path : Text) (gated : Bool) :
    List (Text × List Text) → Except Failure HostType
  | [] => .error (.bridge (.resolution (.classNotFound path)))
  | (home, names) :: rest => do
    match ← r.tryCut path gated home names with
    | some t => return t
    | none => tryCuts r path gated rest

/-- The class at a dotted path; a gated one must be defined under a root. -/
def importType (r : Resolver) (path : Text) (gated : Bool) : Except Failure HostType :=
  r.tryCuts path gated (cuts path)

/-! ## Classes and types -/

/-- The class name in the component of an array. -/
def componentName (name : Text) : Text :=
  binaryName ((Descriptor.component name).replace '.' '/')

theorem length_componentName_le (name : Text) :
    (componentName name).length ≤ (Descriptor.component name).length := by
  unfold componentName binaryName
  split
  · simp [Text.replace]
  · split
    · simp [Text.replace]; omega
    · simp [Text.replace]

/-- The class of a name that is no array. -/
def resolvePlain (r : Resolver) (name : Text) : Except Failure HostClass :=
  match r.settings.aliases.lookup name with
  | some path => do return r.ofHostType name (← r.importType path false)
  | none => match r.registry.lookup name with
    | some e => .ok e
    | none =>
      if r.isImportable name then do return r.ofHostType name (← r.importType name true)
      else .error (.bridge (.resolution (.classNotFound name)))

/-- The class of a name.  One-dimensional arrays of a primitive kind are arrays of scalars; other
arrays are lists, and the class of their component must resolve. -/
def resolveClass (r : Resolver) (name : Text) : Except Failure HostClass :=
  if r.isDenied name then .error (.bridge (.access (.deniedType name)))
  else if _h : Text.startsWith "[" name then
    let component := Descriptor.component name
    if (Kind.ofText? component).isSome then
      let t : HostType := if Descriptor.dimensions name = 1 then .array else .list
      .ok ⟨name, t, t⟩
    else do
      let _ ← resolveClass r (componentName name)
      return ⟨name, .list, .list⟩
  else r.resolvePlain name
termination_by name.length
decreasing_by
  have h1 := length_componentName_le name
  have h2 := Descriptor.dimensions_add_component name
  have h3 : 0 < Descriptor.dimensions name := by
    cases name with
    | nil => simp [Text.startsWith, Text.ofString] at _h
    | cons c rest =>
      have : c = CodePoint.ofChar '[' := by
        have := List.isPrefixOf_iff_prefix.1 _h
        simp only [Text.ofString] at this
        exact ((List.cons_prefix_cons.1 this).1).symm
      simp [Descriptor.dimensions, Descriptor.isBracket, this]
  omega

/-- The host type of a value type. -/
def hostType (r : Resolver) : ValueType → Except Failure HostType
  | .primitive k => .ok k.hostType
  | .reference d => do return (← r.resolveClass (binaryName d)).hostType

/-- The host type that a descriptor names. -/
def typeOfDescriptor (r : Resolver) (d : Text) : Except Failure HostType :=
  match ValueType.parse d with
  | .error e => .error (.bridge (.signature e))
  | .ok v => r.hostType v

/-! ## Where members are looked for -/

/-- Keeps the first of equal namespaces. -/
def firsts (seen : List HostType) : List HostType → List HostType
  | [] => []
  | t :: rest => if t ∈ seen then firsts seen rest else t :: firsts (t :: seen) rest

/-- Where members of a type are: in the class bound to it, or in itself. -/
def namespaceOf (r : Resolver) (t : HostType) : HostType :=
  match r.registry.forType t with
  | some e => e.members
  | none => t

/-- The namespaces in which a member of an instance is looked for, most specific first. -/
def membersChain (r : Resolver) (t : HostType) : List HostType :=
  firsts [] ((r.world.lineage t).map r.namespaceOf)

end Resolver

end HostCall
