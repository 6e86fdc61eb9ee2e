import HostCall.Library.Boxed
import HostCall.Library.Builder
import HostCall.Library.Builtin
import HostCall.Library.Character
import HostCall.Library.Integer
import HostCall.Library.Math
import HostCall.Library.Protocol
import HostCall.Library.Samples
import HostCall.Registry
import HostCall.Settings

/-!
# The standard library of bound classes

The bindings of the `java.lang` classes, and the universe of modules in which they live.
-/

namespace HostCall

namespace Library

def langHome : Text := "reflector.host.lang"

def lang (path : Text) : HostType := .declared ⟨langHome, path⟩

def builderType : HostType := .declared HostType.builder

def langClasses : List (Text × List (Text × Member)) := [
  ("JavaObject", objectMembers), ("JavaString", textMembers), ("JavaInteger", integerMembers),
  ("JavaLong", longMembers), ("JavaBoolean", booleanMembers), ("JavaDouble", realMembers),
  ("JavaCharacter", characterMembers), ("JavaMath", mathMembers)]

def classes : List (HostType × ClassDecl) :=
  langClasses.map (fun (path, members) =>
    (lang path, { members, construct := Samples.plain ⟨langHome, path⟩ })) ++
  [(builderType, {
    members := builderMembers
    construct :=
      { name := "StringBuilder", parameters := [⟨"initial", some (.text [])⟩]
        body := fun
          | [.text t] => newBuffer t
          | _ => newBuffer [] } })]

/-- The bindings of the library, in the order in which they are made. -/
def bindings : List Binding := [
  ⟨"java.lang.Object", .object, lang "JavaObject"⟩,
  ⟨"java.lang.String", .text, lang "JavaString"⟩,
  ⟨"java.lang.CharSequence", .text, lang "JavaString"⟩,
  ⟨"java.lang.Integer", .integer, lang "JavaInteger"⟩,
  ⟨"java.lang.Long", .integer, lang "JavaLong"⟩,
  ⟨"java.lang.Boolean", .boolean, lang "JavaBoolean"⟩,
  ⟨"java.lang.Double", .real, lang "JavaDouble"⟩,
  ⟨"java.lang.Float", .real, lang "JavaDouble"⟩,
  ⟨"java.lang.Short", .integer, lang "JavaObject"⟩,
  ⟨"java.lang.Byte", .integer, lang "JavaObject"⟩,
  ⟨"java.lang.Number", .number, lang "JavaObject"⟩,
  ⟨"java.lang.Character", .text, lang "JavaCharacter"⟩,
  ⟨"java.lang.Math", lang "JavaMath", lang "JavaMath"⟩,
  ⟨"java.lang.StringBuilder", builderType, builderType⟩]

/-- Classes of the library of host types, by the names under which a module holds them. -/
def typesWhere (test : HostType → Bool) : List (Text × Attribute) :=
  (HostType.builtin.filter test).map fun t => (t.path, .type t)

/-- Names that hold functions. -/
def functionNames (names : List Text) : List (Text × Attribute) :=
  names.map fun n => (n, .object .plain)

/-- Names that hold integers. -/
def integerNames (names : List Text) : List (Text × Attribute) :=
  names.map fun n => (n, .object .integer)

/-- The registry that holds the bindings of the library. -/
def sharedRegistry : Text × Attribute := ("DEFAULT_REGISTRY", .object .registry)

/-- The mark that types in a module are read late. -/
def lateTypes : Text × Attribute := ("annotations", .object .feature)

/-- Names that hold a module. -/
def moduleNames (names : List Text) : List (Text × Attribute) :=
  names.map fun n => (n, .module)

/-- The class of values of any type, which is imported where types are written. -/
def anyClass : List (Text × Attribute) := Protocol.attributes [Protocol.anything]

def langAttributes : List (Text × Attribute) :=
  moduleNames ["np", "math", "re", "numbers"] ++
  functionNames ["overloaded", "host_class", "cast_to_primitive", "java_string"] ++
  integerNames ["INT_MIN", "INT_MAX", "LONG_MIN", "LONG_MAX"] ++ anyClass ++
  sharedRegistry :: lateTypes :: langClasses.map fun (path, _) => (path, .type (lang path))

def builderAttributes : List (Text × Attribute) :=
  moduleNames ["np"] ++ functionNames ["overloaded", "host_class", "java_string"] ++
  anyClass ++ [lateTypes, ("StringBuilder", .type builderType)]

def stateAttributes : List (Text × Attribute) :=
  moduleNames ["numbers"] ++ functionNames ["runtime_checkable"] ++ anyClass ++
  lateTypes :: Protocol.attributes [Protocol.base, Protocol.registerFile, Protocol.valueCell]

def isCore (t : HostType) : Bool := t.home == "builtins" && t != .null

def modules : List (Text × ModuleState) := [
  ("builtins", .present ⟨false, typesWhere isCore, []⟩),
  ("numbers", .present ⟨false, [("Number", .type .number)], []⟩),
  ("numpy", .present ⟨true, typesWhere HostType.isArrayLibrary, []⟩),
  ("typing", .present ⟨false, Protocol.attributes [Protocol.base, Protocol.anything], []⟩),
  ("reflector", .present ⟨true, moduleNames ["host", "core"], []⟩),
  ("reflector.core", .present ⟨true, moduleNames ["state"] ++
    Protocol.attributes [Protocol.registerFile, Protocol.valueCell], []⟩),
  (Protocol.stateHome, .present ⟨false, stateAttributes, []⟩),
  ("reflector.host", .present ⟨true, moduleNames ["lang", "text"], []⟩),
  (langHome, .present ⟨false, langAttributes, []⟩),
  ("reflector.host.text", .present ⟨false, builderAttributes, []⟩)]

end Library

namespace Universe

/-- The universe of the library and the sample modules. -/
def standard : Universe where
  modules := Library.modules ++ Samples.modules
  classes := Library.builtinClasses ++ Library.classes ++ Library.Protocol.classes ++
    Samples.classes
  subclassCheck := Library.Protocol.subclassCheck
  instanceCheck := Library.Protocol.instanceCheck

end Universe

namespace Registry

/-- The registry with the bindings of a module. -/
def bindAll (r : Registry) (bs : List Binding) : Registry :=
  bs.foldl (fun r b => r.add ⟨b.name, b.hostType, b.members⟩) r

theorem lookup_bindAll_of_notMem {bs : List Binding} {name : Text}
    (h : name ∉ bs.map Binding.name) (r : Registry) :
    (r.bindAll bs).lookup name = r.lookup name := by
  induction bs generalizing r with
  | nil => rfl
  | cons b bs ih =>
    obtain ⟨hb, hbs⟩ := not_or.1 (mt List.mem_cons.2 h)
    exact (ih hbs _).trans (by rw [lookup_add, if_neg (by simpa using hb)])

/-- Each of distinct names is bound to its own class. -/
theorem lookup_bindAll_of_mem {bs : List Binding} (hdistinct : (bs.map Binding.name).Nodup)
    {b : Binding} (hb : b ∈ bs) (r : Registry) :
    (r.bindAll bs).lookup b.name = some ⟨b.name, b.hostType, b.members⟩ := by
  induction bs generalizing r with
  | nil => cases hb
  | cons b' bs ih =>
    obtain ⟨hnot, hdistinct⟩ := List.nodup_cons.1 hdistinct
    cases hb with
    | head => exact (lookup_bindAll_of_notMem hnot _).trans (by rw [lookup_add]; simp)
    | tail _ hb => exact ih hdistinct hb _

/-- The registry of the library. -/
def standard : Registry := bindAll {} Library.bindings

theorem nodup_names : (Library.bindings.map Binding.name).Nodup := by decide +kernel

theorem lookup_standard {b : Binding} (hb : b ∈ Library.bindings) :
    standard.lookup b.name = some ⟨b.name, b.hostType, b.members⟩ := by
  rw [standard]
  exact lookup_bindAll_of_mem nodup_names hb {}

/-- Imports the host modules in turn; each makes its bindings. -/
def loadModules (u : Universe) (r : Registry) : List Text → Except HostError Registry
  | [] => .ok r
  | name :: rest => do
    let m ← u.load name
    loadModules u (r.bindAll m.bindings) rest

end Registry

end HostCall
