import HostCall.Kind
import HostCall.Descriptor

/-!
# Host types

The types of host values: built-in ones, the scalar type of each primitive kind with the abstract
classes above it, and declared classes, which are known by module and path.
-/

namespace HostCall

/-- A declared class: the module that defines it, and its path of nested names within it. -/
structure ClassName where
  home : Text
  path : Text
  deriving DecidableEq

/-- The last segment of a dotted path. -/
def lastSegment (path : Text) : Text :=
  (Text.splitOn '.' path).getLastD []

inductive HostType where
  | object | null | unknown | type
  | boolean | integer | real | text | bytes | byteArray | list | tuple | mapping
  | number
  | generic | numeric | integral | signed | unsigned | inexact | floating
  | scalar (kind : Kind)
  | array
  | declared (name : ClassName)
  deriving DecidableEq

namespace HostType

/-- The class of mutable text buffers. -/
def builder : ClassName := ⟨"reflector.host.text", "StringBuilder"⟩

/-- The class of cells, which are values too where they are logged. -/
def cell : ClassName := ⟨"reflector.core.state", "HeapItem"⟩

/-- The abstract class of sequences. -/
def sequence : ClassName := ⟨"collections.abc", "Sequence"⟩

/-- The class of mappings that keep the order of their keys. -/
def orderedMapping : ClassName := ⟨"collections", "OrderedDict"⟩

def scalarPath : Kind → Text
  | .int => "int32" | .boolean => "bool" | .long => "int64" | .byte => "int8"
  | .short => "int16" | .char => "uint16" | .double => "float64" | .float => "float32"

/-- The built-in types, without the scalar ones. -/
def plain : List HostType := [.object, .null, .unknown, .type, .boolean, .integer, .real, .text,
  .bytes, .byteArray, .list, .tuple, .mapping, .number, .generic, .numeric, .integral, .signed,
  .unsigned, .inexact, .floating, .array]

def builtin : List HostType := plain ++ Kind.all.map .scalar

/-- Whether the type belongs to the library of arrays and scalars. -/
def isArrayLibrary : HostType → Bool
  | .generic | .numeric | .integral | .signed | .unsigned | .inexact | .floating | .scalar _
  | .array => true
  | _ => false

/-- The module that defines the type. -/
def home : HostType → Text
  | .declared c => c.home
  | .unknown => "reflector.core.models"
  | .number => "numbers"
  | t => if t.isArrayLibrary then "numpy" else "builtins"

/-- The path of names within the module. -/
def path : HostType → Text
  | .object => "object" | .null => "NoneType" | .unknown => "UnknownValue" | .type => "type"
  | .boolean => "bool" | .integer => "int" | .real => "float" | .text => "str"
  | .bytes => "bytes" | .byteArray => "bytearray" | .list => "list" | .tuple => "tuple"
  | .mapping => "dict" | .number => "Number" | .generic => "generic" | .numeric => "number"
  | .integral => "integer" | .signed => "signedinteger" | .unsigned => "unsignedinteger"
  | .inexact => "inexact" | .floating => "floating"
  | .scalar k => scalarPath k
  | .array => "ndarray"
  | .declared c => c.path

def name (t : HostType) : Text := lastSegment t.path

/-- The name with its module, without one for the built-in types. -/
def qualifiedName (t : HostType) : Text :=
  if t.home = "builtins" then t.path else Text.concat [t.home, ".", t.path]

/-- The name that host errors give the type. -/
def errorName (t : HostType) : Text :=
  if t.isArrayLibrary || t = .declared orderedMapping then t.qualifiedName else t.name

/-- The abstract classes above the scalars of a kind, nearest first. -/
def scalarAncestors : Kind → List HostType
  | .boolean => [.generic]
  | .char => [.unsigned, .integral, .numeric, .generic]
  | .float => [.floating, .inexact, .numeric, .generic]
  | .double => [.floating, .inexact, .numeric, .generic, .real]
  | _ => [.signed, .integral, .numeric, .generic]

/-- A built-in type and its bases in the order of their resolution; a declared class alone. -/
def lineage : HostType → List HostType
  | .object => [.object]
  | .boolean => [.boolean, .integer, .object]
  | .scalar k => .scalar k :: scalarAncestors k ++ [.object]
  | .numeric => [.numeric, .generic, .object]
  | .integral => [.integral, .numeric, .generic, .object]
  | .signed => [.signed, .integral, .numeric, .generic, .object]
  | .unsigned => [.unsigned, .integral, .numeric, .generic, .object]
  | .inexact => [.inexact, .numeric, .generic, .object]
  | .floating => [.floating, .inexact, .numeric, .generic, .object]
  | .declared c => [.declared c]
  | t => [t, .object]

/-- Types that count as numbers without deriving from the class of numbers. -/
def isNumeric (lineage : List HostType) : Bool :=
  lineage.any fun t => t = .integer ∨ t = .real ∨ t = .numeric

/-- Types that count as sequences without deriving from the class of sequences. -/
def isSequence (lineage : List HostType) : Bool :=
  lineage.any fun t =>
    t = .list ∨ t = .tuple ∨ t = .text ∨ t = .bytes ∨ t = .byteArray

/-- The scalar types and the abstract classes above them. -/
def isPrimitive (lineage : List HostType) : Bool := lineage.elem .generic

/-- Whether classes may say themselves that the first is below the second: declared classes about
any other, the abstract classes about declared ones. -/
def mayDecide (t s : HostType) : Bool :=
  match t, s with
  | .declared _, _ => true
  | _, .declared c => c ≠ sequence
  | _, _ => false

theorem head?_lineage (t : HostType) : t.lineage.head? = some t := by
  cases t <;> rfl

end HostType

/-- The host type of the values of a primitive kind. -/
def Kind.hostType (k : Kind) : HostType := .scalar k

end HostCall
