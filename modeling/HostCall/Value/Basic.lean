import HostCall.Error
import HostCall.HostType
import HostCall.Number.Binary

/-!
# Values

Host values.  Scalars of a primitive kind are apart from the unbounded integers, the reals and
the booleans of the host.  Containers, text buffers and instances live on a heap, so that two
references may mean one object.  Arrays never change; a label tells two of them apart.

What an instance of a class that is not modelled answers is open: a heap knows the `Answers` of such
instances, and no theorem depends on what they are.

`Heap.get?_alloc` and `Heap.get?_set` say what is read after a change of the heap.
-/

namespace HostCall

/-- A value of a primitive kind. -/
inductive Scalar where
  | int (v : Int32)
  | boolean (v : Bool)
  | long (v : Int64)
  | byte (v : Int8)
  | short (v : Int16)
  | char (v : UInt16)
  | double (v : Double)
  | float (v : Single)
  deriving DecidableEq

namespace Scalar

def kind : Scalar → Kind
  | .int _ => .int | .boolean _ => .boolean | .long _ => .long | .byte _ => .byte
  | .short _ => .short | .char _ => .char | .double _ => .double | .float _ => .float

/-- The integer that a scalar denotes, if it is no floating point number. -/
def toInt? : Scalar → Option Int
  | .int v => some v.toInt
  | .boolean v => some v.toInt
  | .long v => some v.toInt
  | .byte v => some v.toInt
  | .short v => some v.toInt
  | .char v => some v.toNat
  | .double _ | .float _ => none

/-- The number that a scalar denotes. -/
def value : Scalar → Extended
  | .double v => v.value
  | .float v => v.value
  | s => .ofInt (s.toInt?.getD 0)

end Scalar

/-- A place on the heap. -/
abbrev Address := Nat

inductive Value where
  | null
  | unknown
  | boolean (v : Bool)
  | integer (v : Int)
  | real (v : Double)
  | text (v : Text)
  | scalar (v : Scalar)
  | bytes (v : List UInt8)
  | byteArray (v : List UInt8)
  /-- An array; two arrays with one label other than zero are one object. -/
  | array (kind : Kind) (items : List Scalar) (label : Nat)
  | list (place : Address)
  | tuple (place : Address)
  | mapping (place : Address)
  | builder (place : Address)
  | object (t : HostType) (place : Address)
  | type (t : HostType)
  deriving DecidableEq

namespace Value

def typeOf : Value → HostType
  | .null => .null
  | .unknown => .unknown
  | .boolean _ => .boolean
  | .integer _ => .integer
  | .real _ => .real
  | .text _ => .text
  | .scalar s => .scalar s.kind
  | .bytes _ => .bytes
  | .byteArray _ => .byteArray
  | .array .. => .array
  | .list _ => .list
  | .tuple _ => .tuple
  | .mapping _ => .mapping
  | .builder _ => .declared HostType.builder
  | .object t _ => t
  | .type _ => .type

def int32 (n : Int) : Value := .scalar (.int (Int32.ofInt n))

def int64 (n : Int) : Value := .scalar (.long (Int64.ofInt n))

/-- The number that a value denotes; booleans are zero and one. -/
def number? : Value → Option Extended
  | .boolean b => some (.ofInt b.toInt)
  | .integer n => some (.ofInt n)
  | .real x => some x.value
  | .scalar s => some s.value
  | _ => none

/-- An instance of the class of numbers; the boolean scalar is none. -/
def isNumber : Value → Bool
  | .boolean _ | .integer _ | .real _ => true
  | .scalar (.boolean _) => false
  | .scalar _ => true
  | _ => false

/-- A boolean of the host or a boolean scalar. -/
def isBoolean : Value → Bool
  | .boolean _ | .scalar (.boolean _) => true
  | _ => false

/-- A number that is no boolean. -/
def isNumeric (v : Value) : Bool := v.isNumber && !v.isBoolean

def errorName (v : Value) : Text := v.typeOf.errorName

end Value

/-! ## The heap -/

/-- What stands at a place: the items of a list or tuple, the entries of a mapping with names for
keys or the fields of an instance, the entries of an ordered mapping, or the chunks of a text
buffer. -/
inductive Content where
  | items (vs : List Value)
  | entries (kvs : List (Text × Value))
  | pairs (kvs : List (Value × Value))
  | chunks (ts : List Text)
  deriving DecidableEq

/-- The content, with the chunks of a buffer put together. -/
def Content.joined : Content → Content
  | .chunks ts => .chunks [ts.flatten]
  | c => c

/-- What an operation on an instance makes: a value, and what is put on the heap for it. -/
abbrev Made := Except HostError (Value × List Content)

/-- What an instance answers where host code asks more of it than its class and its fields; `none`
where its class has no answer. -/
structure Answers where
  /-- How it is quoted. -/
  quoted : Option (Except HostError Text) := none
  /-- What it prints as. -/
  display : Option (Except HostError Text) := none
  length : Option (Except HostError Nat) := none
  /-- The item at a place within its length. -/
  item : Option (Nat → Except HostError Value) := none
  /-- The part between two places. -/
  slice : Option (Nat → Nat → Made) := none
  /-- Whether a value stands in it. -/
  contains : Option (Value → Except HostError Bool) := none
  /-- The sum with a value. -/
  add : Option (Value → Made) := none
  /-- The sum of a value with it, where that one makes none. -/
  addedTo : Option (Value → Made) := none
  /-- Its methods, by name. -/
  methods : Text → Option (List Value → Made) := fun _ => none

/-- The heap: what stands at its places, and the answers of instances and classes to what host code
asks of them.  They see a buffer as the text in it. -/
structure Heap where
  contents : List Content := []
  answers : Value → List Content → Answers := fun _ _ => {}

namespace Heap

def get? (h : Heap) (a : Address) : Option Content := h.contents[a]?

/-- A new place with the content given. -/
def alloc (h : Heap) (c : Content) : Address × Heap :=
  (h.contents.length, { h with contents := h.contents ++ [c] })

def set (h : Heap) (a : Address) (c : Content) : Heap :=
  { h with contents := h.contents.set a c }

/-- What an instance or a class answers; other values have no answers but those of their types. -/
def answersOf (h : Heap) : Value → Answers
  | .object t a => h.answers (.object t a) (h.contents.map Content.joined)
  | .type t => h.answers (.type t) (h.contents.map Content.joined)
  | _ => {}

/-- What an operation makes, on the heap. -/
def take (h : Heap) (made : Made) : Except HostError (Value × Heap) :=
  made.map fun (v, cs) => (v, { h with contents := h.contents ++ cs })

theorem get?_alloc (h : Heap) (c : Content) : (h.alloc c).2.get? (h.alloc c).1 = some c := by
  simp [alloc, get?]

theorem get?_alloc_of_lt {h : Heap} {c : Content} {a : Address} (ha : a < h.contents.length) :
    (h.alloc c).2.get? a = h.get? a := by
  simp [alloc, get?, List.getElem?_append_left ha]

theorem get?_set {h : Heap} {a b : Address} {c : Content} (ha : a < h.contents.length) :
    (h.set a c).get? b = if b = a then some c else h.get? b := by
  simp only [set, get?, List.getElem?_set]
  grind

def items (h : Heap) (a : Address) : List Value :=
  match h.get? a with
  | some (.items vs) => vs
  | _ => []

def entries (h : Heap) (a : Address) : List (Text × Value) :=
  match h.get? a with
  | some (.entries kvs) => kvs
  | _ => []

/-- The entries of an ordered mapping. -/
def pairs? (h : Heap) (a : Address) : Option (List (Value × Value)) :=
  match h.get? a with
  | some (.pairs kvs) => some kvs
  | _ => none

/-- The chunks of a text buffer. -/
def chunks (h : Heap) (a : Address) : List Text :=
  match h.get? a with
  | some (.chunks ts) => ts
  | _ => []

/-- The content of a text buffer, however it is cut into chunks. -/
def content (h : Heap) (a : Address) : Text := (h.chunks a).flatten

/-- The value as an object of its own: an array or `nan` without a label gets one that no other
value of this heap has. -/
def identify (h : Heap) (v : Value) : Value × Heap :=
  let (a, h') := h.alloc (.items [])
  match v with
  | .array k items 0 => (.array k items (a + 1), h')
  | .real x => if x = Binary.nan then (.real (Binary.labelledNan (a + 1)), h') else (v, h)
  | .scalar (.double x) =>
    if x = Binary.nan then (.scalar (.double (Binary.labelledNan (a + 1))), h') else (v, h)
  | .scalar (.float x) =>
    if x = Binary.nan then (.scalar (.float (Binary.labelledNan (a + 1))), h') else (v, h)
  | v => (v, h)

end Heap

/-- Whether a value is an ordered mapping. -/
def Value.isOrdered (h : Heap) : Value → Bool
  | .object _ a => (h.pairs? a).isSome
  | _ => false

/-- The entries of a value that is a mapping of any kind. -/
def Value.entries? (h : Heap) : Value → Option (List (Value × Value))
  | .mapping a => some ((h.entries a).map fun (k, v) => (.text k, v))
  | .object _ a => h.pairs? a
  | _ => none

/-- The entries of a mapping whose keys are texts. -/
def Value.named (entries : List (Value × Value)) : List (Text × Value) :=
  entries.filterMap fun
    | (.text k, v) => some (k, v)
    | _ => none

/-- Whether two values are one object, where it matters: where a value may differ from itself. -/
def Value.isSame : Value → Value → Bool
  | .list a, .list b | .tuple a, .tuple b | .mapping a, .mapping b | .builder a, .builder b
  | .object _ a, .object _ b => a == b
  | .array _ _ a, .array _ _ b => a == b && a != 0
  | .real x, .real y => x == y && x != Binary.nan
  | .scalar (.double x), .scalar (.double y) => x == y && x != Binary.nan
  | .scalar (.float x), .scalar (.float y) => x == y && x != Binary.nan
  | .null, .null => true
  | _, _ => false

end HostCall
