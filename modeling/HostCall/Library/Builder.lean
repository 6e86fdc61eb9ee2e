import HostCall.Library.Basic
import HostCall.Library.Text

/-!
# Text buffers

A buffer holds chunks of text, which are appended to and reversed in place.  Only the text that
they make together can be observed; `content_append` says how an append changes it.
-/

namespace HostCall

namespace Heap

/-- A new buffer; an empty text makes no chunk. -/
def allocBuffer (h : Heap) (t : Text) : Address × Heap :=
  h.alloc (.chunks (if t = [] then [] else [t]))

/-- The heap with one more chunk in a buffer. -/
def append (h : Heap) (a : Address) (t : Text) : Heap := h.set a (.chunks (h.chunks a ++ [t]))

/-- The heap with the text of a buffer reversed. -/
def reverse (h : Heap) (a : Address) : Heap := h.set a (.chunks [(h.content a).reverse])

theorem content_append {h : Heap} {a : Address} {t : Text} (ha : a < h.contents.length) :
    (h.append a t).content a = h.content a ++ t := by
  simp only [content]
  conv => lhs; simp [append, chunks, get?_set ha]
  simp [chunks]

end Heap

namespace Library

/-- The place of a buffer; other values have no chunks. -/
def bufferPlace (self : Value) : Except HostError Address :=
  match self with
  | .builder a => .ok a
  | v => .error (.noAttribute v.errorName "_chunks")

/-- A new buffer with a text. -/
def newBuffer (t : Text) : HostM Value := fun h =>
  let (a, h') := h.allocBuffer t
  (.ok (.builder a), h')

/-- Appends a text to the buffer, which is also the result. -/
def appendText (self : Value) (t : Text) : HostM Value := do
  let a ← HostM.ofExcept (bufferPlace self)
  fun h => (.ok self, h.append a t)

/-- Appends what a function makes of the value; the buffer is looked at first. -/
def appendVariant (name : Text) (f : Heap → Value → Except HostError Text) : Callable :=
  .binary name "self" "value" fun self v => do
    let _ ← HostM.ofExcept (bufferPlace self)
    appendText self (← HostM.read fun h => f h v)

/-- Appends the scalar of a kind that the value makes. -/
def appendScalar (name : Text) (k : Kind) : Callable :=
  appendVariant name fun h v => do (Value.scalar (← v.toScalar h k)).rendered h

/-- What the value itself answers to `toString`. -/
def bufferText (h : Heap) (self : Value) : Except HostError Text :=
  match self with
  | .builder a => .ok (h.content a)
  | v => .error (.noAttribute v.errorName "toString")

def checkCapacity (v : Value) : Except HostError Unit := do
  let n ← v.toInteger
  if n < 0 then throw (.citing [n] (.negativeCapacity n))

/-- The variants that append one value. -/
def appendVariants : List (List Text × Callable) := [
  (["Ljava/lang/String;"], appendVariant "StringBuilder.append" Value.rendered),
  (["Ljava/lang/Object;"], appendVariant "StringBuilder._append_object" Value.rendered),
  (["C"], appendVariant "StringBuilder._append_char" fun _ v => do
    Value.character (← v.toInteger)),
  (["I"], appendScalar "StringBuilder._append_int" .int),
  (["J"], appendScalar "StringBuilder._append_long" .long),
  (["Z"], appendVariant "StringBuilder._append_boolean" fun h v => do
    (Value.boolean (← v.truth h)).rendered h),
  (["F"], appendScalar "StringBuilder._append_float" .float),
  (["D"], appendScalar "StringBuilder._append_double" .double)]

def builderMembers : List (Text × Member) := [
  ("new_instance", .variants "new_instance" [
    ([], .nullary "StringBuilder.new_instance" (newBuffer [])),
    (["Ljava/lang/String;"], .unary "StringBuilder._from_string" "value" fun v => match v with
      | .null => throw (.nullArgument "StringBuilder")
      | .text t => newBuffer t
      | _ => newBuffer []),
    (["I"], .unary "StringBuilder._with_capacity" "capacity" fun v => do
      HostM.ofExcept (checkCapacity v)
      newBuffer [])]),
  ("append", .variants "append" appendVariants),
  ("length", .method (.unary "StringBuilder.length" "self" fun self => do
    return .scalar (← HostM.read fun h => do
      Value.integerToScalar .int (← bufferText h self).length))),
  ("charAt", .method (.binary "StringBuilder.charAt" "self" "index" fun self i => do
    let t ← HostM.read fun h => bufferText h self
    return .scalar (← HostM.read fun h => codeAt h (.text t) i))),
  ("reverse", .method (.unary "StringBuilder.reverse" "self" fun self => do
    let _ ← HostM.read fun h => bufferText h self
    let a ← HostM.ofExcept (bufferPlace self)
    fun h => (.ok self, h.reverse a))),
  ("toString", .method (.unary "StringBuilder.toString" "self" fun self => do
    return .text (← HostM.read fun h => do
      let a ← bufferPlace self
      return h.content a)))]

end Library

end HostCall
