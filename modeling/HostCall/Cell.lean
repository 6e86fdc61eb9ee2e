import HostCall.Value.Convert

/-!
# Cells

A cell pairs a value with the descriptor it is tagged with.  The tag alone says whether a cell
holds a primitive or a boxed primitive.
-/

namespace HostCall

structure Cell where
  value : Value
  type : Text
  deriving DecidableEq

namespace Cell

/-- The descriptors of the classes that box a primitive kind. -/
def wrappers : List Text := ["Ljava/lang/Integer;", "Ljava/lang/Boolean;", "Ljava/lang/Long;",
  "Ljava/lang/Byte;", "Ljava/lang/Short;", "Ljava/lang/Character;", "Ljava/lang/Double;",
  "Ljava/lang/Float;"]

def isPrimitive (c : Cell) : Bool := (Kind.ofText? c.type).isSome

def isWrapper (c : Cell) : Bool := wrappers.elem c.type

def isPrimitiveOrWrapper (c : Cell) : Bool := c.isPrimitive || c.isWrapper

def isUnknown (c : Cell) : Bool := c.value == .unknown

/-- The integer in the cell: a whole number, or the code of a text of one character. -/
def integer? (c : Cell) : Option Int :=
  match c.value with
  | .text [p] => some p.val
  | v =>
    if v.isNumber then
      match v.number? with
      | some x => match x.truncate? with
        | some n => if x.eq (.ofInt n) then some n else none
        | none => none
      | none => none
    else none

def quoted (h : Heap) (c : Cell) : Except HostError Text := do
  return Text.concat ["type=", c.type, ", value=", ← c.value.quoted h]

end Cell

end HostCall
