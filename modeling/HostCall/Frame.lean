import HostCall.Cell
import HostCall.Signature

/-!
# Frames

A callee frame is a row of registers and a return slot.  `Frame.forCall` lays a receiver and
arguments out for a signature: the receiver comes first, and an argument of two slots stands in two
registers that share one cell.

`RegisterFile` is what the bridge asks of a frame, so that frames of other makes can be used.
`length_layout` says that a layout has exactly as many registers as the call uses.
-/

namespace HostCall

/-- What the bridge asks of a frame; each access, and the quoted form, may fail with an error of the
frame's own. -/
class RegisterFile (σ : Type) where
  count : σ → Except HostError Nat
  peek : σ → Nat → Except HostError Cell
  assign : σ → Nat → Cell → Except HostError σ
  assignReturn : σ → Cell → Except HostError σ
  describe : Heap → σ → Except HostError Text

/-- A register; registers of one mark share one cell. -/
structure Register where
  cell : Cell
  mark : Nat
  deriving DecidableEq

structure Frame where
  registers : List Register := []
  returned : Option Cell := none
  /-- A mark that no register has. -/
  fresh : Nat := 0
  deriving DecidableEq

/-- An argument is a cell, or a value that is yet to be tagged. -/
inductive Argument where
  | cell (c : Cell)
  | value (v : Value)
  deriving DecidableEq

namespace Argument

/-- The cell of an argument; a bare value is tagged. -/
def toCell (type : Text) : Argument → Cell
  | .cell c => c
  | .value v => ⟨v, type⟩

end Argument

namespace Frame

/-- Registers that hold one cell each. -/
def ofCells (cells : List Cell) : Frame :=
  ⟨cells.zipIdx.map fun (c, i) => ⟨c, i⟩, none, cells.length⟩

def cells (f : Frame) : List Cell := f.registers.map Register.cell

/-- The registers of the parameters, the first marked `mark`. -/
def layout (mark : Nat) : List ValueType → List Argument → List Register
  | p :: ps, a :: as =>
    List.replicate p.width ⟨a.toCell p.descriptor, mark⟩ ++ layout (mark + 1) ps as
  | _, _ => []

/-- The registers before the parameters. -/
def receiverRegisters (s : Signature) (receiver : Argument) : List Register :=
  if s.isStatic then [] else [⟨receiver.toCell s.owner, 0⟩]

/-- The frame of a call with these arguments. -/
def forCall (s : Signature) (args : List Argument) (receiver : Argument) :
    Except HostError Frame :=
  if args.length ≠ s.parameters.length then
    .error (.argumentCount s.text s.parameters.length args.length)
  else
    .ok ⟨receiverRegisters s receiver ++ layout 1 s.parameters args, none, args.length + 1⟩

theorem length_layout {mark : Nat} {ps : List ValueType} {as : List Argument}
    (h : as.length = ps.length) : (layout mark ps as).length = (ps.map ValueType.width).sum := by
  induction ps generalizing mark as with
  | nil => cases as <;> rfl
  | cons p ps ih =>
    cases as with
    | nil => simp at h
    | cons a as => simp [layout, ih (by simpa using h)]

/-- The place that an index means; a negative one counts from the end. -/
def place? (f : Frame) (index : Int) : Option Nat :=
  let i := if index < 0 then f.registers.length + index else index
  if 0 ≤ i ∧ i < f.registers.length then some i.toNat else none

def registerAt? (f : Frame) (index : Int) : Option Register :=
  (f.place? index).bind fun i => f.registers[i]?

def peekAt (f : Frame) (index : Int) : Except HostError Cell :=
  match f.registerAt? index with
  | some r => .ok r.cell
  | none => .error .registerRead

/-- Puts a cell of its own into a register. -/
def assignAt (f : Frame) (index : Int) (c : Cell) : Except HostError Frame :=
  match f.place? index with
  | some i => .ok ⟨f.registers.set i ⟨c, f.fresh⟩, f.returned, f.fresh + 1⟩
  | none => .error .registerWrite

theorem place?_natCast (f : Frame) (i : Nat) :
    f.place? i = if i < f.registers.length then some i else none := by
  have hi : ¬ (i : Int) < 0 := by omega
  simp only [place?, hi, if_false, Int.toNat_natCast, Int.ofNat_lt]
  by_cases h : i < f.registers.length
  · rw [if_pos ⟨by omega, h⟩, if_pos h]
  · rw [if_neg fun hp => h hp.2, if_neg h]

theorem peekAt_natCast (f : Frame) (i : Nat) :
    f.peekAt i = match f.registers[i]? with
      | some r => .ok r.cell
      | none => .error .registerRead := by
  rw [peekAt, registerAt?, place?_natCast]
  by_cases h : i < f.registers.length
  · rw [if_pos h]
    rfl
  · rw [if_neg h, List.getElem?_eq_none (Nat.not_lt.1 h)]
    rfl

theorem assignAt_natCast (f : Frame) (i : Nat) (c : Cell) :
    f.assignAt i c = if i < f.registers.length then
      .ok ⟨f.registers.set i ⟨c, f.fresh⟩, f.returned, f.fresh + 1⟩ else .error .registerWrite := by
  rw [assignAt, place?_natCast]
  by_cases h : i < f.registers.length
  · rw [if_pos h, if_pos h]
  · rw [if_neg h, if_neg h]

/-- Whether two registers share their cell. -/
def sameCell (f : Frame) (a b : Int) : Except HostError Bool :=
  match f.registerAt? a, f.registerAt? b with
  | some r, some s => .ok (r.mark == s.mark)
  | _, _ => .error .registerRead

def quoted (h : Heap) (f : Frame) : Except HostError Text := do
  let lines ← f.cells.zipIdx.mapM fun (c, i) => do
    return Text.concat ["p", Text.ofNat i, ": ", ← c.quoted h]
  let result ← f.returned.toList.mapM fun c => do
    return Text.concat ["result: ", ← c.quoted h]
  return match lines ++ result with
    | [] => "<empty>"
    | all => Text.join "\n" all

instance : RegisterFile Frame where
  count f := .ok f.registers.length
  peek f i := f.peekAt i
  assign f i c := f.assignAt i c
  assignReturn f c := .ok { f with returned := some c }
  describe h f := f.quoted h

end Frame

/-- A frame whose registers and return slot cannot be written. -/
structure ReadOnlyFrame where
  frame : Frame

instance : RegisterFile ReadOnlyFrame where
  count f := .ok f.frame.registers.length
  peek f i := f.frame.peekAt i
  assign _ _ _ := .error (.raised .permission "frame is read-only")
  assignReturn _ _ := .error (.raised .permission "frame is read-only")
  describe h f := f.frame.quoted h

end HostCall
