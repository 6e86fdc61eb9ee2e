import HostCall.Value.Convert

/-!
# Grids

Scalars, arrays, mutable bytes and nested lists as grids: items in rows of one shape.  A number
alone is a grid without extents.  `Grid.pair` stretches two grids to one shape, and
`Element.promoted` is the element in which the items of two grids meet.
-/

namespace HostCall

/-- Items row by row, with the extents of the rows, the outermost first. -/
structure Grid (α : Type) where
  shape : List Nat
  items : List α

namespace Grid

variable {α β : Type}

def map (f : α → β) (g : Grid α) : Grid β := ⟨g.shape, g.items.map f⟩

def mapM (f : α → Except HostError β) (g : Grid α) : Except HostError (Grid β) := do
  return ⟨g.shape, ← g.items.mapM f⟩

/-- The shape of as many extents, with ones in front. -/
def padShape (n : Nat) (s : List Nat) : List Nat := List.replicate (n - s.length) 1 ++ s

/-- The shape to which two shapes stretch: the last extents go together, and an extent of one takes
that of the other. -/
def meetShapes (a b : List Nat) : Option (List Nat) :=
  let n := max a.length b.length
  ((padShape n a).zip (padShape n b)).mapM fun (x, y) =>
    if x = y ∨ y = 1 then some x else if x = 1 then some y else none

/-- The items repeated where a wanted extent is not the one that they have. -/
def stretchItems : List (Nat × Nat) → List α → List α
  | [], items => items
  | (wanted, own) :: rest, items =>
    let size := (rest.map Prod.snd).foldl (· * ·) 1
    let rows := (List.range own).map fun i =>
      stretchItems rest ((items.drop (i * size)).take size)
    if own = wanted then rows.flatten else (List.replicate wanted rows.flatten).flatten

def stretch (shape : List Nat) (g : Grid α) : List α :=
  stretchItems (shape.zip (padShape shape.length g.shape)) g.items

/-- The items of two grids side by side. -/
def pair (a : Grid α) (b : Grid β) : Except HostError (Grid (α × β)) :=
  match meetShapes a.shape b.shape with
  | some s => .ok ⟨s, (a.stretch s).zip (b.stretch s)⟩
  | none => .error (.shapes a.shape b.shape)

/-- Grids as the rows of one, and whether the rows differ in shape; the shape is the one that they
share from the outside. -/
def ofRows (rows : List (Grid α)) : Grid α × Bool :=
  let shared (a b : List Nat) : List Nat := ((a.zip b).takeWhile fun (x, y) => x == y).map Prod.fst
  let shapes := rows.map Grid.shape
  let inner := match shapes with
    | [] => []
    | s :: rest => rest.foldl shared s
  (⟨rows.length :: inner, rows.flatMap Grid.items⟩, shapes.any fun s => s != inner)

end Grid

namespace Kind

/-- Signed integral kinds by size. -/
def signedRank? : Kind → Option Nat
  | .byte => some 0 | .short => some 1 | .int => some 2 | .long => some 3
  | _ => none

/-- The smallest kind that holds the numbers of both kinds. -/
def promoted (a b : Kind) : Kind :=
  if a = b then a
  else match a, b with
    | .boolean, k | k, .boolean => k
    | .double, _ | _, .double => .double
    | .float, k | k, .float => if k = .int ∨ k = .long then .double else .float
    | .char, k | k, .char => if k = .long then .long else .int
    | a, b => if a.signedRank?.getD 0 < b.signedRank?.getD 0 then b else a

def isFloating (k : Kind) : Bool := k == .double || k == .float

/-- How many characters a number of the kind takes at most when it stands among texts. -/
def textWidth : Kind → Nat
  | .boolean | .char => 5
  | .byte => 4
  | .short => 6
  | .int => 11
  | .long => 21
  | .double | .float => 32

end Kind

/-- What the items of a grid are. -/
inductive Element where
  | scalar (kind : Kind)
  /-- A byte of a buffer. -/
  | octet
  /-- An integer without a sign, of 64 bits. -/
  | wide
  | text (width : Nat)
  | bytes (width : Nat)
  /-- Any value of the host. -/
  | any
  deriving DecidableEq

namespace Element

def name : Element → Text
  | .scalar k => HostType.scalarPath k
  | .octet => "uint8"
  | .wide => "uint64"
  | .text n => Text.concat ["<U", Text.ofNat n]
  | .bytes n => Text.concat ["S", Text.ofNat n]
  | .any => "O"

def textWidth : Element → Nat
  | .scalar k => k.textWidth
  | .octet => 3
  | .wide => 20
  | .text n | .bytes n => n
  | .any => 0

/-- The element that holds the items of both. -/
def promoted (a b : Element) : Element :=
  match a, b with
  | .any, _ | _, .any => .any
  | .text _, _ | _, .text _ => .text (max a.textWidth b.textWidth)
  | .bytes _, _ | _, .bytes _ => .bytes (max a.textWidth b.textWidth)
  | .scalar k, .scalar l => .scalar (k.promoted l)
  | .wide, .scalar k | .scalar k, .wide =>
    if k = .boolean ∨ k = .char then .wide else .scalar .double
  | .wide, _ | _, .wide => .wide
  | .octet, .octet => .octet
  | .octet, .scalar k | .scalar k, .octet =>
    if k = .boolean then .octet else if k = .byte then .scalar .short else .scalar k

/-- Whether the items are integers or truths. -/
def isExact : Element → Bool
  | .scalar k => !k.isFloating
  | .octet | .wide => true
  | _ => false

def ofValue : Value → Element
  | .boolean _ => .scalar .boolean
  | .integer n => if fitsLong n then .scalar .long else if 0 ≤ n ∧ n < 2 ^ 64 then .wide else .any
  | .real _ => .scalar .double
  | .scalar s => .scalar s.kind
  | .text t => .text (max t.length 1)
  | .bytes bs => .bytes (max bs.length 1)
  | _ => .any

end Element

/-- An item of a grid: a value, or a byte of a buffer. -/
inductive GridItem where
  | value (v : Value)
  | octet (b : UInt8)

namespace GridItem

/-- The item as a value of the host. -/
def host : GridItem → Value
  | .octet b => .integer b.toNat
  | .value (.scalar s) => .ofScalar s
  | .value v => v

/-- The number that an item denotes, as a scalar of a kind; integers wrap around. -/
def castTo (k : Kind) : GridItem → Scalar
  | .octet b => .ofInt k b.toNat
  | .value (.scalar s) => s.castTo k
  | .value (.real x) => .ofBinary k x
  | .value (.boolean b) => .ofInt k b.toInt
  | .value (.integer n) => .ofInt k n
  | .value _ => .ofInt k 0

/-- A scalar of a kind made from the item. -/
def toScalar (h : Heap) (k : Kind) : GridItem → Except HostError Scalar
  | .octet b => .ok (.ofInt k b.toNat)
  | .value v => v.toScalar h k

end GridItem

/-- A value read as a grid; `element` is none where there are no items and nothing tells it. -/
structure Reading where
  grid : Grid GridItem
  element : Option Element := none
  isRagged : Bool := false

namespace Value

/-- How many lists may stand within each other. -/
def maxDepth : Nat := 64

/-- A value as a grid, as far as `fuel` levels of lists. -/
def readingWithin (h : Heap) : Nat → Value → Except HostError Reading
  | fuel, v =>
    match v with
    | .array k items _ =>
      .ok ⟨⟨[items.length], items.map (.value ∘ .scalar)⟩, some (.scalar k), false⟩
    | .byteArray bs => .ok ⟨⟨[bs.length], bs.map .octet⟩, some .octet, false⟩
    | .list a | .tuple a =>
      match fuel with
      | 0 => .error .tooDeep
      | fuel + 1 => do
        let rows ← (h.items a).mapM (readingWithin h fuel)
        let (grid, differ) := Grid.ofRows (rows.map Reading.grid)
        let element := (rows.filterMap Reading.element).foldl (fun e f => match e with
          | none => some f
          | some e => some (e.promoted f)) none
        return ⟨grid, element, differ || rows.any Reading.isRagged⟩
    | v => .ok ⟨⟨[], [.value v]⟩, some (.ofValue v), false⟩

/-- A value as a grid with the element of its items; the rows must have one shape. -/
def toGrid (h : Heap) (v : Value) : Except HostError (Element × Grid GridItem) := do
  let r ← readingWithin h maxDepth v
  if r.isRagged then throw (.ragged r.grid.shape)
  return (r.element.getD (.scalar .double), r.grid)

/-- A grid of scalars as a value: a scalar alone, or an array, which has one row. -/
def ofScalars (k : Kind) (g : Grid Scalar) : Value :=
  match g.shape, g.items with
  | [], [s] => .scalar s
  | _, items => .array k items 0

/-- The grid of scalars of a kind that a value makes; for doubles, what is a real is one alone. -/
def toScalarGrid (h : Heap) (k : Kind) (v : Value) : Except HostError (Grid Scalar) := do
  match k, v.toReal with
  | .double, .ok x => return ⟨[], [.double x]⟩
  | _, _ => (← v.toGrid h).2.mapM (GridItem.toScalar h k)

/-- A scalar of a kind made from a value, or an array of such scalars made from a sequence. -/
def toScalars (h : Heap) (k : Kind) (v : Value) : Except HostError Value := do
  return ofScalars k (← v.toScalarGrid h k)

/-- Whether a value belongs to the library of arrays, which takes over an operation on it. -/
def isArrayLike : Value → Bool
  | .scalar _ | .array .. => true
  | _ => false

/-! ## Operands -/

/-- An operand of an operation on grids.  A number of the host alone is weak: it takes the kind of
the other operand. -/
structure Operand where
  element : Element
  grid : Grid GridItem
  isWeak : Bool := false

def operand (h : Heap) (v : Value) : Except HostError Operand :=
  match v with
  | .integer _ | .real _ => .ok ⟨.ofValue v, ⟨[], [.value v]⟩, true⟩
  | v => do
    let (e, g) ← v.toGrid h
    return ⟨e, g, false⟩

namespace Operand

/-- The element in which a weak number meets the items of the other operand: reals need a floating
point kind, and an integer is a long beside truths. -/
def weakMeeting (number other : Element) : Element :=
  if number = .scalar .double then if other = .scalar .float then other else number
  else if other = .scalar .boolean then .scalar .long
  else other

/-- The element in which the items of two operands meet. -/
def meeting (x y : Operand) : Element :=
  if x.isWeak then weakMeeting x.element y.element
  else if y.isWeak then weakMeeting y.element x.element
  else x.element.promoted y.element

/-- An item as a scalar of a kind; a weak number must fit. -/
def scalarOf (x : Operand) (k : Kind) (i : GridItem) : Except HostError Scalar :=
  match x.isWeak, i with
  | true, .value (.integer n) => integerToScalar k n
  | _, i => .ok (i.castTo k)

end Operand

end Value

end HostCall
