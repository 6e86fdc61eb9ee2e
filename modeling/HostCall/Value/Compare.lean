import HostCall.Text.Units
import HostCall.Value.Arithmetic

/-!
# Hashes and equality

Numbers of the host are compared exactly; beside a scalar or an array both sides are first brought
to the element in which they meet.  Containers are compared item by item, buffers and instances by
identity.
-/

namespace HostCall

namespace Value

/-- Equality of two numbers of the host; what is no number is equal to none. -/
def equalNumbers (a b : Value) : Bool :=
  match a.number?, b.number? with
  | some x, some y => x.eq y
  | _, _ => false

/-! ## Grids -/

namespace Operand

/-- An operand of integers or truths, which are compared exactly. -/
def isExact (x : Operand) : Bool :=
  x.element.isExact || (x.isWeak && x.element != .scalar .double)

/-- A weak integer beside truths must fit into a long. -/
def checkBeside (x other : Operand) : Except HostError Unit :=
  if x.isWeak && other.element == .scalar .boolean then
    (x.grid.mapM (x.scalarOf .long)).map fun _ => ()
  else .ok ()

end Operand

/-- Whether the items of two operands are equal, place by place: integers exactly, other numbers in
the kind in which they meet, and a number is no text. -/
def equalItems (h : Heap) (a b : Value) : Except HostError (List Bool) := do
  let x ← a.operand h
  let y ← b.operand h
  let compared (f : GridItem → GridItem → Bool) : Except HostError (List Bool) := do
    return ((← x.grid.pair y.grid).map fun (i, j) => f i j).items
  let exactly : Except HostError (List Bool) :=
    compared fun i j => equalNumbers i.host j.host
  if x.isExact && y.isExact then
    x.checkBeside y
    y.checkBeside x
    exactly
  else match x.meeting y with
    | .scalar k =>
      let s ← x.grid.mapM (x.scalarOf k)
      let t ← y.grid.mapM (y.scalarOf k)
      return ((← s.pair t).map fun (a, b) => a.value.eq b.value).items
    | .text _ | .bytes _ => compared fun _ _ => false
    | _ => exactly

/-! ## Hashes -/

/-- Hashes of numbers are taken modulo this prime. -/
def hashModulus : Nat := 2 ^ 61 - 1

/-- The hash with the sign given; minus one is not used. -/
def signedHash (negative : Bool) (n : Nat) : Int :=
  let r : Int := if negative then -(n : Int) else n
  if r = -1 then -2 else r

def hashInteger (n : Int) : Int := signedHash (n < 0) (n.natAbs % hashModulus)

/-- The hash of a number with a power of two: two to the 61 is one. -/
def hashNumber : Extended → Int
  | .nan => 0
  | .infinite negative => if negative then -314159 else 314159
  | .finite a p =>
    let shift := (p % 61).toNat
    signedHash (a < 0) (a.natAbs * 2 ^ shift % hashModulus)

def rotateLeft (x : UInt64) (n : UInt64) : UInt64 := (x <<< n) ||| (x >>> (64 - n))

/-- One round over the hash of an item of a tuple. -/
def mixHash (acc lane : UInt64) : UInt64 :=
  rotateLeft (acc + lane * 14029467366897019727) 31 * 11400714785074694791

/-- The hash of a tuple from the hashes of its items. -/
def combineHashes (hashes : List Int) : Int :=
  let acc := hashes.foldl (fun acc x => mixHash acc (UInt64.ofInt x)) 2870177450012600261
  let acc := acc + (UInt64.ofNat hashes.length ^^^ (2870177450012600261 ^^^ 3527539))
  if acc = 18446744073709551615 then 1546275796 else acc.toInt64.toInt

/-- The hash as far as `fuel` levels of tuples; the hash of what is compared by identity, and of
texts, is a number that means nothing. -/
def hashWithin (h : Heap) : Nat → Value → Except HostError Int
  | 0, _ => .error (.raised (.other "RecursionError") "maximum recursion depth exceeded")
  | fuel + 1, v =>
    match v with
    | .boolean b => .ok (hashInteger b.toInt)
    | .integer n => .ok (hashInteger n)
    | .real x => .ok (hashNumber x.value)
    | .scalar s => .ok (hashNumber s.value)
    | .tuple a => do return combineHashes (← (h.items a).mapM (hashWithin h fuel))
    | .text t => .ok t.unitHash
    | .bytes bs => .ok (bytesAsText bs).unitHash
    | .builder a => .ok a
    | .object _ a =>
      if v.isOrdered h then .error (.unhashable v.errorName) else .ok a
    | .null | .unknown | .type _ => .ok 0
    | v => .error (.unhashable v.errorName)

def hash (h : Heap) (v : Value) : Except HostError Int := hashWithin h (h.contents.length + 1) v

/-! ## Equality -/

/-- Items equal in order, as far as both lists go; the first difference decides. -/
def allEqual (equal : Value → Value → Except HostError Bool) :
    List Value → List Value → Except HostError Bool
  | [], [] => .ok true
  | a :: as, b :: bs => do
    if ← equal a b then allEqual equal as bs else return false
  | _, _ => .ok false

/-- The value of a key whose hash is given: of the first entry with a key of this hash that is
equal to it. -/
def valueOfKey? (h : Heap) (equal : Value → Value → Except HostError Bool) (hash : Int)
    (key : Value) : List (Value × Value) → Except HostError (Option Value)
  | [] => .ok none
  | (k, v) :: rest => do
    if (← k.hash h) = hash then
      if ← equal k key then return some v
    valueOfKey? h equal hash key rest

/-- Every entry of one mapping stands in the other. -/
def allEntriesEqual (h : Heap) (equal : Value → Value → Except HostError Bool)
    (others : List (Value × Value)) : List (Value × Value) → Except HostError Bool
  | [] => .ok true
  | (k, v) :: rest => do
    match ← valueOfKey? h equal (← k.hash h) k others with
    | none => return false
    | some w => if ← equal v w then allEntriesEqual h equal others rest else return false

/-- Mappings of one size with equal entries; between two ordered ones the order counts too, and an
ordered one goes first. -/
def equalMappings (h : Heap) (equal : Value → Value → Except HostError Bool) (a b : Value)
    (p q : List (Value × Value)) : Except HostError Bool := do
  if p.length ≠ q.length then return false
  let turned := b.isOrdered h && !a.isOrdered h
  if !(← if turned then allEntriesEqual h equal p q else allEntriesEqual h equal q p) then
    return false
  if a.isOrdered h && b.isOrdered h then allEqual equal (p.map Prod.fst) (q.map Prod.fst)
  else return true

/-- Equality as far as `fuel` levels of containers, whose items are equal too when they are one
object.  Arrays and scalars take over a comparison, but not with mutable bytes before them. -/
def equalWithin (h : Heap) : Nat → Value → Value → Except HostError Bool
  | 0, _, _ => .error (.raised (.other "RecursionError")
      "maximum recursion depth exceeded in comparison")
  | fuel + 1, a, b =>
    let same (a b : Value) : Except HostError Bool :=
      if a.isSame b then .ok true else equalWithin h fuel a b
    match a, b with
    | .unknown, b => .ok (b == .unknown)
    | .byteArray s, b => .ok (b.buffer? == some s)
    | .bytes s, .bytes t | .bytes s, .byteArray t => .ok (s == t)
    | .text s, .text t => .ok (s == t)
    | .list p, .list q =>
      if p = q then .ok true
      else if (h.items p).length = (h.items q).length then allEqual same (h.items p) (h.items q)
      else .ok false
    | .tuple p, .tuple q =>
      if p = q then .ok true else allEqual same (h.items p) (h.items q)
    | a, b => match a.entries? h, b.entries? h with
      | some p, some q => if a.isSame b then .ok true else equalMappings h same a b p q
      | _, _ =>
        if a.isArrayLike || b.isArrayLike then do truthOfItems (← equalItems h a b)
        else .ok (equalNumbers a b || (a.number?.isNone && a == b))

def equal (h : Heap) (a b : Value) : Except HostError Bool :=
  equalWithin h (h.contents.length + 2) a b

/-- Whether two values are one object or equal. -/
def matches? (h : Heap) (a b : Value) : Except HostError Bool :=
  if a.isSame b then .ok true else equal h a b

/-- The value of a key in a mapping, if the key stands there. -/
def valueOf? (h : Heap) (entries : List (Value × Value)) (key : Value) :
    Except HostError (Option Value) := do
  valueOfKey? h (matches? h) (← key.hash h) key entries

/-- The entries with a value put at a key: a key that stands there keeps its place. -/
def insertEntry (h : Heap) (entries : List (Value × Value)) (key v : Value) :
    Except HostError (List (Value × Value)) := do
  let hash ← key.hash h
  let isThere ← entries.mapM fun (k, _) => do
    if (← k.hash h) = hash then matches? h k key else return false
  return if isThere.any id then
    (entries.zip isThere).map fun ((k, w), here) => (k, if here then v else w)
  else entries ++ [(key, v)]

end Value

end HostCall
