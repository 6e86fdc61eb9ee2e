import HostCall.Number.Fixed
import HostCall.Value.Scalar

/-!
# Arrays as text

The items of an array stand in columns of one width between brackets, in lines of at most 75
columns; of more than a thousand items only the first and last three are written.  Floating point
items show at most eight digits behind the point, all with an exponent or all without.
-/

namespace HostCall

namespace ArrayText

def maxColumns : Nat := 75

def maxItems : Nat := 1000

def edgeItems : Nat := 3

/-- The items that are written, and whether the middle is left out. -/
def shown (items : List Scalar) : List Scalar × Bool :=
  if items.length > maxItems then
    (items.take edgeItems ++ items.drop (items.length - edgeItems), true)
  else (items, false)

/-! ## Floating point items -/

/-- Digits behind the point that an item shows at most. -/
def maxPlaces : Nat := 8

/-- A finite item: the digits before the point with the sign, those behind it without zeros at the
end, and the exponent, which only the exponential notation shows. -/
structure RealItem where
  whole : Text
  places : Text
  exponent : Int

section

variable {f : FloatFormat}

def dropTrailingZeros (t : Text) : Text :=
  (t.reverse.dropWhile fun c : CodePoint => c = '0').reverse

def signText (x : Binary f) : Text := if x.isNegative then "-" else ""

/-- The grid of powers of ten on which an item alone is written: that of its shortest decimal, or
a coarser one where it has too many places. -/
def ownGrid (exponents : Bool) (x : Binary f) : Int :=
  if x.magnitudeBits = 0 then 0
  else max x.shortest.exponent (if exponents then x.decimalExponent - maxPlaces else -maxPlaces)

/-- The grid on which an item is written among others: with exponents all show as many places, and
without them no digit before the point is left out. -/
def sharedGrid (exponents : Bool) (places : Nat) (x : Binary f) : Int :=
  if exponents then x.decimalExponent - places else min (ownGrid false x) 0

/-- The item on the grid of `10 ^ k`. -/
def itemAt (exponents : Bool) (k : Int) (x : Binary f) : RealItem :=
  let d : Decimal := if x.magnitudeBits = 0 then ⟨0, 0⟩ else x.interval.onGrid k
  if exponents then
    let (ds, e) := if d.digits = 0 then (("0" : Text), 0) else d.scientificParts
    ⟨signText x ++ ds.take 1, ds.drop 1, e⟩
  else
    let behind := (-d.exponent).toNat
    let ds := Text.padLeft '0' (behind + 1) (Text.ofNat (d.digits * 10 ^ d.exponent.toNat))
    let whole := ds.length - behind
    ⟨signText x ++ ds.take whole, dropTrailingZeros (ds.drop whole), 0⟩

/-- Whether the items are so large, so small or so far apart that they need exponents. -/
def needsExponents (xs : List (Binary f)) : Bool :=
  let sizes := (xs.filter fun x => x.isFinite && x.magnitudeBits != 0).map Binary.abs
  let atLeast (x y : Binary f) : Bool := Extended.le y.value x.value
  match sizes with
  | [] => false
  | first :: rest =>
    let greatest := rest.foldl (fun m x => if atLeast x m then x else m) first
    let least := rest.foldl (fun m x => if atLeast m x then x else m) first
    let (a, b) := greatest.ratio
    let (c, d) := least.ratio
    let quotient : Binary f := Binary.ofRatio false (a * d) (b * c)
    atLeast greatest (Binary.ofInt (10 ^ 8)) ||
      !atLeast least (Binary.ofRatio false 1 10000) || !atLeast (Binary.ofInt 1000) quotient

def greatestOf (ns : List Nat) : Nat := ns.foldl max 0

/-- The words of floating point items: points stand in one column, and what is no number stands at
the right.  The items as they are written alone make the columns. -/
def realWords (xs : List (Binary f)) : List Text :=
  let exponents := needsExponents xs
  let items := (xs.filter Binary.isFinite).map fun x => itemAt exponents (ownGrid exponents x) x
  let places := greatestOf (items.map fun i => i.places.length)
  let power := greatestOf (items.map fun i => max 2 (Text.ofNat i.exponent.natAbs).length)
  let right := if exponents then places + 2 + power else places
  let special (x : Binary f) : Text := if x.isNaN then "nan" else signText x ++ "inf"
  let left := greatestOf (items.map (fun i => i.whole.length) ++
    (xs.filter fun x => !x.isFinite).map fun x => (special x).length - (right + 1))
  xs.map fun x =>
    if x.isFinite then
      let i := itemAt exponents (sharedGrid exponents places x) x
      let front := Text.concat [Text.padLeft ' ' left i.whole, "."]
      if exponents then
        Text.concat [front, Text.padRight '0' places i.places, "e",
          if i.exponent < 0 then "-" else "+",
          Text.padLeft '0' power (Text.ofNat i.exponent.natAbs)]
      else front ++ Text.padRight ' ' places i.places
    else Text.padLeft ' ' (left + right + 1) (special x)

end

/-! ## Lines -/

/-- The words of the items, all of one width. -/
def words (kind : Kind) (items : List Scalar) : List Text :=
  match kind with
  | .double => realWords (items.filterMap fun
    | .double x => some x
    | _ => none)
  | .float => realWords (items.filterMap fun
    | .float x => some x
    | _ => none)
  | .boolean => items.map fun s => Text.padLeft ' ' 5 s.display
  | _ =>
    let ws := items.map Scalar.display
    ws.map (Text.padLeft ' ' (greatestOf (ws.map List.length)))

/-- Finished lines and the line that is being filled. -/
structure Layout where
  done : Text
  line : Text

def dropTrailingSpaces (t : Text) : Text :=
  (t.reverse.dropWhile fun c : CodePoint => c = ' ').reverse

/-- Puts a word on the line, or on a new line where it would not fit and a new line helps. -/
def Layout.put (indent : Text) (columns : Nat) (l : Layout) (word : Text) : Layout :=
  if l.line.length + word.length > columns ∧ l.line.length > indent.length then
    ⟨Text.concat [l.done, dropTrailingSpaces l.line, "\n"], indent ++ word⟩
  else ⟨l.done, l.line ++ word⟩

/-- Words between brackets with a separator after each but the last. -/
def layOut (separator : Text) (opening columns : Nat) (ws : List Text) : Text :=
  let indent : Text := Text.padLeft ' ' (opening + 1) []
  let columns := columns - max (dropTrailingSpaces separator).length 1
  let last := ws.length - 1
  let result := ws.zipIdx.foldl (fun l (w, i) =>
    let next := l.put indent columns w
    if i = last then next else ⟨next.done, next.line ++ separator⟩) (⟨[], indent⟩ : Layout)
  Text.concat ["[", (result.done ++ result.line).drop indent.length, "]"]

/-- The written array behind `opening` columns; `closing` columns follow it. -/
def write (separator : Text) (opening closing : Nat) (kind : Kind) (items : List Scalar) : Text :=
  if items = [] then "[]"
  else
    let (kept, cut) := shown items
    let ws := words kind kept
    let ws := if cut then ws.take edgeItems ++ ("..." : Text) :: ws.drop edgeItems else ws
    layOut separator opening (maxColumns - closing) ws

def display (kind : Kind) (items : List Scalar) : Text := write " " 0 0 kind items

/-- Kinds that need not be named when an array is quoted. -/
def isImplied : Kind → Bool
  | .long | .double | .boolean => true
  | _ => false

def quoted (kind : Kind) (items : List Scalar) : Text :=
  let body := write ", " 6 1 kind items
  let shape : List Text :=
    if items.length > maxItems then [Text.concat ["shape=(", Text.ofNat items.length, ",)"]] else []
  let dtype : List Text :=
    if !isImplied kind ∨ items = [] then [Text.concat ["dtype=", HostType.scalarPath kind]] else []
  match shape ++ dtype with
  | [] => Text.concat ["array(", body, ")"]
  | extras =>
    let front := Text.concat ["array(", body, ","]
    let back := Text.concat [Text.join ", " extras, ")"]
    let lastLine := (front.reverse.takeWhile fun c : CodePoint => c ≠ '\n').length
    let space : Text := if lastLine + back.length + 1 > maxColumns then "\n      " else " "
    Text.concat [front, space, back]

end ArrayText

end HostCall
