import HostCall.Instances

/-!
# Text

A text is a list of code points.  Halves of surrogate pairs may stand alone in it, so it is
wider than `String`; every `String` literal is read as a text by a coercion.

`find?_eq_some_iff` says that a search returns the least place where the needle stands, and
`find?_eq_none_iff` that it fails only when there is none.
-/

namespace HostCall

/-- A Unicode code point; unlike a `Char` it may be half of a surrogate pair. -/
structure CodePoint where
  val : Nat
  isValid : val < 0x110000
  deriving DecidableEq

namespace CodePoint

instance : Inhabited CodePoint := ⟨⟨0, by decide⟩⟩

theorem ext_val {a b : CodePoint} (h : a.val = b.val) : a = b := by
  cases a; cases b; simp_all

def ofChar (c : Char) : CodePoint :=
  ⟨c.val.toNat, by rcases c.valid with h | ⟨_, h⟩
                   · exact Nat.lt_trans h (by decide)
                   · exact h⟩

instance : Coe Char CodePoint := ⟨ofChar⟩

def ofNat? (n : Nat) : Option CodePoint :=
  if h : n < 0x110000 then some ⟨n, h⟩ else none

def ofInt? : Int → Option CodePoint
  | .ofNat n => ofNat? n
  | .negSucc _ => none

theorem ofNat?_val (c : CodePoint) : ofNat? c.val = some c := by
  simp [ofNat?, c.isValid]

/-- The code point with the number of a unit of 16 bits. -/
def ofUnit (v : UInt16) : CodePoint := ⟨v.toNat, Nat.lt_trans v.toNat_lt (by decide)⟩

theorem ofNat?_toNat (v : UInt16) : ofNat? v.toNat = some (ofUnit v) := dif_pos _

/-- One half of a surrogate pair. -/
def isSurrogate (c : CodePoint) : Bool :=
  0xD800 ≤ c.val && c.val ≤ 0xDFFF

def toChar? (c : CodePoint) : Option Char :=
  if c.isSurrogate then none else some (Char.ofNat c.val)

/-- The value of an ASCII digit or letter as a digit, whatever its case. -/
def digitValue? (c : CodePoint) : Option Nat :=
  if 48 ≤ c.val ∧ c.val ≤ 57 then some (c.val - 48)
  else if 97 ≤ c.val ∧ c.val ≤ 122 then some (c.val - 87)
  else if 65 ≤ c.val ∧ c.val ≤ 90 then some (c.val - 55)
  else none

/-- The lowercase digit of value `d`, for `d` below 36. -/
def ofDigit (d : Nat) : CodePoint :=
  if h : d < 10 then ⟨48 + d, by omega⟩
  else if h : d < 36 then ⟨87 + d, by omega⟩
  else '?'

theorem digitValue?_ofDigit {d : Nat} (h : d < 36) : (ofDigit d).digitValue? = some d := by
  unfold ofDigit digitValue?
  split
  · simp; omega
  · have : ¬ (87 + d ≤ 57) := by omega
    simp [this]; omega

def isDecimal (c : CodePoint) : Bool :=
  48 ≤ c.val && c.val ≤ 57

/-- ASCII uppercase letters become lowercase; nothing else changes. -/
def asciiLower (c : CodePoint) : CodePoint :=
  if h : 65 ≤ c.val ∧ c.val ≤ 90 then ⟨c.val + 32, by omega⟩ else c

/-- ASCII lowercase letters become uppercase; nothing else changes. -/
def asciiUpper (c : CodePoint) : CodePoint :=
  if h : 97 ≤ c.val ∧ c.val ≤ 122 then ⟨c.val - 32, by omega⟩ else c

end CodePoint

/-- A text is a list of code points. -/
abbrev Text := List CodePoint

namespace Text

def ofString (s : String) : Text :=
  s.toList.map CodePoint.ofChar

instance : Coe String Text := ⟨ofString⟩

/-- The text as a string, when no surrogate stands in it. -/
def toString? (t : Text) : Option String :=
  (t.mapM CodePoint.toChar?).map String.ofList

/-! ## Numerals -/

/-- The digits of `n` in base `b`, most significant first, in front of `acc`. -/
def digitsOnto (b n : Nat) (acc : List Nat) : List Nat :=
  if _h : n < b ∨ b < 2 then n :: acc
  else digitsOnto b (n / b) (n % b :: acc)
termination_by n
decreasing_by exact Nat.div_lt_self (by omega) (by omega)

/-- The digits of `n` in base `b` without leading zeros. -/
def digits (b n : Nat) : List Nat := digitsOnto b n []

/-- The numeral of `n` in base `b`, with lowercase letters from ten on. -/
def numeral (b n : Nat) : Text := (digits b n).map CodePoint.ofDigit

def ofNat (n : Nat) : Text := numeral 10 n

def ofInt : Int → Text
  | .ofNat n => ofNat n
  | .negSucc n => '-' :: ofNat (n + 1)

/-- Right-aligned in a field of at least `width`, filled with `fill`. -/
def padLeft (fill : CodePoint) (width : Nat) (t : Text) : Text :=
  List.replicate (width - t.length) fill ++ t

/-- Left-aligned in a field of at least `width`, filled with `fill`. -/
def padRight (fill : CodePoint) (width : Nat) (t : Text) : Text :=
  t ++ List.replicate (width - t.length) fill

/-! ## Searching -/

def startsWith (needle text : Text) : Bool := needle.isPrefixOf text

def endsWith (needle text : Text) : Bool := needle.isSuffixOf text

/-- The least place at which `needle` stands in `text`. -/
def find? (needle : Text) : Text → Option Nat
  | [] => if needle = [] then some 0 else none
  | c :: rest =>
    if needle.isPrefixOf (c :: rest) then some 0 else (find? needle rest).map (· + 1)

def contains (needle text : Text) : Bool := (find? needle text).isSome

theorem find?_eq_none_iff {needle text : Text} :
    find? needle text = none ↔ ∀ i ≤ text.length, ¬ needle <+: text.drop i := by
  induction text with
  | nil => simp [find?]
  | cons c rest ih =>
    unfold find?
    split
    · rename_i h
      simp only [reduceCtorEq, false_iff]
      exact fun H => H 0 (Nat.zero_le _) (List.isPrefixOf_iff_prefix.1 h)
    · rename_i h
      rw [Option.map_eq_none_iff, ih]
      constructor
      · intro H i hi
        cases i with
        | zero => exact fun hp => h (List.isPrefixOf_iff_prefix.2 hp)
        | succ i => exact H i (by simpa using hi)
      · intro H i hi
        exact H (i + 1) (by simpa using hi)

theorem find?_eq_some_iff {needle text : Text} {i : Nat} :
    find? needle text = some i ↔
      i ≤ text.length ∧ needle <+: text.drop i ∧ ∀ j < i, ¬ needle <+: text.drop j := by
  induction text generalizing i with
  | nil =>
    unfold find?
    split
    · rename_i h
      subst h
      constructor
      · rintro ⟨⟩; simp
      · rintro ⟨hi, -⟩
        simp at hi
        simp [hi]
    · rename_i h
      simp [h]
  | cons c rest ih =>
    unfold find?
    split
    · rename_i h
      have h' := List.isPrefixOf_iff_prefix.1 h
      constructor
      · rintro ⟨⟩
        exact ⟨Nat.zero_le _, h', by simp⟩
      · rintro ⟨-, -, H⟩
        cases i with
        | zero => rfl
        | succ i => exact absurd h' (H 0 (Nat.succ_pos _))
    · rename_i h
      have h' : ¬ needle <+: c :: rest := fun hp => h (List.isPrefixOf_iff_prefix.2 hp)
      cases i with
      | zero => simp [h']
      | succ i =>
        rw [Option.map_eq_some_iff]
        constructor
        · rintro ⟨k, hk, he⟩
          obtain rfl : k = i := by omega
          obtain ⟨h1, h2, h3⟩ := ih.1 hk
          refine ⟨by simpa using h1, by simpa using h2, ?_⟩
          intro j hj
          cases j with
          | zero => exact h'
          | succ j => simpa using h3 j (by omega)
        · rintro ⟨h1, h2, h3⟩
          exact ⟨i, ih.2 ⟨by simpa using h1, by simpa using h2,
            fun j hj => by simpa using h3 (j + 1) (by omega)⟩, rfl⟩

/-- What stands before and after the first place of `sep`. -/
def cut? (sep text : Text) : Option (Text × Text) :=
  (find? sep text).map fun i => (text.take i, text.drop (i + sep.length))

/-! ## Changing -/

def replace (old new : CodePoint) (t : Text) : Text :=
  t.map fun c => if c = old then new else c

/-- The pieces between the places of one code point; never empty. -/
def splitOn (sep : CodePoint) : Text → List Text
  | [] => [[]]
  | c :: rest =>
    if c = sep then [] :: splitOn sep rest
    else match splitOn sep rest with
      | [] => [[c]]
      | piece :: pieces => (c :: piece) :: pieces

/-- A text with a line feed for each line end: a carriage return, a line feed, or both together.
`returned` tells that a carriage return stands in front. -/
def unifyLineEnds (returned : Bool) : Text → Text
  | [] => []
  | c :: rest =>
    if c = '\r' then '\n' :: unifyLineEnds true rest
    else if returned && c = '\n' then unifyLineEnds false rest
    else c :: unifyLineEnds false rest

/-- The lines of a text; never empty. -/
def lines (t : Text) : List Text := splitOn '\n' (unifyLineEnds false t)

def join (sep : Text) (parts : List Text) : Text := List.intercalate sep parts

/-- The parts one after another, as messages are put together. -/
def concat (parts : List Text) : Text := parts.flatten

/-- Drops code points of a class from both ends. -/
def strip (p : CodePoint → Bool) (t : Text) : Text :=
  ((t.dropWhile p).reverse.dropWhile p).reverse

/-- The order of code points, first difference first. -/
def lt : Text → Text → Bool
  | _, [] => false
  | [], _ :: _ => true
  | a :: as, b :: bs => a.val < b.val || (a == b && lt as bs)

/-- Sorted by code points. -/
def sort (ts : List Text) : List Text := ts.mergeSort fun a b => !lt b a

end Text

end HostCall
