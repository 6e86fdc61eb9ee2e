import HostCall.Text.Basic

/-!
# Primitive kinds

The eight primitive kinds of the register calling convention, each named by a letter.
-/

namespace HostCall

inductive Kind where
  | int | boolean | long | byte | short | char | double | float
  deriving DecidableEq, Repr

namespace Kind

def all : List Kind := [.int, .boolean, .long, .byte, .short, .char, .double, .float]

/-- The one-letter descriptor. -/
def letter : Kind → CodePoint
  | .int => 'I' | .boolean => 'Z' | .long => 'J' | .byte => 'B'
  | .short => 'S' | .char => 'C' | .double => 'D' | .float => 'F'

def label : Kind → Text
  | .int => "int" | .boolean => "boolean" | .long => "long" | .byte => "byte"
  | .short => "short" | .char => "char" | .double => "double" | .float => "float"

/-- Register slots of one value. -/
def width : Kind → Nat
  | .long | .double => 2
  | _ => 1

def ofLetter? (c : CodePoint) : Option Kind := all.find? fun k => k.letter = c

/-- The kind that a whole text names. -/
def ofText? : Text → Option Kind
  | [c] => ofLetter? c
  | _ => none

theorem ofLetter?_letter (k : Kind) : ofLetter? k.letter = some k := by
  cases k <;> decide

theorem letter_of_ofLetter? {c : CodePoint} {k : Kind} (h : ofLetter? c = some k) :
    k.letter = c := by
  simpa using List.find?_some h

theorem ofText?_eq_some_iff {t : Text} {k : Kind} : ofText? t = some k ↔ t = [k.letter] := by
  constructor
  · intro h
    match t, h with
    | [c], h => rw [letter_of_ofLetter? h]
  · rintro rfl
    exact ofLetter?_letter k

theorem width_pos (k : Kind) : 0 < k.width := by cases k <;> decide

end Kind

end HostCall
