import HostCall.Descriptor
import HostCall.Error

/-!
# Overload sets

The variants of a member, each with the descriptors of its parameters.  No two variants of a set
built by `add?` have the same descriptors (`nodup_add?`).
-/

namespace HostCall

/-- One variant: the descriptors of its parameters and what is called. -/
structure Overload (α : Type) where
  descriptors : List Text
  function : α

/-- All variants of a name, in the order in which they were added. -/
structure OverloadSet (α : Type) where
  name : Text
  variants : List (Overload α) := []

namespace OverloadSet

variable {α : Type}

/-- The error of a variant whose descriptors are taken. -/
def duplicate (s : OverloadSet α) (descriptors : List Text) : HostError :=
  .raised .value (Text.concat ["Duplicate overload ", s.name, "(", descriptors.flatten, ")"])

/-- Adds a variant unless its descriptors are taken. -/
def add? (s : OverloadSet α) (v : Overload α) : Except HostError (OverloadSet α) :=
  if s.variants.any fun w => w.descriptors == v.descriptors then
    .error (s.duplicate v.descriptors)
  else .ok { s with variants := s.variants ++ [v] }

/-- The variants with so many parameters. -/
def candidates (s : OverloadSet α) (arity : Nat) : List (Overload α) :=
  s.variants.filter fun v => v.descriptors.length == arity

/-- Each list of descriptors is taken at most once. -/
def Distinct (s : OverloadSet α) : Prop := (s.variants.map Overload.descriptors).Nodup

theorem nodup_add? {s t : OverloadSet α} {v : Overload α} (hs : s.Distinct)
    (h : s.add? v = .ok t) : t.Distinct := by
  unfold add? at h
  split at h
  · cases h
  · rename_i hn
    obtain rfl : { s with variants := s.variants ++ [v] } = t := by simpa using h
    simp only [List.any_eq_true, beq_iff_eq, not_exists, not_and] at hn
    simp only [Distinct, List.map_append, List.map_cons, List.map_nil, List.nodup_append,
      List.mem_singleton, List.mem_map]
    refine ⟨hs, by simp, ?_⟩
    rintro a ⟨w, hw, rfl⟩ b hb rfl
    exact hn w hw hb

/-- How the set is shown: its name and the shapes of its variants. -/
def quoted (s : OverloadSet α) : Text :=
  let shapes := s.variants.map fun v => Text.concat ["(", v.descriptors.flatten, ")"]
  Text.concat ["<OverloadSet ", s.name, " [", Text.join ", " shapes, "]>"]

end OverloadSet

end HostCall
