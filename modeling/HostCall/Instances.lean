/-!
# Instances

A power and a zero of numbers can be read off more than one instance where an algebraic hierarchy is
imported.  Here they are those of the core library everywhere, so that the definitions do not depend
on the imports.  Results that may fail can be compared where their parts can.
-/

attribute [instance (2000)] instPowNat Zero.ofOfNat0

attribute [default_instance (20000)] instPowNat

namespace HostCall

instance instDecidableEqResult {ε α : Type} [DecidableEq ε] [DecidableEq α] :
    DecidableEq (Except ε α)
  | .ok a, .ok b => decidable_of_iff (a = b) ⟨congrArg Except.ok, Except.ok.inj⟩
  | .error e, .error e' => decidable_of_iff (e = e') ⟨congrArg Except.error, Except.error.inj⟩
  | .ok _, .error _ | .error _, .ok _ => .isFalse (by simp)

end HostCall
