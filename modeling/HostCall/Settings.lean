import HostCall.Text.Basic

/-!
# Settings of the bridge

What the bridge can be told: how arguments are coerced, which classes are denied, what names stand
for host classes, and where classes may be imported from.
-/

namespace HostCall

structure Settings where
  /-- Numeric zero for a class or array becomes null. -/
  zeroAsNull : Bool := true
  /-- Failures are logged with their trace. -/
  logTraces : Bool := true
  deniedTypes : List Text := []
  /-- Paths of host classes by class name. -/
  aliases : List (Text × Text) := []
  /-- Modules that bind further classes. -/
  hostModules : List Text := []
  importRoots : List Text := []

end HostCall
