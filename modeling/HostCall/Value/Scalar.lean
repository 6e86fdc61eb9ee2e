import HostCall.Value.Basic
import HostCall.Number.Shortest
import HostCall.Text.Quoted

/-!
# Scalars as text

A scalar prints as its number; quoted, it also tells its kind.
-/

namespace HostCall

def truthText (b : Bool) : Text := if b then "True" else "False"

namespace Scalar

def display : Scalar → Text
  | .boolean b => truthText b
  | .double x => x.render .byValue
  | .float x => x.render .byValue
  | s => Text.ofInt (s.toInt?.getD 0)

def quoted (s : Scalar) : Text :=
  match s with
  | .boolean b => Text.concat ["np.", truthText b, "_"]
  | s => Text.concat ["np.", HostType.scalarPath s.kind, "(", s.display, ")"]

end Scalar

end HostCall
