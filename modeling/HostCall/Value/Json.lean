import HostCall.Error
import HostCall.Value.Display

/-!
# Values as JSON

The JSON text of a value on one line.  Only control codes, quotes and backslashes are escaped in
texts; a value without a form of its own is written as the text that it prints as.
-/

namespace HostCall

namespace Json

def escape (c : CodePoint) : Text :=
  if c = '"' then "\\\"" else if c = '\\' then "\\\\" else if c = '\n' then "\\n"
  else if c = '\r' then "\\r" else if c = '\t' then "\\t" else if c.val = 8 then "\\b"
  else if c.val = 12 then "\\f"
  else if c.val < 32 then Text.concat ["\\u", hexPadded 4 c.val]
  else [c]

def text (t : Text) : Text := Text.concat ["\"", t.flatMap escape, "\""]

/-- A number; those that are not finite are spelled out. -/
def real (x : Double) : Text :=
  if x.isNaN then "NaN"
  else if x.isInfinite then if x.isNegative then "-Infinity" else "Infinity"
  else x.render .byDigits

def array (items : List Text) : Text := Text.concat ["[", Text.join ", " items, "]"]

def object (members : List (Text × Text)) : Text :=
  Text.concat ["\x7b", Text.join ", " (members.map fun (k, v) => Text.concat [text k, ": ", v]),
    "\x7d"]

end Json

namespace Value

/-- The JSON text of a value that is no container and has a form of its own. -/
def plainJson? : Value → Option (Except HostError Text)
  | .null => some (.ok "null")
  | .boolean b => some (.ok (if b then "true" else "false"))
  | .integer n => some (decimalText n)
  | .real x | .scalar (.double x) => some (.ok (Json.real x))
  | _ => none

/-- The name of a member: a text, or the form of another plain value. -/
def jsonName : Value → Except HostError Text
  | .text t => .ok t
  | v => v.plainJson?.getD (.error (.raised .type (Text.concat
      ["keys must be str, int, float, bool or None, not ", v.errorName])))

/-- The JSON text; `fuel` bounds the depth of containers. -/
def jsonWithin (h : Heap) : Nat → Value → Except HostError Text
  | 0, _ => .ok "null"
  | fuel + 1, v =>
    match v, v.plainJson?, v.entries? h with
    | .text t, _, _ => .ok (Json.text t)
    | _, some t, _ => t
    | .list a, _, _ | .tuple a, _, _ => do
      return Json.array (← (h.items a).mapM (jsonWithin h fuel))
    | _, _, some entries => do
      return Json.object (← entries.mapM fun (k, v) => do
        return (← k.jsonName, ← jsonWithin h fuel v))
    | v, _, _ => do return Json.text (← v.display h)

def json (h : Heap) (v : Value) : Except HostError Text :=
  v.jsonWithin h (h.contents.length + 1)

end Value

end HostCall
