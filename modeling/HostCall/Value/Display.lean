import HostCall.Value.ArrayText

/-!
# Values as text

Three texts of a value: `quoted` shows what it is made of, `display` is what it prints as, and
`rendered` is what the interpreted program prints for it.  Each fails where an integer in it has too
many digits, or where an instance in it answers with an error.
-/

namespace HostCall

namespace Value

open Text in
/-- The quoted form; `path` holds the containers around the value, which are not opened again. -/
def quotedWithin (h : Heap) : Nat → List Address → Value → Except HostError Text
  | 0, _, _ => .ok "..."
  | fuel + 1, path, v =>
    let inner (a : Address) (v : Value) : Except HostError Text :=
      quotedWithin h fuel (a :: path) v
    match (h.answersOf v).quoted with
    | some answer => answer
    | none => match v with
      | .null => .ok "None"
      | .unknown => .ok "Unknown"
      | .boolean b => .ok (truthText b)
      | .integer n => decimalText n
      | .real x => .ok (x.render .byDigits)
      | .text t => .ok (quoted t)
      | .scalar s => .ok s.quoted
      | .bytes bs => .ok (quotedBytes bs)
      | .byteArray bs => .ok (quotedByteArray bs)
      | .array k items _ => .ok (ArrayText.quoted k items)
      | .list a =>
        if a ∈ path then .ok "[...]"
        else do return concat ["[", join ", " (← (h.items a).mapM (inner a)), "]"]
      | .tuple a =>
        if a ∈ path then .ok "(...)"
        else match h.items a with
          | [v] => do return concat ["(", ← inner a v, ",)"]
          | vs => do return concat ["(", join ", " (← vs.mapM (inner a)), ")"]
      | .mapping a =>
        if a ∈ path then .ok "\x7b...\x7d"
        else do return concat ["\x7b", join ", " (← (h.entries a).mapM fun (k, v) => do
          return concat [quoted k, ": ", ← inner a v]), "\x7d"]
      | .builder a => .ok (concat ["StringBuilder(", quoted (h.content a), ")"])
      | .object t a =>
        match h.pairs? a, if t = .declared HostType.cell then h.entries a else [] with
        | some [], _ => .ok (concat [t.name, "()"])
        | some pairs, _ =>
          if a ∈ path then .ok "..."
          else do return concat [t.name, "([", join ", " (← pairs.mapM fun (k, v) => do
            return concat ["(", ← inner a k, ", ", ← inner a v, ")"]), "])"]
        | none, [(_, .text tag), (_, v)] => do
          return concat ["type=", tag, ", value=", ← inner a v]
        | none, _ => .ok (concat ["<", t.qualifiedName, " object>"])
      | .type t => .ok (concat ["<class '", t.qualifiedName, "'>"])

/-- The quoted form; it fails for an integer with too many digits, also within a container. -/
def quoted (h : Heap) (v : Value) : Except HostError Text :=
  quotedWithin h (h.contents.length + 1) [] v

/-- The quoted form of a tuple of values. -/
def quotedTuple (h : Heap) : List Value → Except HostError Text
  | [v] => do return Text.concat ["(", ← quoted h v, ",)"]
  | vs => do return Text.concat ["(", Text.join ", " (← vs.mapM (quoted h)), ")"]

/-- What a value prints as. -/
def display (h : Heap) : Value → Except HostError Text
  | .text t => .ok t
  | .scalar s => .ok s.display
  | .array k items _ => .ok (ArrayText.display k items)
  | .builder a => .ok (h.content a)
  | v => (h.answersOf v).display.getD (quoted h v)

/-- Infinities and `nan` are spelled out; other floating point numbers are shortest decimals. -/
def renderedReal {f : FloatFormat} (rule : PointRule) (x : Binary f) : Text :=
  if x.isNaN then "NaN"
  else if x.isInfinite then if x.isNegative then "-Infinity" else "Infinity"
  else x.render rule

/-- What the interpreted program prints for a value. -/
def rendered (h : Heap) : Value → Except HostError Text
  | .null => .ok "null"
  | .boolean b | .scalar (.boolean b) => .ok (if b then "true" else "false")
  | .scalar (.char c) => .ok (CodePoint.ofNat? c.toNat).toList
  | .scalar (.double x) => .ok (renderedReal .byValue x)
  | .scalar (.float x) => .ok (renderedReal .byValue x)
  | .real x => .ok (renderedReal .byDigits x)
  | v => display h v

end Value

end HostCall
