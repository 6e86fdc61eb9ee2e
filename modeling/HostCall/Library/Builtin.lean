import HostCall.Library.Text
import HostCall.Text.Encoding

/-!
# Built-in types

How the built-in types are called to make values, and the members of lists, tuples and arrays that
the bridge reaches.
-/

namespace HostCall

namespace Value

/-- A value that can stand for a place, within 64 bits. -/
def toIndex (v : Value) : Except HostError Int := do
  let n ← v.toWhole
  if fitsLong n then return n else throw .sizeOverflow

end Value

namespace Library

/-- The items of the list that a member belongs to. -/
def listItems (member : Text) (h : Heap) : Value → Except HostError (List Value)
  | .list a => .ok (h.items a)
  | v => .error (.wrongReceiver member "list" v.errorName)

/-- A bound of a search; negative ones count from the end. -/
def searchBound (length : Nat) (v : Value) : Except HostError Nat := do
  let i ← match v with
    | .integer n => pure n
    | .array .. => throw .scalarIndex
    | v => v.toWhole.mapError fun _ => .badStart
  return (if i < 0 then i + length else i).toNat

def setItems (self : Value) (vs : List Value) : HostM Unit :=
  match self with
  | .list a => HostM.set a (.items vs)
  | _ => return ()

def newList (vs : List Value) : HostM Value := do return .list (← HostM.alloc (.items vs))

/-- Takes an item out of a list. -/
def popItem (self index : Value) : HostM Value := do
  let vs ← HostM.read fun h => listItems "pop" h self
  let i ← HostM.ofExcept index.toIndex
  if vs = [] then throw .popFromEmpty
  let place := if i < 0 then i + vs.length else i
  match if place < 0 then none else vs[place.toNat]? with
  | none => throw .popOutside
  | some v => do
    setItems self (vs.eraseIdx place.toNat)
    return v

def listMembers : List (Text × Member) := [
  ("append", .method (.binary "append" "self" "object" fun self v => do
    let vs ← HostM.read fun h => listItems "append" h self
    setItems self (vs ++ [v])
    return .null)),
  ("copy", .method (.unary "copy" "self" fun self => do
    newList (← HostM.read fun h => listItems "copy" h self))),
  ("count", .method (.binary "count" "self" "value" fun self v => do
    return .integer (← HostM.read fun h => do
      v.countIn h (← listItems "count" h self)))),
  ("index", .method
    { name := "index"
      parameters := [⟨"self", none⟩, ⟨"value", none⟩, ⟨"start", some (.integer 0)⟩,
        ⟨"stop", some (.integer longEnd)⟩]
      body := fun
        | [self, v, start, stop] => HostM.read fun h => do
          let vs ← listItems "index" h self
          let first ← searchBound vs.length start
          let last ← searchBound vs.length stop
          match ← v.indexIn? h first (Value.part first last vs) with
          | some i => return .integer i
          | none => throw (.notInList (← v.quoted h))
        | args => throw (.tooManyArguments "index" 1 3 args.length) }),
  ("pop", .method
    { name := "pop"
      parameters := [⟨"self", none⟩, ⟨"index", some (.integer (-1))⟩]
      body := fun
        | [self, i] => popItem self i
        | args => throw (.tooManyArguments "pop" 0 1 args.length) })]
where
  /-- The end of a search that has no bound. -/
  longEnd : Int := 2 ^ 63 - 1

def arrayMembers : List (Text × Member) := [
  ("tolist", .method
    { name := "tolist", parameters := [], inspectable := false
      body := fun
        | [.array _ items _] => newList (items.map Value.ofScalar)
        | [self] => throw (.wrongReceiver "tolist" "numpy.ndarray" self.errorName)
        | _ => throw (.takesNone "ndarray.tolist") })]

/-! ## Constructors -/

/-- A constructor whose parameters are not known before a call. -/
def hiddenConstructor (name : Text) (body : List Value → HostM Value) : Callable :=
  { name, parameters := [], inspectable := false, body }

/-- A constructor of one argument that may be left out. -/
def optionalConstructor (name p : Text) (default : Value) (body : Value → HostM Value) :
    Callable :=
  { name, parameters := [⟨p, some default⟩]
    body := fun
      | [v] => body v
      | args => throw (.atMost name 1 args.length) }

def plainConstructor (t : HostType) : Callable :=
  .nullary t.name do return .object t (← HostM.alloc (.entries []))

def newInteger : List Value → HostM Value
  | [] => return .integer 0
  | [v] => HostM.integer v.toInteger
  | [v, radix] => HostM.integer do
    let r ← radix.toWhole
    if r ≠ 0 ∧ r < 2 ∨ 36 < r then
      throw (.raised .value "int() base must be >= 2 and <= 36, or 0")
    (v.writtenInteger? r.toNat).getD
      (.error (.raised .type "int() can't convert non-string with explicit base"))
  | args => throw (.atMostGiven "int" 2 args.length)

def newBoolean : List Value → HostM Value
  | [] => return .boolean false
  | [v] => do return .boolean (← HostM.read v.truth)
  | args => throw (.atMost "bool" 1 args.length)

/-- A text that names something: it has bytes, and none of them is zero. -/
def nameArgument (function parameter : Text) : Value → Except HostError Text
  | .text t =>
    match Encoding.unencodable? false t with
    | some f => .error (.encoding f)
    | none =>
      if t.any fun c => c.val = 0 then .error (.raised .value "embedded null character") else .ok t
  | v => .error (.raised .type (Text.concat [function, "() argument '", parameter,
      "' must be str, not ", if v = .null then "None" else v.errorName]))

/-- The text of bytes in a named encoding; no bytes at all are an empty text in every one. -/
def decodedText (v encoding : Value) (handling : Option Value) : Except HostError Text := do
  let encoding ← nameArgument "str" "encoding" encoding
  let handling ← match handling with
    | some w => pure (FaultHandling.ofName (← nameArgument "str" "errors" w))
    | none => pure .strict
  match v, v.buffer? with
  | .text _, _ => throw (.raised .type "decoding str is not supported")
  | _, none => throw (.raised .type (Text.concat
      ["decoding to str: need a bytes-like object, ", v.errorName, " found"]))
  | _, some [] => return []
  | _, some bytes => (Encoding.decodeNamed encoding handling bytes).mapError .encoding

def newText : List Value → HostM Value
  | [] => return .text []
  | [v] => do return .text (← HostM.read v.display)
  | [v, encoding] => HostM.text (decodedText v encoding none)
  | [v, encoding, handling] => HostM.text (decodedText v encoding (some handling))
  | args => throw (.atMostGiven "str" 3 args.length)

def newArray : List Value → HostM Value
  | [] => throw (.raised .type "ndarray() missing required argument 'shape' (pos 1)")
  | v :: _ => do
    let n ← HostM.ofExcept v.toIndex
    if n < 0 then throw (.raised .value "negative dimensions are not allowed")
    return .array .double (List.replicate n.toNat (.double (Binary.zero false))) 0

/-- The built-in types that can be called or have members. -/
def builtinClasses : List (HostType × ClassDecl) := [
  (.object, { construct := plainConstructor .object }),
  (.number, { construct := plainConstructor .number }),
  (.integer, { construct := hiddenConstructor "int" newInteger }),
  (.boolean, { construct := hiddenConstructor "bool" newBoolean }),
  (.text, { construct := hiddenConstructor "str" newText }),
  (.real, { construct := optionalConstructor "float" "x" (.integer 0) fun v => do
      return .real (← HostM.ofExcept v.toReal) }),
  (.list, {
    members := listMembers
    construct := optionalConstructor "list" "iterable" (.text []) fun v => do
      newList (← HostM.read v.iterate) }),
  (.tuple, { construct := optionalConstructor "tuple" "iterable" (.text []) fun v => do
      return .tuple (← HostM.alloc (.items (← HostM.read v.iterate))) }),
  (.array, { members := arrayMembers, construct := hiddenConstructor "ndarray" newArray })]

end Library

end HostCall
