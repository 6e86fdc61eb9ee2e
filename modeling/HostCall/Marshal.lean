import HostCall.Frame
import HostCall.Resolver
import HostCall.Value.Arithmetic

/-!
# Arguments from registers

The parameters of a call are read from its frame in order.  A cell tagged as a primitive or a boxed
primitive is narrowed to what the callee declares; a numeric zero that is meant for a class or an
array other than the universal type becomes null.
-/

namespace HostCall

/-- Values of the arguments and the host types of their parameters. -/
structure Arguments where
  values : List Value
  types : List HostType
  deriving DecidableEq

/-- A numeric zero. -/
def Value.isZeroNumber (v : Value) : Bool :=
  v.isNumeric && match v.number? with
    | some x => x.isZero
    | none => false

/-- The value of a cell as the parameter at a position expects it. -/
def coerce (zeroAsNull : Bool) (h : Heap) (c : Cell) (expected : ValueType) (position : Int) :
    Except ArgumentError Value :=
  match c.value with
  | .null => .ok .null
  | .unknown => .error (.mismatch (.unknownParameter position expected.descriptor))
  | v =>
    if c.isPrimitiveOrWrapper then v.narrow h expected.descriptor
    else if zeroAsNull && expected.isReference && !expected.isObject && v.isZeroNumber then
      .ok .null
    else .ok v

section

variable {σ : Type} [RegisterFile σ]

/-- The arguments of the parameters that begin at `register`. -/
def marshalFrom (r : Resolver) (h : Heap) (frame : σ) (count : Nat) :
    Nat → Nat → List ValueType → Except Failure Arguments
  | _, _, [] => .ok ⟨[], []⟩
  | position, register, p :: ps => do
    if register + p.width > count then
      throw (.bridge (.mismatch (.noRegister position p.descriptor register p.width count)))
    let cell ← (RegisterFile.peek frame register).mapError .host
    let v ← (coerce r.settings.zeroAsNull h cell p position).mapError ArgumentError.toFailure
    let t ← r.hostType p
    let rest ← marshalFrom r h frame count (position + 1) (register + p.width) ps
    return ⟨v :: rest.values, t :: rest.types⟩

/-- The arguments of a call, read from its frame. -/
def marshal (r : Resolver) (h : Heap) (frame : σ) (s : Signature) : Except Failure Arguments := do
  let count ← (RegisterFile.count frame).mapError .host
  if count < s.receiverWidth then throw (.bridge (.mismatch .noReceiver))
  marshalFrom r h frame count 0 s.receiverWidth s.parameters

theorem marshal_of_count {r : Resolver} {h : Heap} {frame : σ} {s : Signature} {n : Nat}
    (hn : RegisterFile.count frame = .ok n) :
    marshal r h frame s = if n < s.receiverWidth then .error (.bridge (.mismatch .noReceiver))
      else marshalFrom r h frame n 0 s.receiverWidth s.parameters := by
  rw [marshal, hn]
  by_cases hs : n < s.receiverWidth
  · rw [if_pos hs]
    show (if n < s.receiverWidth then _ else _) = _
    rw [if_pos hs]
    rfl
  · rw [if_neg hs]
    show (if n < s.receiverWidth then _ else _) = _
    rw [if_neg hs]

end

end HostCall
