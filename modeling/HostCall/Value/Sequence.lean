import HostCall.Value.Compare

/-!
# Sequences

Length, items, cuts and search over the values that have them: texts, bytes, arrays, lists, tuples,
mappings, and instances whose class answers to them.
-/

namespace HostCall

namespace Value

def length? (h : Heap) : Value → Option Nat
  | .text t => some t.length
  | .bytes bs | .byteArray bs => some bs.length
  | .array _ items _ => some items.length
  | .list a | .tuple a => some (h.items a).length
  | v => (v.entries? h).map List.length

def length (h : Heap) (v : Value) : Except HostError Nat :=
  match v.length? h with
  | some n => .ok n
  | none => (h.answersOf v).length.getD (.error (.noLength v.errorName))

/-- The items that a value gives one after another. -/
def iterate (h : Heap) : Value → Except HostError (List Value)
  | .text t => .ok (t.map fun c => .text [c])
  | .bytes bs | .byteArray bs => .ok (bs.map fun b => .integer b.toNat)
  | .array _ items _ => .ok (items.map .scalar)
  | .list a | .tuple a => .ok (h.items a)
  | v => match v.entries? h with
    | some entries => .ok (entries.map Prod.fst)
    | none => .error (.notIterable v.errorName)

/-- The item at a place within the length, or of an entry whose key is that number. -/
def item (h : Heap) (v : Value) (i : Nat) : Except HostError Value := do
  let found ← match v with
    | .text t => pure ((t[i]?).map fun c => .text [c])
    | .bytes bs | .byteArray bs => pure ((bs[i]?).map fun b => .integer b.toNat)
    | .array _ items _ => pure ((items[i]?).map .scalar)
    | .list a | .tuple a => pure (h.items a)[i]?
    | v => match v.entries? h with
      | some entries => valueOf? h entries (.integer i)
      | none => match (h.answersOf v).item with
        | some f => do pure (some (← f i))
        | none => throw (.notSubscriptable v.errorName)
  match found with
  | some w => .ok w
  | none => .error (.raised .key (Text.ofNat i))

/-- The part of a list from `first` up to `last`. -/
def part {α : Type} (first last : Nat) (l : List α) : List α := (l.take last).drop first

/-- The part of a sequence from `first` up to `last`. -/
def slice (h : Heap) (v : Value) (first last : Nat) : Except HostError (Value × Heap) :=
  match v with
  | .text t => .ok (.text (part first last t), h)
  | .bytes bs => .ok (.bytes (part first last bs), h)
  | .byteArray bs => .ok (.byteArray (part first last bs), h)
  | .array k items _ => .ok (.array k (part first last items) 0, h)
  | .list a =>
    let (p, h) := h.alloc (.items (part first last (h.items a)))
    .ok (.list p, h)
  | .tuple a =>
    let (p, h) := h.alloc (.items (part first last (h.items a)))
    .ok (.tuple p, h)
  | v => match v.entries? h, (h.answersOf v).slice with
    | some _, _ => .error (.unhashable "slice")
    | none, some f => h.take (f first last)
    | none, none => .error (.notSubscriptable v.errorName)

/-- The place of the first item that is the value or equal to it, from `i` on. -/
def indexIn? (h : Heap) (v : Value) : Nat → List Value → Except HostError (Option Nat)
  | _, [] => .ok none
  | i, w :: ws => do
    if ← matches? h w v then return some i else indexIn? h v (i + 1) ws

/-- How many items are the value or equal to it. -/
def countIn (h : Heap) (v : Value) : List Value → Except HostError Nat
  | [] => .ok 0
  | w :: ws => do
    let found ← matches? h w v
    let n ← countIn h v ws
    return if found then n + 1 else n

/-- Whether a value stands in a container. -/
def containsValue (h : Heap) (container v : Value) : Except HostError Bool :=
  match container, v with
  | .text t, .text s => .ok (Text.contains s t)
  | .text _, v => .error (.needsTextBefore v.errorName)
  | .bytes bs, v | .byteArray bs, v =>
    match v.index?, v.buffer? with
    | some n, _ =>
      if 0 ≤ n ∧ n < 256 then .ok (bs.any fun b => b.toNat == n.toNat)
      else .error .byteRange
    | none, some cs => .ok (Text.contains (bytesAsText cs) (bytesAsText bs))
    | none, none => .error (.needsBytes v.errorName)
  | .list a, v | .tuple a, v => do return (← indexIn? h v 0 (h.items a)).isSome
  | container@(.array ..), v => do return (← equalItems h container v).any id
  | container, v => match container.entries? h with
    | some entries => do return (← valueOf? h entries v).isSome
    | none => match (h.answersOf container).contains with
      | some f => f v
      | none => .error (.notAContainer container.errorName)

end Value

end HostCall
