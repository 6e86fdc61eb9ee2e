import HostCall.Proofs.RenderedText

/-!
# Chunks are not seen

A buffer can be reached from any value, and an argument may hold the very buffer that it is appended
to; so what a value is rendered as depends on the heap, and on the text of every buffer in it.  It
does not depend on how those texts are cut.  To say so, the chunks of all buffers are put together:
`Heap.joined` is one heap for all heaps that differ in nothing else, and each function that reads
the heap has one lemma that it reads the same from the joined heap.

Main statement, `received_alike`: a parameter receives the same from heaps that are alike.
-/

namespace HostCall

open Result

theorem Content.joined_joined (c : Content) : c.joined.joined = c.joined := by
  cases c with
  | chunks ts => exact congrArg (fun t => Content.chunks [t]) (List.append_nil _)
  | _ => rfl

namespace Heap

/-- The heap, with the chunks of each buffer put together. -/
def joined (h : Heap) : Heap := { h with contents := h.contents.map Content.joined }

/-- The heaps differ at most in how the texts of buffers are cut into chunks. -/
def Alike (h h' : Heap) : Prop := h.joined = h'.joined

theorem Alike.refl (h : Heap) : h.Alike h := rfl

theorem Alike.symm {h h' : Heap} (ha : h.Alike h') : h'.Alike h := Eq.symm ha

theorem Alike.trans {h h' h'' : Heap} (ha : h.Alike h') (hb : h'.Alike h'') : h.Alike h'' :=
  Eq.trans ha hb

/-! ## What is read -/

variable (h : Heap) (a : Address)

@[simp] theorem length_joined : h.joined.contents.length = h.contents.length := List.length_map _

theorem get?_joined : h.joined.get? a = (h.get? a).map Content.joined := List.getElem?_map

@[simp] theorem items_joined : h.joined.items a = h.items a := by
  rw [items, items, get?_joined]
  cases h.get? a with
  | none => rfl
  | some c => cases c <;> rfl

@[simp] theorem entries_joined : h.joined.entries a = h.entries a := by
  rw [entries, entries, get?_joined]
  cases h.get? a with
  | none => rfl
  | some c => cases c <;> rfl

@[simp] theorem pairs?_joined : h.joined.pairs? a = h.pairs? a := by
  rw [pairs?, pairs?, get?_joined]
  cases h.get? a with
  | none => rfl
  | some c => cases c <;> rfl

@[simp] theorem content_joined : h.joined.content a = h.content a := by
  rw [content, content, chunks, chunks, get?_joined]
  cases h.get? a with
  | none => rfl
  | some c =>
    cases c with
    | chunks ts => exact List.append_nil _
    | _ => rfl

/-- Instances see the texts of buffers, and not the chunks. -/
@[simp] theorem answersOf_joined (v : Value) : h.joined.answersOf v = h.answersOf v := by
  have hcontents : h.joined.contents.map Content.joined = h.contents.map Content.joined := by
    rw [joined, List.map_map]
    exact List.map_congr_left fun c _ => c.joined_joined
  cases v with
  | object t a => exact congrArg (h.answers (.object t a)) hcontents
  | type t => exact congrArg (h.answers (.type t)) hcontents
  | _ => rfl

end Heap

namespace Value

variable (h : Heap)

theorem quotedWithin_joined (fuel : Nat) (path : List Address) (v : Value) :
    quotedWithin h.joined fuel path v = quotedWithin h fuel path v := by
  induction fuel generalizing path v with
  | zero => rfl
  | succ fuel ih =>
    have hinner (a : Address) :
        quotedWithin h.joined fuel (a :: path) = quotedWithin h fuel (a :: path) :=
      funext (ih (a :: path))
    simp only [quotedWithin, hinner, Heap.answersOf_joined, Heap.items_joined,
      Heap.entries_joined, Heap.pairs?_joined, Heap.content_joined]

theorem quoted_joined (v : Value) : v.quoted h.joined = v.quoted h := by
  rw [quoted, quoted, Heap.length_joined, quotedWithin_joined]

theorem display_joined (v : Value) : v.display h.joined = v.display h := by
  cases v with
  | builder a => exact congrArg Except.ok (h.content_joined a)
  | text _ | scalar _ | array _ _ _ => rfl
  | _ => simp only [display, Heap.answersOf_joined, quoted_joined]

theorem rendered_joined (v : Value) : v.rendered h.joined = v.rendered h := by
  unfold rendered
  split <;> first | rfl | exact display_joined h _

theorem castRefused_joined (k : Kind) (v : Value) :
    castRefused h.joined k v = castRefused h k v := by
  funext e
  simp only [castRefused, quoted_joined]

theorem narrowTo_joined (k : Kind) (v : Value) : v.narrowTo h.joined k = v.narrowTo h k := by
  simp only [narrowTo, castRefused_joined]

theorem narrow_joined (d : Text) (v : Value) : v.narrow h.joined d = v.narrow h d := by
  simp only [narrow, narrowTo_joined]

end Value

theorem coerce_joined (zeroAsNull : Bool) (h : Heap) (c : Cell) (p : ValueType) (position : Int) :
    coerce zeroAsNull h.joined c p position = coerce zeroAsNull h c p position := by
  simp only [coerce, Value.narrow_joined]

theorem Resolver.received_joined (r : Resolver) (h : Heap) (p : ValueType) (c : Cell) :
    r.received h.joined p c = r.received h p c := by
  simp only [received, coerced, coerce_joined]

/-- What is rendered does not depend on the chunks. -/
theorem Value.rendered_alike {h h' : Heap} (ha : h.Alike h') (v : Value) :
    v.rendered h = v.rendered h' := by
  rw [← rendered_joined h, ha, rendered_joined]

/-- What a parameter receives does not depend on the chunks. -/
theorem Resolver.received_alike {h h' : Heap} (ha : h.Alike h') (r : Resolver) (p : ValueType)
    (c : Cell) : r.received h p c = r.received h' p c := by
  rw [← received_joined, ha, received_joined]

namespace Heap

/-! ## What is written -/

/-- The heap with a text in a buffer. -/
def hold (h : Heap) (b : Address) (t : Text) : Heap := h.set b (.chunks [t])

/-- The heap is the other with a text in a buffer, but for the chunks. -/
def Represents (h' h : Heap) (b : Address) (t : Text) : Prop := (h.hold b t).Alike h'

variable {h h' : Heap} {b : Address} {t : Text}

theorem joined_set (c : Content) : (h.set b c).joined = h.joined.set b c.joined :=
  congrArg (Heap.mk · h.answers) List.map_set

theorem set_set (c c' : Content) : (h.set b c).set b c' = h.set b c' :=
  congrArg (Heap.mk · h.answers) (List.set_set ..)

/-- Whatever chunks are put into the buffer, they stand for the text that they make. -/
theorem Represents.set (hb : Represents h' h b t) (ts : List Text) :
    Represents (h'.set b (.chunks ts)) h b ts.flatten := by
  have hjoined : (Content.chunks [ts.flatten]).joined = (Content.chunks ts).joined :=
    congrArg (fun t => Content.chunks [t]) (List.append_nil _)
  calc (h.hold b ts.flatten).joined
      = ((h.hold b t).set b (.chunks [ts.flatten])).joined := by rw [hold, hold, set_set]
    _ = (h.hold b t).joined.set b (Content.chunks ts).joined := by rw [joined_set, hjoined]
    _ = (h'.set b (.chunks ts)).joined := by rw [hb, joined_set]

theorem Represents.content_eq (hb : Represents h' h b t) (hplace : b < h.contents.length) :
    h'.content b = t := by
  have hheld : (h.hold b t).content b = t := by
    rw [content, chunks, hold, get?_set hplace, if_pos rfl]
    exact List.append_nil t
  rw [← content_joined, ← hb, content_joined, hheld]

theorem Represents.append (hb : Represents h' h b t) (hplace : b < h.contents.length) (x : Text) :
    Represents (h'.append b x) h b (t ++ x) := by
  have hset := hb.set (h'.chunks b ++ [x])
  have htext : (h'.chunks b ++ [x]).flatten = t ++ x := by
    rw [List.flatten_append, ← content, hb.content_eq hplace]
    exact congrArg (t ++ ·) (List.append_nil x)
  rwa [htext] at hset

theorem Represents.reverse (hb : Represents h' h b t) (hplace : b < h.contents.length) :
    Represents (h'.reverse b) h b t.reverse := by
  have hset := hb.set [t.reverse]
  rw [Heap.reverse, hb.content_eq hplace]
  rwa [List.flatten_singleton] at hset

end Heap

end HostCall
