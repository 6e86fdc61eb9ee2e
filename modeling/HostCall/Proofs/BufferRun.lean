import HostCall.Proofs.ChunkView
import HostCall.Proofs.Rebuild

/-!
# A buffer is one text

A buffer is made, and appended to, reversed and read by calls in any order.  Beside it runs a plain
text: what a call answers on a text, and the text after it, is `BufferCall.onText`, which knows of
no chunks.  An argument may itself hold the buffer, so that what is appended is rendered in the heap
where the buffer has that text.

`represents_perform` is one call: it keeps the buffer and the text together.  Main statement,
`construct_behaves`: whichever way a buffer is made, all runs of calls answer as on the text that it
is made with.  What has no text is not appended, and leaves both as they were.
-/

namespace HostCall

open Result Library

/-! ## Calls on a buffer and on a text -/

/-- A call on a buffer, with the cell of its argument. -/
inductive BufferCall where
  | append (p : ValueType) (c : Cell)
  | reverse
  | toString
  | length
  | charAt (c : Cell)

/-- The item of a text at an index within it. -/
def Text.itemAt? (t : Text) (i : Int) : Option CodePoint := if 0 ≤ i then t[i.toNat]? else none

namespace BufferCall

def signature (name : Text) (parameters : List ValueType) (returnType : Text) : Signature :=
  ⟨builderDescriptor, builderClass.name, name, parameters, returnType, false⟩

/-- The call on the buffer at a place. -/
def perform (b : Address) : BufferCall → BridgeM Value
  | append p c => Resolver.standard.reflect (appendSignature p) (.value (.builder b)) [.cell c]
  | reverse => Resolver.standard.reflect (signature "reverse" [] builderDescriptor)
      (.value (.builder b)) []
  | toString => Resolver.standard.reflect (signature "toString" [] textDescriptor)
      (.value (.builder b)) []
  | length => Resolver.standard.reflect (signature "length" [] "I") (.value (.builder b)) []
  | charAt c => Resolver.standard.reflect (signature "charAt" [.primitive .int] "C")
      (.value (.builder b)) [.cell c]

/-- The char of a text at an index. -/
def charOf (t : Text) (i : Int) : Except Failure Value :=
  match t.itemAt? i with
  | some x => .ok (.scalar (.char (UInt16.ofInt x.val)))
  | none =>
    .error (.bridge (.target (Resolver.label builderClass "charAt") (.indexOutside i t.length)))

/-- What the call answers on a text, and the text after it; the heap is that around the buffer. -/
def onText (h : Heap) (b : Address) (t : Text) : BufferCall → Except Failure Value × Text
  | append p c =>
    match Resolver.standard.received (h.hold b t) p c with
    | .ok a => match a.rendered (h.hold b t) with
      | .ok x => (.ok (.builder b), t ++ x)
      | .error e => (.error (.wrapping e (.target (Resolver.label builderClass "append") e)), t)
    | .error e => (.error e, t)
  | reverse => (.ok (.builder b), t.reverse)
  | toString => (.ok (.text t), t)
  | length => (.ok (.int32 t.length), t)
  | charAt c =>
    (Resolver.standard.received (h.hold b t) (.primitive .int) c >>= fun a =>
      charOf t (a.index?.getD 0), t)

/-- What is appended is declared for `append`, and what is read is a char. -/
def Fair (h : Heap) (b : Address) (t : Text) : BufferCall → Prop
  | append p c => p ∈ appendParameters ∧ c.value.WellTyped
  | charAt c => c.value.WellTyped ∧
      ∀ a, Resolver.standard.received (h.hold b t) (.primitive .int) c = .ok a →
        ∀ x, t.itemAt? (a.index?.getD 0) = some x → x.val < 2 ^ 16
  | _ => True

/-! ## One call -/

variable {h h' : Heap} {b : Address} {t : Text}

theorem reverse_apply (b : Address) (h : Heap) :
    reverse.perform b h = (.ok (.builder b), h.reverse b) := by
  obtain ⟨space, f, hmember, harity, hcall⟩ : ∃ space f,
      Resolver.standard.instanceMember? builderClass "reverse" (Value.builder b).typeOf =
        some (space, .method f) ∧ f.bindFault? 1 = none ∧
      f.call [.builder b] h = (.ok (.builder b), h.reverse b) := ⟨_, _, rfl, rfl, rfl⟩
  exact Resolver.reflect_method_received (v := .builder b)
    (s := signature "reverse" [] builderDescriptor) [] rfl rfl rfl Resolver.resolveClass_builder
    rfl rfl (by simp) (by simp) hmember harity hcall

/-- No reading of a char changes the heap. -/
theorem charAt_apply (b : Address) (c : Cell) (h : Heap) :
    (charAt c).perform b h =
      (Resolver.standard.received h (.primitive .int) c >>= fun a =>
        ((codeAt h (.text (h.content b)) a).map .scalar).mapError
          fun e => .wrapping e (.target (Resolver.label builderClass "charAt") e), h) := by
  obtain ⟨space, f, hmember, harity, hcall⟩ := (Chars.buffer b).exists_charAt
  exact Resolver.reflect_method_cell (v := .builder b)
    (s := signature "charAt" [.primitive .int] "C") rfl rfl rfl Resolver.resolveClass_builder rfl
    rfl (by simp) (by simp) hmember rfl harity fun a => hcall a h

/-- The code of an item is that of the char at its index. -/
theorem codeAt_eq_charOf (h : Heap) (t : Text) (i : Int32)
    (hunit : ∀ x, t.itemAt? i.toInt = some x → x.val < 2 ^ 16) :
    (((codeAt h (.text t) (.scalar (.int i))).map .scalar).mapError
      fun e => .wrapping e (.target (Resolver.label builderClass "charAt") e)) =
        charOf t i.toInt := by
  by_cases hi : 0 ≤ i.toInt ∧ i.toInt < t.length
  · have hnat : ((i.toInt.toNat : Nat) : Int) = i.toInt := Int.toNat_of_nonneg hi.1
    have hlt : i.toInt.toNat < t.length := by omega
    have hx : t[i.toInt.toNat]? = some t[i.toInt.toNat] := List.getElem?_eq_getElem hlt
    have hitem : t.itemAt? i.toInt = some t[i.toInt.toNat] := (if_pos hi.1).trans hx
    have hbound : i.toInt.toNat < 2 ^ 31 := by
      have := i.toInt_lt
      omega
    have hcode := Chars.codeAt_eq hbound hx h
    rw [hnat, Int32.ofInt_toInt] at hcode
    have hmade : Value.integerToScalar .char t[i.toInt.toNat].val =
        .ok (.char (UInt16.ofInt t[i.toInt.toNat].val)) := by
      have := hunit _ hitem
      exact (Value.integerToScalar_eq_ok_iff rfl (by decide)).2 ⟨⟨by omega, by omega⟩, rfl⟩
    rw [charOf, hitem, hcode, hmade]
    rfl
  · have hitem : t.itemAt? i.toInt = none := by
      rw [Text.itemAt?]
      split
      · exact List.getElem?_eq_none (by omega)
      · rfl
    have hindex : (Value.scalar (.int i)).toInteger = .ok i.toInt := rfl
    have hlength : (Value.text t).length h = .ok t.length := rfl
    rw [charOf, hitem, codeAt, hindex, ok_bind, hlength, ok_bind, if_neg hi,
      HostError.citing_of_writable (isWritable_toInt i)]
    rfl

/-- **One call keeps the buffer and the text together**, and answers on both alike. -/
theorem represents_perform (c : BufferCall) (hb : h'.Represents h b t)
    (hplace : b < h.contents.length) (hlen : t.length < 2 ^ 31) (hc : c.Fair h b t) :
    (c.perform b h').1 = (c.onText h b t).1 ∧
      (c.perform b h').2.Represents h b (c.onText h b t).2 := by
  have hcontent := hb.content_eq hplace
  cases c with
  | append p c =>
    obtain ⟨hp, hwell⟩ := hc
    have happly := Resolver.reflect_append (h := h') hp hwell b builderDescriptor
    rw [← Resolver.received_alike hb] at happly
    have hperform : (append p c).perform b h' = Resolver.standard.reflect (appendSignature p)
        (.cell ⟨.builder b, builderDescriptor⟩) [.cell c] h' := rfl
    rw [hperform, happly, onText]
    cases Resolver.standard.received (h.hold b t) p c with
    | error e => exact ⟨rfl, hb⟩
    | ok a =>
      dsimp only
      rw [← Value.rendered_alike hb]
      cases a.rendered (h.hold b t) with
      | error e => exact ⟨rfl, hb⟩
      | ok x => exact ⟨rfl, hb.append hplace x⟩
  | reverse =>
    rw [reverse_apply]
    exact ⟨rfl, hb.reverse hplace⟩
  | toString =>
    have happly : toString.perform b h' = (.ok (.text (h'.content b)), h') :=
      bufferToString_apply b h'
    rw [happly, hcontent]
    exact ⟨rfl, hb⟩
  | length =>
    have happly : length.perform b h' =
        (.ok (.scalar (.int (Int32.ofInt (h'.content b).length))), h') :=
      Chars.length_of_lt (c := .buffer b) (lt_of_eq_of_lt (congrArg List.length hcontent) hlen)
    rw [happly, hcontent]
    exact ⟨rfl, hb⟩
  | charAt c =>
    obtain ⟨hwell, hunit⟩ := hc
    rw [charAt_apply, ← Resolver.received_alike hb, hcontent]
    refine ⟨?_, hb⟩
    cases hreceived : Resolver.standard.received (h.hold b t) (.primitive .int) c with
    | error e => simp only [onText, hreceived]; rfl
    | ok a =>
      obtain ⟨s, rfl, hs⟩ := Resolver.admits_of_received hwell hreceived .int rfl
      cases s with
      | int i =>
        simp only [onText, hreceived]
        exact codeAt_eq_charOf h' t i fun x hx => hunit _ hreceived x hx
      | _ => cases hs

/-! ## Runs of calls -/

/-- Calls one after another on the buffer at a place; a failure does not end the run. -/
def performAll (b : Address) : List BufferCall → Heap → List (Except Failure Value) × Heap
  | [], h => ([], h)
  | c :: cs, h =>
    let (x, h) := c.perform b h
    let (xs, h) := performAll b cs h
    (x :: xs, h)

/-- The same calls on a text. -/
def onTextAll (h : Heap) (b : Address) : Text → List BufferCall → List (Except Failure Value) × Text
  | t, [] => ([], t)
  | t, c :: cs =>
    let (x, t) := c.onText h b t
    let (xs, t) := onTextAll h b t cs
    (x :: xs, t)

/-- Each call is fair where it is made, on a text whose length is an `int`. -/
def FairAll (h : Heap) (b : Address) : Text → List BufferCall → Prop
  | _, [] => True
  | t, c :: cs => t.length < 2 ^ 31 ∧ c.Fair h b t ∧ FairAll h b (c.onText h b t).2 cs

/-- A run keeps the buffer and the text together, and answers on both alike. -/
theorem represents_performAll {calls : List BufferCall} (hb : h'.Represents h b t)
    (hplace : b < h.contents.length) (hcalls : FairAll h b t calls) :
    (performAll b calls h').1 = (onTextAll h b t calls).1 ∧
      (performAll b calls h').2.Represents h b (onTextAll h b t calls).2 := by
  induction calls generalizing h' t with
  | nil => exact ⟨rfl, hb⟩
  | cons c cs ih =>
    obtain ⟨hlen, hc, hcs⟩ := hcalls
    obtain ⟨hanswer, hnext⟩ := represents_perform c hb hplace hlen hc
    obtain ⟨hanswers, hlast⟩ := ih hnext hcs
    exact ⟨congrArg₂ List.cons hanswer hanswers, hlast⟩

/-- The buffer at a place is one text to every run of fair calls. -/
structure BehavesAs (h : Heap) (b : Address) (t : Text) : Prop where
  /-- Each run answers as on the text. -/
  answers : ∀ calls, FairAll h b t calls → (performAll b calls h).1 = (onTextAll h b t calls).1
  /-- Each run leaves the text that it leaves of the text, and all else on the heap as it was. -/
  content : ∀ calls, FairAll h b t calls →
    (performAll b calls h).2.Represents h b (onTextAll h b t calls).2 ∧
      (performAll b calls h).2.content b = (onTextAll h b t calls).2
  /-- Other chunks answer alike. -/
  unseen : ∀ calls h', FairAll h b t calls → h.Alike h' →
    (performAll b calls h').1 = (performAll b calls h).1
  /-- Behind each run, a reading that fails changes nothing. -/
  failing : ∀ calls c e h', FairAll h b t calls →
    (charAt c).perform b (performAll b calls h).2 = (.error e, h') → h' = (performAll b calls h).2
  /-- Behind each run, two reversals restore the content. -/
  restored : ∀ calls, FairAll h b t calls →
    (performAll b [.reverse, .reverse] (performAll b calls h).2).2.content b =
      (performAll b calls h).2.content b

theorem behavesAs_of_represents (hb : h.Represents h b t) (hplace : b < h.contents.length) :
    BehavesAs h b t where
  answers calls hcalls := (represents_performAll hb hplace hcalls).1
  content calls hcalls :=
    have hlast := (represents_performAll hb hplace hcalls).2
    ⟨hlast, hlast.content_eq hplace⟩
  unseen calls h' hcalls halike :=
    have hb' : h'.Represents h b t := Heap.Alike.trans hb halike
    (represents_performAll hb' hplace hcalls).1.trans
      (represents_performAll hb hplace hcalls).1.symm
  failing calls c e h' _ hfailed := by
    rw [charAt_apply] at hfailed
    exact (Prod.mk.inj hfailed).2.symm
  restored calls hcalls := by
    have hlast := (represents_performAll hb hplace hcalls).2
    have htwice := (hlast.reverse hplace).reverse hplace
    rw [List.reverse_reverse] at htwice
    have hrun : performAll b [.reverse, .reverse] (performAll b calls h).2 =
        ([.ok (.builder b), .ok (.builder b)], ((performAll b calls h).2.reverse b).reverse b) := by
      simp only [performAll, reverse_apply]
    rw [hrun, hlast.content_eq hplace]
    exact htwice.content_eq hplace

end BufferCall

/-! ## Buffers that are made -/

/-- The ways to make a buffer, with the cell of the argument. -/
inductive BufferConstruction where
  | empty
  | ofText (c : Cell)
  | ofCapacity (c : Cell)

namespace BufferConstruction

def signature (parameters : List ValueType) : Signature :=
  ⟨builderDescriptor, builderClass.name, constructorName, parameters, "V", false⟩

/-- The call that makes a buffer. -/
def perform (receiver : Argument) : BufferConstruction → BridgeM Value
  | empty => Resolver.standard.reflect (signature []) receiver []
  | ofText c => Resolver.standard.reflect (signature [.reference textDescriptor]) receiver [.cell c]
  | ofCapacity c => Resolver.standard.reflect (signature [.primitive .int]) receiver [.cell c]

/-- The argument has its own type, and what has the type of texts is a text. -/
def WellTyped : BufferConstruction → Prop
  | empty => True
  | ofText c => ∀ place, c.value ≠ .object .text place
  | ofCapacity c => c.value.WellTyped

def failure (e : HostError) : Failure :=
  .bridge (.target (Resolver.label builderClass constructorName) e)

/-- The text that the buffer is made with. -/
def text (h : Heap) : BufferConstruction → Except Failure Text
  | empty => .ok []
  | ofText c =>
    Resolver.standard.received h (.reference textDescriptor) c >>= fun
      | .text t => .ok t
      | _ => .error (failure (.nullArgument "StringBuilder"))
  | ofCapacity c =>
    Resolver.standard.received h (.primitive .int) c >>= fun a =>
      let n := a.index?.getD 0
      if n < 0 then .error (failure (.negativeCapacity n)) else .ok []

/-! ## What is made -/

variable {h : Heap}

/-- Where a text is declared, null or a text is received. -/
theorem null_or_text_of_received {c : Cell} {a : Value}
    (hc : ∀ place, c.value ≠ .object .text place)
    (ha : Resolver.standard.received h (.reference textDescriptor) c = .ok a) :
    a = .null ∨ ∃ t, a = .text t := by
  obtain ⟨v, hv, ha⟩ := bind_eq_ok_iff.1 ha
  obtain ⟨t, ht, ha⟩ := bind_eq_ok_iff.1 ha
  obtain rfl := Except.ok.inj
    ((Passage.hostType_text Resolver.bindsLibrary_standard).symm.trans ht)
  have hcoerced : v = .null ∨ v = c.value := by
    have hcoerce := mapError_eq_ok_iff.1 hv
    unfold coerce at hcoerce
    split at hcoerce
    · exact .inl (Except.ok.inj hcoerce).symm
    · cases hcoerce
    · split at hcoerce
      · exact .inr (Except.ok.inj hcoerce).symm
      · split at hcoerce
        · exact .inl (Except.ok.inj hcoerce).symm
        · exact .inr (Except.ok.inj hcoerce).symm
  rcases Value.cases_of_adapt_text (mapError_eq_ok_iff.1 ha) with hnull | ⟨htype, rfl⟩ | ht
  · exact .inl hnull
  · cases a with
    | text t => exact .inr ⟨t, rfl⟩
    | object t place =>
      obtain rfl : t = .text := htype
      rcases hcoerced with hnull | hvalue
      · cases hnull
      · exact absurd hvalue.symm (hc place)
    | _ => cases htype
  · exact .inr ht

/-- The variants that make buffers, by the types of their parameters. -/
theorem exists_variant : ∃ vs, Universe.standard.member? builderClass.members
      Resolver.constructorHook = some (.variants "new_instance" vs) ∧
    (∀ e ∈ vs, e.1 ⊆ variantDescriptors) ∧
    (vs.map fun e => e.1.map namedType).Nodup ∧
    (∃ f, ([], f) ∈ vs ∧ ∀ h, f.call [] h = newBuffer [] h) ∧
    (∃ f, ([textDescriptor], f) ∈ vs ∧
      (∀ h, f.call [.null] h = (.error (.nullArgument "StringBuilder"), h)) ∧
      ∀ t h, f.call [.text t] h = newBuffer t h) ∧
    ∃ f, ((["I"] : List Text), f) ∈ vs ∧ ∀ (n : Int32) h, f.call [.scalar (.int n)] h =
      if n.toInt < 0 then (.error (.negativeCapacity n.toInt), h) else newBuffer [] h := by
  refine ⟨_, rfl, by decide, by decide, ⟨_, List.mem_of_getElem? (i := 0) rfl, fun h => rfl⟩,
    ⟨_, List.mem_of_getElem? (i := 1) rfl, fun h => rfl, fun t h => rfl⟩,
    _, List.mem_of_getElem? (i := 2) rfl, fun n h => ?_⟩
  show ExceptT.bindCont (fun _ => newBuffer []) (checkCapacity (.scalar (.int n))) h = _
  have hcheck : checkCapacity (.scalar (.int n)) =
      if n.toInt < 0 then .error (.negativeCapacity n.toInt) else .ok () := by
    rw [← HostError.citing_of_writable (isWritable_toInt n) (.negativeCapacity n.toInt)]
    rfl
  rw [hcheck]
  split <;> rfl

theorem empty_apply (receiver : Argument) (h : Heap) :
    empty.perform receiver h = (.ok (.builder h.contents.length), (h.allocBuffer []).2) := by
  obtain ⟨vs, hmember, hvs, hnodup, ⟨f, hf, hcall⟩, -⟩ := exists_variant
  have hselect := Resolver.select_variant "new_instance" builderClass.name hvs hnodup hf
  have hw := Resolver.bindsLibrary_standard.variantTypes_named (hvs _ hf) f
  have hplan : Resolver.standard.planConstructor builderClass ⟨[], []⟩ =
      .ok ⟨⟨f, []⟩, Resolver.label builderClass constructorName, []⟩ := by
    have hhook : Resolver.standard.world.member? builderClass.members Resolver.constructorHook =
        some (.variants "new_instance" vs) := hmember
    rw [Resolver.planConstructor, hhook]
    exact Resolver.planOverload_received [] hselect hw
  rw [perform, Resolver.reflect_constructor rfl rfl rfl Resolver.resolveClass_builder]
  show Resolver.standard.invokeConstructor builderClass ⟨[], []⟩ h = _
  rw [Resolver.invokeConstructor_apply, hplan]
  exact Resolver.perform_eq (c := ⟨⟨f, []⟩, _, []⟩) (hcall h)

/-- A buffer is made by a variant with one parameter from what it receives. -/
theorem apply_of_variant {p : ValueType} {vs : List (List Text × Callable)} {f : Callable}
    (hp : p ∈ appendParameters)
    (hmember : Universe.standard.member? builderClass.members Resolver.constructorHook =
      some (.variants "new_instance" vs)) (hvs : ∀ e ∈ vs, e.1 ⊆ variantDescriptors)
    (hnodup : (vs.map fun e => e.1.map namedType).Nodup) (hf : ([p.descriptor], f) ∈ vs)
    (receiver : Argument) (c : Cell) (h : Heap) :
    Resolver.standard.reflect (signature [p]) receiver [.cell c] h =
      match Resolver.standard.received h p c with
      | .ok a => (Call.mk ⟨f, []⟩ (Resolver.label builderClass constructorName) [a]).perform h
      | .error e => (.error e, h) :=
  Resolver.reflect_variant_constructor rfl rfl rfl Resolver.resolveClass_builder hmember
    (Resolver.hostType_named hp) (Resolver.select_variant "new_instance" _ hvs hnodup hf)
    (Resolver.bindsLibrary_standard.variantTypes_named (hvs _ hf) f)

/-- A buffer is made with its text, or the making fails and leaves the heap. -/
theorem perform_apply (k : BufferConstruction) (hk : k.WellTyped) (receiver : Argument) (h : Heap) :
    k.perform receiver h =
      match k.text h with
      | .ok t => (.ok (.builder h.contents.length), (h.allocBuffer t).2)
      | .error e => (.error e, h) := by
  obtain ⟨vs, hmember, hvs, hnodup, -, ⟨f, hf, hnull, htext⟩, g, hg, hcapacity⟩ := exists_variant
  cases k with
  | empty => exact empty_apply receiver h
  | ofText c =>
    rw [perform, text,
      apply_of_variant (p := .reference textDescriptor) (by decide) hmember hvs hnodup hf]
    cases hreceived : Resolver.standard.received h (.reference textDescriptor) c with
    | error e => rfl
    | ok a =>
      rcases null_or_text_of_received hk hreceived with rfl | ⟨t, rfl⟩
      · exact Resolver.perform_eq (c := ⟨⟨f, []⟩, _, [.null]⟩) (hnull h)
      · exact Resolver.perform_eq (c := ⟨⟨f, []⟩, _, [.text t]⟩) (htext t h)
  | ofCapacity c =>
    rw [perform, text, apply_of_variant (p := .primitive .int) (by decide) hmember hvs hnodup hg]
    cases hreceived : Resolver.standard.received h (.primitive .int) c with
    | error e => rfl
    | ok a =>
      obtain ⟨s, rfl, hs⟩ := Resolver.admits_of_received hk hreceived .int rfl
      cases s with
      | int n =>
        have hcall := hcapacity n h
        have hindex : (Value.scalar (.int n)).index?.getD 0 = n.toInt := rfl
        rw [ok_bind, hindex]
        dsimp only
        by_cases hn : n.toInt < 0
        · rw [if_pos hn] at hcall ⊢
          exact Resolver.perform_eq (c := ⟨⟨g, []⟩, _, [.scalar (.int n)]⟩) hcall
        · rw [if_neg hn] at hcall ⊢
          exact Resolver.perform_eq (c := ⟨⟨g, []⟩, _, [.scalar (.int n)]⟩) hcall
      | _ => cases hs

end BufferConstruction

namespace Heap

theorem represents_of_get? {h : Heap} {b : Address} {ts : List Text}
    (hb : h.get? b = some (.chunks ts)) : h.Represents h b ts.flatten := by
  have hget : h.joined.contents[b]? = some (.chunks [ts.flatten]) := by
    have hjoined := h.get?_joined b
    rwa [hb] at hjoined
  have hself : h.joined.contents.set b (.chunks [ts.flatten]) = h.joined.contents := by
    obtain ⟨hlt, hitem⟩ := List.getElem?_eq_some_iff.1 hget
    rw [← hitem]
    exact List.set_getElem_self hlt
  have hjoined : (Content.chunks [ts.flatten]).joined = .chunks [ts.flatten] :=
    congrArg (fun t => Content.chunks [t]) (List.append_nil _)
  rw [Represents, Alike, hold, joined_set, hjoined]
  exact congrArg (Heap.mk · h.answers) hself

theorem represents_allocBuffer (h : Heap) (t : Text) :
    (h.allocBuffer t).2.Represents (h.allocBuffer t).2 h.contents.length t := by
  have hget : (h.allocBuffer t).2.get? h.contents.length =
      some (.chunks (if t = [] then [] else [t])) := h.get?_alloc _
  have hrepresents := represents_of_get? hget
  have htext : (if t = [] then [] else [t]).flatten = t := by
    by_cases ht : t = [] <;> simp [ht]
  rwa [htext] at hrepresents

end Heap

/-- **A buffer is one text.**  However a buffer is made, a failure makes none and leaves the heap.
Otherwise the buffer is new, what is on the heap stays, and every run of fair calls on it answers as
on the text that it is made with. -/
theorem construct_behaves (k : BufferConstruction) (hk : k.WellTyped) (receiver : Argument)
    (h : Heap) :
    (∀ e, k.text h = .error e → k.perform receiver h = (.error e, h)) ∧
    ∀ t, k.text h = .ok t → ∃ b h', k.perform receiver h = (.ok (.builder b), h') ∧
      (∀ a < h.contents.length, a ≠ b ∧ h'.get? a = h.get? a) ∧ BufferCall.BehavesAs h' b t := by
  have happly := k.perform_apply hk receiver h
  refine ⟨fun e he => ?_, fun t ht => ?_⟩
  · rw [happly, he]
  · rw [happly, ht]
    have hplace : h.contents.length < (h.allocBuffer t).2.contents.length := by
      simp [Heap.allocBuffer, Heap.alloc]
    exact ⟨_, _, rfl, fun a ha => ⟨Nat.ne_of_lt ha, Heap.get?_alloc_of_lt ha⟩,
      BufferCall.behavesAs_of_represents (Heap.represents_allocBuffer h t) hplace⟩

/-- A buffer that is appended to and reversed. -/
theorem construct_behaves_reversed :
    let k : BufferConstruction := .ofText ⟨.text "ab", textDescriptor⟩
    k.WellTyped ∧ ∃ b h', k.perform (.value .null) {} = (.ok (.builder b), h') ∧
      (BufferCall.performAll b [.append (.primitive .char) ⟨.integer 99, "I"⟩, .reverse, .toString]
        h').1 = [.ok (.builder b), .ok (.builder b), .ok (.text "cba")] := by
  intro k
  have hk : k.WellTyped := fun place hvalue => by cases hvalue
  have hreceived : Resolver.standard.received {} (.reference textDescriptor)
      ⟨.text "ab", textDescriptor⟩ = .ok (.text "ab") := (Passage.text "ab").received_eq {}
  have htext : k.text {} = .ok "ab" := by
    simp only [k, BufferConstruction.text, hreceived]
    rfl
  obtain ⟨b, h', hperform, -, hbehaves⟩ := (construct_behaves k hk (.value .null) {}).2 "ab" htext
  have hwell : (Value.integer 99).WellTyped := fun k hk => by cases hk
  have hshort : 3 < 2 ^ 31 := by decide
  have hfair : BufferCall.FairAll h' b "ab"
      [.append (.primitive .char) ⟨.integer 99, "I"⟩, .reverse, .toString] :=
    ⟨by decide, ⟨by decide, hwell⟩, hshort, trivial, hshort, trivial, trivial⟩
  exact ⟨hk, b, h', hperform, hbehaves.answers _ hfair⟩

namespace BufferCall

/-- An integer with too many digits is not appended. -/
theorem append_of_not_writable {n : Int} (hn : isWritable n = false) (b : Address) (h : Heap) :
    (append (.reference objectDescriptor) ⟨.integer n, objectDescriptor⟩).perform b h =
      (.error (.bridge (.target (Resolver.label builderClass "append") .numeralTooLong)), h) := by
  have hp : ValueType.reference objectDescriptor ∈ appendParameters := by decide
  have hc : (Value.integer n).WellTyped := fun k hk => by cases hk
  have hreceived : Resolver.standard.received h (.reference objectDescriptor)
      ⟨.integer n, objectDescriptor⟩ = .ok (.integer n) :=
    (Passage.object Resolver.bindsLibrary_standard (by simp) (by simp)).received_eq h
  have hrendered : (Value.integer n).rendered h = .error .numeralTooLong := by
    rw [Value.rendered_integer, decimalText, hn]
    rfl
  refine (Resolver.reflect_append hp hc b builderDescriptor).trans ?_
  rw [hreceived]
  dsimp only
  rw [hrendered]
  rfl

/-- The call is fair, and neither answers the buffer nor adds anything to it. -/
theorem not_appends_long_numeral :
    let c : BufferCall :=
      .append (.reference objectDescriptor) ⟨.integer (10 ^ digitLimit), objectDescriptor⟩
    let h : Heap := { contents := [.chunks ["x"]] }
    c.Fair h 0 "x" ∧ (c.perform 0 h).1 ≠ .ok (.builder 0) ∧ (c.perform 0 h).2 = h := by
  intro c h
  have hp : ValueType.reference objectDescriptor ∈ appendParameters := by decide
  have hperform := append_of_not_writable isWritable_pow_digitLimit 0 h
  refine ⟨⟨hp, fun k hk => by cases hk⟩, ?_, congrArg Prod.snd hperform⟩
  rw [congrArg Prod.fst hperform]
  simp

end BufferCall

end HostCall
