import HostCall.Proofs.Passage

/-!
# Texts rebuilt char by char

A text is taken apart by `length` and `charAt`, and put together again in a buffer by `append`.  All
of them count code points, but a char has 16 bits: `charAt` fails where a code point needs more,
although its index is good.  Nothing else stands in the way but a length that is no `int`.

`appendChars_apply` is the run of the loop, by induction on the text that is left to copy.  Main
statement, `rebuilds_iff`: the texts that survive are those without such a code point.
-/

namespace HostCall

open Result Library

/-! ## Reading and appending -/

/-- What chars are read from. -/
inductive Chars where
  | text (s : Text)
  | buffer (b : Address)

namespace Chars

def value : Chars → Value
  | .text s => .text s
  | .buffer b => .builder b

def content (h : Heap) : Chars → Text
  | .text s => s
  | .buffer b => h.content b

def descriptor : Chars → Text
  | .text _ => textDescriptor
  | .buffer _ => builderDescriptor

def owner : Chars → HostClass
  | .text _ => ⟨"java.lang.String", .text, lang "JavaString"⟩
  | .buffer _ => ⟨"java.lang.StringBuilder", builderType, builderType⟩

/-- The reference of a member by what it is called on. -/
def signature (c : Chars) (name : Text) (parameters : List ValueType) (returnType : Text) :
    Signature :=
  ⟨c.descriptor, c.owner.name, name, parameters, returnType, false⟩

/-- The call of `length`. -/
def length (c : Chars) : BridgeM Value :=
  Resolver.standard.reflect (c.signature "length" [] "I") (.value c.value) []

/-- The call of `charAt`. -/
def charAt (c : Chars) (i : Nat) : BridgeM Value :=
  Resolver.standard.reflect (c.signature "charAt" [.primitive .int] "C") (.value c.value)
    [.value (.integer i)]

end Chars

/-- The call of `toString` on a buffer. -/
def bufferToString (b : Address) : BridgeM Value :=
  Resolver.standard.reflect ((Chars.buffer b).signature "toString" [] textDescriptor)
    (.value (.builder b)) []

/-- The call of `append` for a char. -/
def appendChar (b : Address) (v : Value) : BridgeM Value :=
  Resolver.standard.reflect (appendSignature (.primitive .char))
    (.cell ⟨.builder b, builderDescriptor⟩) [.cell ⟨v, "C"⟩]

/-- Appends the chars of a text at these indices in turn. -/
def appendChars (s : Text) (b : Address) : List Nat → BridgeM Unit
  | [] => pure ()
  | i :: rest => do
    let v ← (Chars.text s).charAt i
    let _ ← appendChar b v
    appendChars s b rest

/-- Appends all chars of a text. -/
def copyChars (s : Text) (b : Address) : BridgeM Unit := do
  let n ← (Chars.text s).length
  appendChars s b (List.range (n.index?.getD 0).toNat)

/-- A text survives being taken apart and rebuilt: each of its chars can be read, and the buffer to
which they are appended has the same text, the same length and the same chars. -/
structure Rebuilds (h : Heap) (s : Text) (b : Address) : Prop where
  readable : ∃ n : Int32, ((Chars.text s).length h).1 = .ok (.scalar (.int n)) ∧
    ∀ i : Nat, i < n.toInt → ∃ v, ((Chars.text s).charAt i h).1 = .ok v
  rebuilt : ∃ h', copyChars s b h = (.ok (), h') ∧ (bufferToString b h').1 = .ok (.text s) ∧
    ((Chars.buffer b).length h').1 = ((Chars.text s).length h').1 ∧
    ∀ i < s.length, ((Chars.buffer b).charAt i h').1 = ((Chars.text s).charAt i h').1

/-! ## What the calls give -/

namespace Chars

variable {c : Chars} {h : Heap}

theorem resolveClass_owner (c : Chars) :
    Resolver.standard.resolveClass c.owner.name = .ok c.owner := by
  cases c with
  | text s => exact Resolver.bindsLibrary_standard.resolveClass_text
  | buffer b => exact Resolver.resolveClass_builder

/-- The member `length` of the content. -/
theorem exists_length (c : Chars) : ∃ space f,
    Resolver.standard.instanceMember? c.owner "length" c.value.typeOf = some (space, .method f) ∧
      f.bindFault? 1 = none ∧ ∀ h, f.call [c.value] h =
        ((Value.integerToScalar .int (c.content h).length).map .scalar, h) := by
  cases c with
  | text s =>
    refine ⟨_, _, rfl, rfl, fun h => ?_⟩
    have hlength : (Value.text s).length h >>= (fun n => Value.integerToScalar .int n) =
        Value.integerToScalar .int s.length := ok_bind s.length _
    rw [content, ← hlength, value, Resolver.unary_call]
    exact map_read_apply Value.scalar _ h
  | buffer b =>
    refine ⟨_, _, rfl, rfl, fun h => ?_⟩
    have hlength : bufferText h (.builder b) >>= (fun t => Value.integerToScalar .int t.length) =
        Value.integerToScalar .int (h.content b).length := ok_bind (h.content b) _
    rw [content, ← hlength, value, Resolver.unary_call]
    exact map_read_apply Value.scalar _ h

/-- The member `charAt` of the content. -/
theorem exists_charAt (c : Chars) : ∃ space f,
    Resolver.standard.instanceMember? c.owner "charAt" c.value.typeOf = some (space, .method f) ∧
      f.bindFault? 2 = none ∧ ∀ v h, f.call [c.value, v] h =
        ((codeAt h (.text (c.content h)) v).map .scalar, h) := by
  cases c with
  | text s =>
    refine ⟨_, _, rfl, rfl, fun v h => ?_⟩
    rw [value, Resolver.binary_call]
    exact map_read_apply Value.scalar (fun h => codeAt h (.text s) v) h
  | buffer b =>
    refine ⟨_, _, rfl, rfl, fun v h => ?_⟩
    rw [value, Resolver.binary_call]
    exact map_read_apply Value.scalar (fun h => codeAt h (.text (h.content b)) v) h

theorem value_ne (c : Chars) : c.value ≠ .null ∧ c.value ≠ .unknown := by
  cases c <;> simp [value]

/-- The length is that of the content, where it is an `int`. -/
theorem length_apply (c : Chars) (h : Heap) :
    c.length h = (((Value.integerToScalar .int (c.content h).length).map .scalar).mapError
      fun e => .wrapping e (.target (Resolver.label c.owner "length") e), h) := by
  obtain ⟨space, f, hmember, harity, hcall⟩ := c.exists_length
  exact Resolver.reflect_method_received (v := c.value) (s := c.signature "length" [] "I") [] rfl
    rfl rfl c.resolveClass_owner rfl rfl c.value_ne.1 c.value_ne.2 hmember harity (hcall h)

theorem charAt_apply {i : Nat} (hi : i < 2 ^ 31) (c : Chars) (h : Heap) :
    c.charAt i h =
      (((codeAt h (.text (c.content h)) (.scalar (.int (Int32.ofInt i)))).map .scalar).mapError
        fun e => .wrapping e (.target (Resolver.label c.owner "charAt") e), h) := by
  obtain ⟨space, f, hmember, harity, hcall⟩ := c.exists_charAt
  have hindex : (Int32.ofInt i).toInt = i := Int32.toInt_ofInt_of_le (by omega) (by omega)
  have hdenoted : (Value.integer i).denoted? = some (Int32.ofInt i).toInt :=
    congrArg some hindex.symm
  refine Resolver.reflect_method_received (v := c.value)
    (s := c.signature "charAt" [.primitive .int] "C") [.int _ hdenoted] rfl rfl rfl
    c.resolveClass_owner rfl rfl c.value_ne.1 c.value_ne.2 hmember harity ?_
  rw [List.map_singleton, Passage.received_int]
  exact hcall _ h

/-- The code of the item at an index within the length, if a char can hold it. -/
theorem codeAt_eq {t : Text} {i : Nat} {x : CodePoint} (hi : i < 2 ^ 31) (hx : t[i]? = some x)
    (h : Heap) : codeAt h (.text t) (.scalar (.int (Int32.ofInt i))) =
      Value.integerToScalar .char x.val := by
  have hindex : (Value.scalar (.int (Int32.ofInt i))).toInteger = .ok (i : Int) :=
    congrArg Except.ok (Int32.toInt_ofInt_of_le (by omega) (by omega))
  have hlt : i < t.length := (List.getElem?_eq_some_iff.1 hx).1
  have hlength : (Value.text t).length h = .ok t.length := rfl
  have hitem : (Value.text t).item h i = .ok (.text [x]) := by
    simp [Value.item, hx]
  rw [codeAt, hindex, ok_bind, hlength, ok_bind, if_pos (by omega), Int.toNat_natCast, hitem,
    ok_bind]
  exact ok_bind x.val _

theorem charAt_eq {c : Chars} {i : Nat} {x : CodePoint} {h : Heap} (hi : i < 2 ^ 31)
    (hx : (c.content h)[i]? = some x) :
    c.charAt i h = (((Value.integerToScalar .char x.val).map .scalar).mapError
      fun e => .wrapping e (.target (Resolver.label c.owner "charAt") e), h) := by
  rw [charAt_apply hi, codeAt_eq hi hx]

/-- A code point of 16 bits is read as the char of its number. -/
theorem charAt_of_lt {c : Chars} {i : Nat} {x : CodePoint} {h : Heap} (hi : i < 2 ^ 31)
    (hx : (c.content h)[i]? = some x) (hunit : x.val < 2 ^ 16) :
    c.charAt i h = (.ok (.scalar (.char (UInt16.ofInt x.val))), h) := by
  have hmade : Value.integerToScalar .char x.val = .ok (.char (UInt16.ofInt x.val)) :=
    (Value.integerToScalar_eq_ok_iff rfl (by decide)).2 ⟨⟨by omega, by omega⟩, rfl⟩
  rw [charAt_eq hi hx, hmade]
  rfl

/-- No other code point can be read. -/
theorem lt_of_charAt {c : Chars} {i : Nat} {x : CodePoint} {h : Heap} {v : Value} (hi : i < 2 ^ 31)
    (hx : (c.content h)[i]? = some x) (hv : (c.charAt i h).1 = .ok v) : x.val < 2 ^ 16 := by
  rw [charAt_eq hi hx] at hv
  dsimp only at hv
  rw [mapError_eq_ok_iff, map_eq_ok_iff] at hv
  obtain ⟨s, hs, -⟩ := hv
  have hholds : Kind.char.Holds x.val := ((Value.integerToScalar_eq_ok_iff rfl (by decide)).1 hs).1
  have hhigh : (x.val : Int) < 2 ^ 16 := hholds.2
  omega

theorem length_of_lt {c : Chars} {h : Heap} (hlen : (c.content h).length < 2 ^ 31) :
    c.length h = (.ok (.scalar (.int (Int32.ofInt (c.content h).length))), h) := by
  rw [length_apply, Value.integerToScalar_int (by omega)]
  rfl

theorem lt_of_length {c : Chars} {h : Heap} {v : Value} (hv : (c.length h).1 = .ok v) :
    (c.content h).length < 2 ^ 31 := by
  rw [length_apply] at hv
  dsimp only at hv
  rw [mapError_eq_ok_iff, map_eq_ok_iff] at hv
  obtain ⟨s, hs, -⟩ := hv
  have hholds : Kind.int.Holds (c.content h).length :=
    ((Value.integerToScalar_eq_ok_iff rfl (by decide)).1 hs).1
  have hhigh : ((c.content h).length : Int) < 2 ^ 31 := hholds.2
  omega

end Chars

theorem bufferToString_apply (b : Address) (h : Heap) :
    bufferToString b h = (.ok (.text (h.content b)), h) := by
  obtain ⟨space, f, hmember, harity, hcall⟩ : ∃ space f,
      Resolver.standard.instanceMember? (Chars.buffer b).owner "toString" (Value.builder b).typeOf =
        some (space, .method f) ∧ f.bindFault? 1 = none ∧
      f.call [.builder b] h = (.ok (.text (h.content b)), h) := ⟨_, _, rfl, rfl, rfl⟩
  exact Resolver.reflect_method_received (v := .builder b)
    (s := (Chars.buffer b).signature "toString" [] textDescriptor) [] rfl rfl rfl
    (Chars.buffer b).resolveClass_owner rfl rfl (Chars.buffer b).value_ne.1
    (Chars.buffer b).value_ne.2 hmember harity hcall

/-- A char is appended as the code point of its number. -/
theorem appendChar_apply (b : Address) (v : UInt16) (h : Heap) :
    appendChar b (.scalar (.char v)) h = (.ok (.builder b), h.append b [.ofUnit v]) := by
  have hp : ValueType.primitive .char ∈ appendParameters := by decide
  have hc : (Value.scalar (.char v)).WellTyped := fun k _ => ⟨_, rfl⟩
  have hreceived : Resolver.standard.received h (.primitive .char) ⟨.scalar (.char v), "C"⟩ =
      .ok (.scalar ((Scalar.char v).castTo .char)) := rfl
  have hrendered : (Value.scalar (.char v)).rendered h = .ok [.ofUnit v] := by
    show Except.ok (CodePoint.ofNat? v.toNat).toList = _
    rw [CodePoint.ofNat?_toNat]
    rfl
  rw [show (Scalar.char v).castTo .char = .char v from Scalar.castTo_kind (.char v)] at hreceived
  rw [appendChar, Resolver.reflect_append hp hc, hreceived]
  dsimp only
  rw [hrendered]

/-! ## Copying -/

theorem CodePoint.ofUnit_ofInt {x : CodePoint} (hx : x.val < 2 ^ 16) :
    ofUnit (UInt16.ofInt x.val) = x := by
  have hchar : (Scalar.ofInt .char x.val).toInt? = some (x.val : Int) :=
    Scalar.toInt?_ofInt ⟨by omega, by omega⟩
  have hval : ((UInt16.ofInt x.val).toNat : Int) = x.val := Option.some.inj hchar
  exact ext_val (Int.ofNat.inj hval)

theorem Heap.length_append (h : Heap) (b : Address) (t : Text) :
    (h.append b t).contents.length = h.contents.length := List.length_set

/-- Copying one char reads its code point and appends it. -/
theorem appendChars_cons {s : Text} {b : Address} {i : Nat} {x : CodePoint} (hi : i < 2 ^ 31)
    (hx : s[i]? = some x) (hunit : x.val < 2 ^ 16) (rest : List Nat) (h : Heap) :
    appendChars s b (i :: rest) h = appendChars s b rest (h.append b [x]) := by
  have hcontent : ((Chars.text s).content h)[i]? = some x := hx
  rw [appendChars, BridgeM.bind_of_ok (Chars.charAt_of_lt hi hcontent hunit),
    BridgeM.bind_of_ok (appendChar_apply b _ h), CodePoint.ofUnit_ofInt hunit]

/-- Behind what is copied already, the run appends the rest of the text. -/
theorem appendChars_apply {s : Text} {b : Address} (hlen : s.length < 2 ^ 31) {copied rest : Text}
    (hs : s = copied ++ rest) (hunits : ∀ x ∈ rest, x.val < 2 ^ 16) {h : Heap}
    (hb : b < h.contents.length) :
    ∃ h', appendChars s b (List.range' copied.length rest.length) h = (.ok (), h') ∧
      h'.content b = h.content b ++ rest := by
  induction rest generalizing copied h with
  | nil => exact ⟨h, rfl, (List.append_nil _).symm⟩
  | cons x rest ih =>
    have hx : s[copied.length]? = some x := by
      rw [hs, List.getElem?_append_right (Nat.le_refl _), Nat.sub_self]
      rfl
    have hi : copied.length < 2 ^ 31 := by
      have hlt := (List.getElem?_eq_some_iff.1 hx).1
      omega
    have hshift : s = (copied ++ [x]) ++ rest := by
      rw [hs, List.append_assoc]
      rfl
    have hplace : b < (h.append b [x]).contents.length := by
      rw [Heap.length_append]
      exact hb
    obtain ⟨h', hrun, hcontent⟩ :=
      ih hshift (fun y hy => hunits y (List.mem_cons_of_mem x hy)) hplace
    rw [List.length_append, List.length_singleton] at hrun
    refine ⟨h', ?_, ?_⟩
    · rw [List.length_cons, List.range'_succ,
        appendChars_cons hi hx (hunits x List.mem_cons_self), hrun]
    · rw [hcontent, Heap.content_append hb, List.append_assoc]
      rfl

/-- A text that fits is copied into an empty buffer. -/
theorem copyChars_apply {s : Text} {b : Address} {h : Heap} (hlen : s.length < 2 ^ 31)
    (hunits : ∀ x ∈ s, x.val < 2 ^ 16) (hb : b < h.contents.length) (hempty : h.content b = []) :
    ∃ h', copyChars s b h = (.ok (), h') ∧ h'.content b = s := by
  obtain ⟨h', hrun, hcontent⟩ := appendChars_apply hlen (List.nil_append s).symm hunits hb
  have hlength : (Chars.text s).length h = (.ok (.scalar (.int (Int32.ofInt s.length))), h) :=
    Chars.length_of_lt hlen
  have hcount : (Value.scalar (.int (Int32.ofInt s.length))).index? = some (s.length : Int) :=
    congrArg some (Int32.toInt_ofInt_of_le (by omega) (by omega))
  refine ⟨h', ?_, ?_⟩
  · rw [copyChars, BridgeM.bind_of_ok hlength, hcount, Option.getD_some, Int.toNat_natCast,
      List.range_eq_range']
    exact hrun
  · rw [hcontent, hempty, List.nil_append]

/-- What a buffer and a text with the same content answer. -/
theorem answers_of_content {s : Text} {b : Address} {h : Heap} (hlen : s.length < 2 ^ 31)
    (hunits : ∀ x ∈ s, x.val < 2 ^ 16) (hcontent : h.content b = s) :
    ((Chars.buffer b).length h).1 = ((Chars.text s).length h).1 ∧
      ∀ i < s.length, ((Chars.buffer b).charAt i h).1 = ((Chars.text s).charAt i h).1 := by
  have hbuffer : (Chars.buffer b).content h = (Chars.text s).content h := hcontent
  constructor
  · have hshort : ((Chars.buffer b).content h).length < 2 ^ 31 := by
      rw [hbuffer]
      exact hlen
    rw [Chars.length_of_lt hshort, Chars.length_of_lt (c := .text s) hlen, hbuffer]
  · intro i hi
    have hx : ((Chars.text s).content h)[i]? = some s[i] := List.getElem?_eq_getElem hi
    have hsame : ((Chars.buffer b).content h)[i]? = some s[i] := by
      rw [hbuffer]
      exact hx
    have hunit := hunits s[i] (List.getElem_mem hi)
    rw [Chars.charAt_of_lt (by omega) hx hunit, Chars.charAt_of_lt (by omega) hsame hunit]

/-- Every code point of a text that can be read has 16 bits, and its length is an `int`. -/
theorem Rebuilds.units {h : Heap} {s : Text} {b : Address} (hs : Rebuilds h s b) :
    s.length < 2 ^ 31 ∧ ∀ x ∈ s, x.val < 2 ^ 16 := by
  obtain ⟨n, hn, hread⟩ := hs.readable
  have hlen : s.length < 2 ^ 31 := Chars.lt_of_length hn
  have hcount : n.toInt = s.length := by
    have hlength : (Chars.text s).length h = (.ok (.scalar (.int (Int32.ofInt s.length))), h) :=
      Chars.length_of_lt hlen
    rw [hlength] at hn
    cases hn
    exact Int32.toInt_ofInt_of_le (by omega) (by omega)
  refine ⟨hlen, fun x hx => ?_⟩
  obtain ⟨i, hi⟩ := List.getElem?_of_mem hx
  have hlt : i < s.length := (List.getElem?_eq_some_iff.1 hi).1
  obtain ⟨v, hv⟩ := hread i (by omega)
  exact Chars.lt_of_charAt (by omega) hi hv

/-- **Which texts survive.**  A text is rebuilt in an empty buffer exactly when each of its code
points has 16 bits and its length is an `int`. -/
theorem rebuilds_iff {h : Heap} {b : Address} (hb : b < h.contents.length)
    (hempty : h.content b = []) (s : Text) :
    Rebuilds h s b ↔ s.length < 2 ^ 31 ∧ ∀ x ∈ s, x.val < 2 ^ 16 := by
  constructor
  · exact Rebuilds.units
  · rintro ⟨hlen, hunits⟩
    obtain ⟨h', hcopy, hcontent⟩ := copyChars_apply hlen hunits hb hempty
    have hlength : (Chars.text s).length h = (.ok (.scalar (.int (Int32.ofInt s.length))), h) :=
      Chars.length_of_lt hlen
    have hcount : (Int32.ofInt s.length).toInt = s.length :=
      Int32.toInt_ofInt_of_le (by omega) (by omega)
    obtain ⟨hlengths, hchars⟩ := answers_of_content hlen hunits hcontent
    refine ⟨⟨_, by rw [hlength], fun i hi => ?_⟩, h', hcopy, ?_, hlengths, hchars⟩
    · have hlt : i < s.length := by omega
      have hx : ((Chars.text s).content h)[i]? = some s[i] := List.getElem?_eq_getElem hlt
      refine ⟨.scalar (.char (UInt16.ofInt s[i].val)), ?_⟩
      rw [Chars.charAt_of_lt (by omega) hx (hunits s[i] (List.getElem_mem hlt))]
    · rw [bufferToString_apply, hcontent]

/-- Letters with an accent and a sign of a currency are rebuilt. -/
theorem rebuilds_accent :
    let h : Heap := { contents := [.chunks []] }
    0 < h.contents.length ∧ h.content 0 = [] ∧ Rebuilds h "né€" 0 := by
  intro h
  have hb : 0 < h.contents.length := Nat.one_pos
  have hempty : h.content 0 = [] := rfl
  have hunits : ∀ x ∈ Text.ofString "né€", x.val < 2 ^ 16 := by decide
  exact ⟨hb, hempty, (rebuilds_iff hb hempty "né€").2 ⟨by decide, hunits⟩⟩

/-- A text of one emoji has a char at its first index by its length, which cannot be read. -/
theorem not_rebuilds_emoji :
    let s : Text := "😀"
    let h : Heap := { contents := [.chunks []] }
    (∀ x ∈ s, x.isSurrogate = false) ∧ 0 < h.contents.length ∧ h.content 0 = [] ∧
      ((Chars.text s).length h).1 = .ok (.scalar (.int 1)) ∧
      (∀ v, ((Chars.text s).charAt 0 h).1 ≠ .ok v) ∧ ¬ Rebuilds h s 0 := by
  intro s h
  have hlength : (Chars.text s).length h = (.ok (.scalar (.int 1)), h) :=
    Chars.length_of_lt (by decide)
  have hx : ((Chars.text s).content h)[0]? = some ⟨0x1F600, by decide⟩ := rfl
  have hread : ∀ v, ((Chars.text s).charAt 0 h).1 ≠ .ok v := by
    intro v hv
    exact absurd (Chars.lt_of_charAt (by decide) hx hv) (by decide)
  refine ⟨by decide, Nat.one_pos, rfl, by rw [hlength], hread, fun hs => ?_⟩
  exact absurd (hs.units.2 ⟨0x1F600, by decide⟩ (List.mem_of_getElem? hx)) (by decide)

end HostCall
