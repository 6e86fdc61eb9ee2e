import HostCall.Proofs.ExactConversion
import HostCall.Proofs.LibraryCall

/-!
# Two ways to render a value

`valueOf` makes a text of a value, and `append` adds one to a buffer.  Each has a set of variants of
its own: `append` has one more, for texts, and most of its variants first make a scalar of the kind
they are declared for, where those of `valueOf` take the value as it comes.  This makes no
difference, since what a parameter of a primitive kind receives is a scalar of that very kind
(`admits_of_received`), and both sets select by the same types.  So both calls are one reading of
the cell, and behind it they do not fail (`reflect_valueOf`, `reflect_append`).

Main statement, `append_iff_valueOf`: one call succeeds where the other does, and what is added to
the buffer is the text that is made.
-/

namespace HostCall

open Result Library

/-- The parameters for which both methods are declared. -/
def textParameters : List ValueType := [.reference objectDescriptor, .primitive .int,
  .primitive .long, .primitive .boolean, .primitive .char, .primitive .float, .primitive .double]

/-- The parameters for which `append` is declared. -/
def appendParameters : List ValueType := .reference textDescriptor :: textParameters

/-- The class of texts. -/
def textClass : HostClass := ⟨"java.lang.String", .text, lang "JavaString"⟩

/-- The class of text buffers. -/
def builderClass : HostClass := ⟨"java.lang.StringBuilder", builderType, builderType⟩

def valueOfSignature (p : ValueType) : Signature :=
  ⟨textDescriptor, "java.lang.String", "valueOf", [p], textDescriptor, true⟩

def builderDescriptor : Text := "Ljava/lang/StringBuilder;"

def appendSignature (p : ValueType) : Signature :=
  ⟨builderDescriptor, "java.lang.StringBuilder", "append", [p], builderDescriptor, false⟩

/-! ## The types of the variants -/

/-- The host type that a descriptor of a variant names. -/
def namedType (d : Text) : HostType :=
  match Kind.ofText? d with
  | some k => .scalar k
  | none => if d = textDescriptor then .text else .object

/-- None of these types decides itself what is below it. -/
theorem mayDecide_named (d e : Text) : (namedType d).mayDecide (namedType e) = false := by
  have hplain (d : Text) : namedType d = .object ∨ namedType d = .text ∨
      ∃ k, namedType d = .scalar k := by
    unfold namedType
    split
    · exact .inr (.inr ⟨_, rfl⟩)
    · split
      · exact .inr (.inl rfl)
      · exact .inl rfl
  rcases hplain d with hd | hd | ⟨k, hd⟩ <;> rcases hplain e with he | he | ⟨l, he⟩ <;>
    rw [hd, he] <;> rfl

/-- All descriptors of variants with one parameter. -/
def variantDescriptors : List Text := textDescriptor :: textParameters.map ValueType.descriptor

namespace Resolver

theorem BindsLibrary.typeOfDescriptor_named {r : Resolver} (hr : r.BindsLibrary) {d : Text}
    (hd : d ∈ variantDescriptors) : r.typeOfDescriptor d = .ok (namedType d) := by
  have hobject : r.typeOfDescriptor objectDescriptor = .ok .object :=
    hr.typeOfDescriptor_class (b := ⟨"java.lang.Object", .object, lang "JavaObject"⟩)
      (by simp [bindings]) rfl rfl
  simp only [variantDescriptors, textParameters, List.map_cons, List.map_nil, List.mem_cons,
    List.not_mem_nil, or_false] at hd
  rcases hd with rfl | rfl | rfl | rfl | rfl | rfl | rfl | rfl
  · exact hr.typeOfDescriptor_text
  · exact hobject
  all_goals rfl

theorem hostType_named {p : ValueType} (hp : p ∈ appendParameters) :
    standard.hostType p = .ok (namedType p.descriptor) := by
  have hparse : ValueType.parse p.descriptor = .ok p := by
    simp only [appendParameters, textParameters, List.mem_cons, List.not_mem_nil, or_false] at hp
    rcases hp with rfl | rfl | rfl | rfl | rfl | rfl | rfl | rfl <;> rfl
  have hdescriptor : p.descriptor ∈ variantDescriptors := List.mem_map_of_mem hp
  have hnamed : standard.typeOfDescriptor p.descriptor = .ok (namedType p.descriptor) :=
    bindsLibrary_standard.typeOfDescriptor_named hdescriptor
  rwa [typeOfDescriptor, hparse] at hnamed

theorem BindsLibrary.variantTypes_named {r : Resolver} (hr : r.BindsLibrary) {ds : List Text}
    (hds : ds ⊆ variantDescriptors) (f : Callable) :
    r.variantTypes ⟨ds, f⟩ = .ok (ds.map namedType) :=
  mapM_eq_ok_map fun _ hd => hr.typeOfDescriptor_named (hds hd)

/-- In a set of variants of which no two are declared for the same types, the types that the
descriptors of a variant name select it. -/
theorem BindsLibrary.select_variant {r : Resolver} (hr : r.BindsLibrary) (name label : Text)
    {vs : List (List Text × Callable)} (hvs : ∀ e ∈ vs, e.1 ⊆ variantDescriptors)
    (hnodup : (vs.map fun e => e.1.map namedType).Nodup) {ds : List Text} {f : Callable}
    (hf : (ds, f) ∈ vs) :
    r.select ⟨name, vs.map fun (ds, f) => ⟨ds, f⟩⟩ (ds.map namedType) label = .ok ⟨ds, f⟩ := by
  refine select_named namedType (w := ⟨ds, f⟩) (List.mem_map.2 ⟨_, hf, rfl⟩) ?_ ?_ mayDecide_named
  · rw [List.map_map]
    exact hnodup
  · intro w hw
    obtain ⟨e, he, rfl⟩ := List.mem_map.1 hw
    exact hr.variantTypes_named (hvs e he) _

theorem select_variant (name label : Text) {vs : List (List Text × Callable)}
    (hvs : ∀ e ∈ vs, e.1 ⊆ variantDescriptors)
    (hnodup : (vs.map fun e => e.1.map namedType).Nodup) {ds : List Text} {f : Callable}
    (hf : (ds, f) ∈ vs) :
    standard.select ⟨name, vs.map fun (ds, f) => ⟨ds, f⟩⟩ (ds.map namedType) label =
      .ok ⟨ds, f⟩ :=
  bindsLibrary_standard.select_variant name label hvs hnodup hf

end Resolver

/-! ## What a parameter receives -/

/-- Of a primitive kind only its own scalars are admitted. -/
def ValueType.Admits (p : ValueType) (a : Value) : Prop :=
  ∀ k, p = .primitive k → ∃ s : Scalar, a = .scalar s ∧ s.kind = k

theorem Value.wellTyped_of_coerce {zeroAsNull : Bool} {h : Heap} {c : Cell} {p : ValueType}
    {position : Int} {v : Value} (hc : c.value.WellTyped)
    (hv : coerce zeroAsNull h c p position = .ok v) : v.WellTyped := by
  have hnull : Value.null.WellTyped := fun k hk => by cases hk
  unfold coerce at hv
  split at hv
  · cases hv
    exact hnull
  · cases hv
  · split at hv
    · unfold narrow at hv
      split at hv
      · cases hv
        exact hc
      · obtain ⟨s, -, rfl⟩ := map_eq_ok_iff.1 hv
        exact fun k hk => ⟨s, rfl⟩
    · split at hv
      · cases hv
        exact hnull
      · cases hv
        exact hc

/-- A type that is no base of a class, nor of another type, has no subtype but itself. -/
theorem Universe.eq_of_isSubtype {t s : HostType}
    (hclasses : ∀ bs ∈ standard.classes.map fun e => e.2.bases, s ∉ bs)
    (hleaf : ∀ t', s ∈ HostType.lineage t' → t' = s) (hnumber : s ≠ .number)
    (hsequence : s ≠ .declared HostType.sequence) (h : standard.isSubtype t s = true) : t = s := by
  have hmem : s ∈ standard.lineage t := by
    simpa [isSubtype, hnumber, hsequence] using h
  cases t with
  | declared name =>
    simp only [lineage] at hmem
    cases hdecl : standard.declOf? (.declared name) with
    | none =>
      rw [hdecl] at hmem
      rcases List.mem_pair.1 hmem with hs | hs
      · exact hs.symm
      · have hobject : s ∈ HostType.lineage .text := hs ▸ List.mem_of_getElem? (i := 1) rfl
        rw [← hleaf .text hobject] at hs
        cases hs
    | some d =>
      rw [hdecl] at hmem
      obtain ⟨before, after, hsplit, -⟩ := List.lookup_eq_some_iff.1 hdecl
      have hd : d.bases ∈ standard.classes.map fun e => e.2.bases := by
        rw [hsplit]
        simp
      rcases List.mem_cons.1 hmem with hs | hbase
      · exact hs.symm
      · exact absurd hbase (hclasses _ hd)
  | _ => exact hleaf _ hmem

/-- No class derives from a scalar type. -/
theorem Universe.eq_of_isSubtype_scalar {t : HostType} {k : Kind}
    (h : standard.isSubtype t (.scalar k) = true) : t = .scalar k := by
  have hbases : ∀ bs ∈ standard.classes.map fun e => e.2.bases, ∀ b ∈ bs, b.kind? = none := by
    decide +kernel
  refine eq_of_isSubtype (fun bs hbs hk => ?_) (fun t' hmem => ?_) (by simp) (by simp) h
  · exact absurd (hbases bs hbs _ hk) (by simp [HostType.kind?])
  · cases t' with
    | scalar l => cases l <;> simp_all [HostType.lineage, HostType.scalarAncestors]
    | _ => simp [HostType.lineage] at hmem

/-- No class derives from the type of texts. -/
theorem Universe.eq_of_isSubtype_text {t : HostType} (h : standard.isSubtype t .text = true) :
    t = .text := by
  refine eq_of_isSubtype (by decide +kernel) (fun t' hmem => ?_) (by simp) (by simp) h
  cases t' with
  | text => rfl
  | scalar l => cases l <;> simp [HostType.lineage, HostType.scalarAncestors] at hmem
  | _ => simp [HostType.lineage] at hmem

/-- Only scalars of a kind are converted to its scalar type. -/
theorem Value.exists_scalar_of_convert {position : Int} {v a : Value} {k : Kind}
    (h : v.convert position (.scalar k) = .ok a) : ∃ s : Scalar, a = .scalar s ∧ s.kind = k := by
  unfold convert at h
  split at h
  -- a scalar widened
  · rename_i l s heq
    obtain rfl := HostType.scalar.inj heq
    split at h
    · cases h
      exact ⟨_, rfl, Scalar.kind_castTo k s⟩
    · cases h
  -- a host value unboxed
  · rename_i l heq _
    obtain rfl := HostType.scalar.inj heq
    split at h
    · rw [mapError_eq_ok_iff, map_eq_ok_iff] at h
      obtain ⟨s, hs, rfl⟩ := h
      exact ⟨s, rfl, kind_of_unbox hs⟩
    · cases h
  · rename_i hnone
    exact (hnone k rfl).elim
  · cases h

theorem Value.exists_scalar_of_adapt {position : Int} {v a : Value} {k : Kind} (hv : v.WellTyped)
    (h : v.adapt Universe.standard position (.scalar k) = .ok a) :
    ∃ s : Scalar, a = .scalar s ∧ s.kind = k := by
  by_cases hnull : v = .null
  · rw [hnull] at h
    have hprimitive : Universe.standard.isPrimitive (.scalar k) = true := by cases k <;> rfl
    simp [adapt, hprimitive] at h
  by_cases hunknown : v = .unknown
  · rw [hunknown] at h
    cases h
  have hadmits : Universe.standard.admits v (.scalar k) =
      .ok (Universe.standard.isSubtype v.typeOf (.scalar k)) :=
    Universe.isInstance_eq_isSubtype fun _ => rfl
  rw [adapt_of_known hnull hunknown, if_neg (by simp), hadmits] at h
  cases hinstance : Universe.standard.isSubtype v.typeOf (.scalar k) with
  | true =>
    have htype := Universe.eq_of_isSubtype_scalar hinstance
    obtain ⟨s, rfl⟩ := hv k htype
    rw [hinstance] at h
    cases h
    exact ⟨s, rfl, HostType.scalar.inj htype⟩
  | false =>
    rw [hinstance] at h
    exact exists_scalar_of_convert (mapError_eq_ok_iff.1 h)

theorem Value.text_of_convert {position : Int} {v a : Value}
    (h : v.convert position .text = .ok a) : ∃ t, a = .text t := by
  cases v with
  | scalar s =>
    cases s with
    | char c => exact ⟨_, (Except.ok.inj h).symm⟩
    | _ => cases h
  | _ => cases h

/-- Where a text is declared, null is passed, or what is of the type of texts already, or a text
that is made. -/
theorem Value.cases_of_adapt_text {position : Int} {v a : Value}
    (h : v.adapt Universe.standard position .text = .ok a) :
    a = .null ∨ (v.typeOf = .text ∧ a = v) ∨ ∃ t, a = .text t := by
  by_cases hnull : v = .null
  · rw [hnull] at h
    exact .inl (Except.ok.inj h).symm
  by_cases hunknown : v = .unknown
  · rw [hunknown] at h
    cases h
  have hadmits : Universe.standard.admits v .text =
      .ok (Universe.standard.isSubtype v.typeOf .text) :=
    Universe.isInstance_eq_isSubtype fun _ => rfl
  rw [adapt_of_known hnull hunknown, if_neg (by simp), hadmits] at h
  cases hinstance : Universe.standard.isSubtype v.typeOf .text with
  | true =>
    rw [hinstance] at h
    exact .inr (.inl ⟨Universe.eq_of_isSubtype_text hinstance, (Except.ok.inj h).symm⟩)
  | false =>
    rw [hinstance] at h
    exact .inr (.inr (text_of_convert (mapError_eq_ok_iff.1 h)))

/-- A parameter receives only what it admits. -/
theorem Resolver.admits_of_received {h : Heap} {p : ValueType} {c : Cell} {a : Value}
    (hc : c.value.WellTyped) (ha : standard.received h p c = .ok a) : p.Admits a := by
  rintro k rfl
  obtain ⟨v, hv, ha⟩ := bind_eq_ok_iff.1 ha
  obtain ⟨t, ht, ha⟩ := bind_eq_ok_iff.1 ha
  cases ht
  have hwell := Value.wellTyped_of_coerce hc (mapError_eq_ok_iff.1 hv)
  exact Value.exists_scalar_of_adapt hwell (mapError_eq_ok_iff.1 ha)

/-! ## What the variants do -/

theorem Value.rendered_integer (n : Int) (h : Heap) :
    (Value.integer n).rendered h = decimalText n := by
  simp only [rendered, display, Heap.answersOf, Option.getD_none, quoted, quotedWithin]

theorem Scalar.castTo_kind (s : Scalar) : s.castTo s.kind = s := by
  cases s with
  | double x => rfl
  | float x => rfl
  | _ => exact (castTo_eq_ofInt _ rfl).trans (ofInt_of_toInt? rfl)

namespace Library

theorem appendVariant_call {name : Text} {f : Heap → Value → Except HostError Text} {a : Value}
    (h : Heap) (b : Address) : (appendVariant name f).call [.builder b, a] h =
      match f h a with
      | .ok t => (.ok (.builder b), h.append b t)
      | .error e => (.error e, h) := by
  show ExceptT.bindCont (appendText (.builder b)) (f h a) h = _
  cases f h a <;> rfl

/-- The scalar that a value of the kind makes is that value. -/
theorem appended_scalar (s : Scalar) (h : Heap) :
    (do (Value.scalar (← (Value.scalar s).toScalar h s.kind)).rendered h) =
      (Value.scalar s).rendered h := by
  show (Value.scalar (s.castTo s.kind)).rendered h = _
  rw [Scalar.castTo_kind]

theorem character_char (v : UInt16) (h : Heap) :
    Value.character v.toNat = (Value.scalar (.char v)).rendered h := by
  have hpoint : CodePoint.ofInt? v.toNat = some (.ofUnit v) := CodePoint.ofNat?_toNat v
  show Value.character v.toNat = .ok (CodePoint.ofNat? v.toNat).toList
  rw [Value.character, hpoint, CodePoint.ofNat?_toNat]
  rfl

/-- Each parameter has a variant of `valueOf` that renders what it admits. -/
theorem exists_valueOf_variant {p : ValueType} (hp : p ∈ textParameters) :
    ∃ f, ([p.descriptor], f) ∈ valueOfVariants ∧
      ∀ a h, p.Admits a → f.call [a] h = ((a.rendered h).map .text, h) := by
  have hrendered (name : Text) (a : Value) (h : Heap) :
      (renderedText name).call [a] h = ((a.rendered h).map .text, h) :=
    map_read_apply Value.text a.rendered h
  simp only [textParameters, List.mem_cons, List.not_mem_nil, or_false] at hp
  rcases hp with rfl | rfl | rfl | rfl | rfl | rfl | rfl
  · exact ⟨_, List.mem_of_getElem? (i := 0) rfl, fun a h _ => hrendered _ a h⟩
  · exact ⟨_, List.mem_of_getElem? (i := 1) rfl, fun a h _ => hrendered _ a h⟩
  · exact ⟨_, List.mem_of_getElem? (i := 2) rfl, fun a h _ => hrendered _ a h⟩
  · exact ⟨_, List.mem_of_getElem? (i := 3) rfl, fun a h _ => hrendered _ a h⟩
  · refine ⟨_, List.mem_of_getElem? (i := 4) rfl, fun a h ha => ?_⟩
    obtain ⟨s, rfl, hs⟩ := ha .char rfl
    cases s with
    | char v =>
      have hcall := congrArg (fun x => HostM.text x h) (character_char v h)
      exact hcall
    | _ => cases hs
  · exact ⟨_, List.mem_of_getElem? (i := 5) rfl, fun a h _ => hrendered _ a h⟩
  · exact ⟨_, List.mem_of_getElem? (i := 6) rfl, fun a h _ => hrendered _ a h⟩

/-- Each parameter has a variant of `append` that renders what it admits. -/
theorem exists_append_variant {p : ValueType} (hp : p ∈ appendParameters) :
    ∃ f, ([p.descriptor], f) ∈ appendVariants ∧
      ∀ a b h, p.Admits a → f.call [.builder b, a] h =
        match a.rendered h with
        | .ok t => (.ok (.builder b), h.append b t)
        | .error e => (.error e, h) := by
  have hscalar : ∀ (name : Text) (k : Kind) (a : Value) (b : Address) (h : Heap),
      (ValueType.primitive k).Admits a → (appendScalar name k).call [.builder b, a] h =
        match a.rendered h with
        | .ok t => (.ok (.builder b), h.append b t)
        | .error e => (.error e, h) := by
    intro name k a b h ha
    obtain ⟨s, rfl, rfl⟩ := ha k rfl
    rw [← appended_scalar s h]
    exact appendVariant_call h b
  simp only [appendParameters, textParameters, List.mem_cons, List.not_mem_nil, or_false] at hp
  rcases hp with rfl | rfl | rfl | rfl | rfl | rfl | rfl | rfl
  · exact ⟨_, List.mem_of_getElem? (i := 0) rfl, fun a b h _ => appendVariant_call h b⟩
  · exact ⟨_, List.mem_of_getElem? (i := 1) rfl, fun a b h _ => appendVariant_call h b⟩
  · exact ⟨_, List.mem_of_getElem? (i := 3) rfl, hscalar _ .int⟩
  · exact ⟨_, List.mem_of_getElem? (i := 4) rfl, hscalar _ .long⟩
  · refine ⟨_, List.mem_of_getElem? (i := 5) rfl, fun a b h ha => ?_⟩
    obtain ⟨s, rfl, hs⟩ := ha .boolean rfl
    refine (appendVariant_call h b).trans ?_
    cases s with
    | boolean v => cases v <;> rfl
    | _ => cases hs
  · refine ⟨_, List.mem_of_getElem? (i := 2) rfl, fun a b h ha => ?_⟩
    obtain ⟨s, rfl, hs⟩ := ha .char rfl
    cases s with
    | char v =>
      rw [← character_char v h]
      exact appendVariant_call h b
    | _ => cases hs
  · exact ⟨_, List.mem_of_getElem? (i := 6) rfl, hscalar _ .float⟩
  · exact ⟨_, List.mem_of_getElem? (i := 7) rfl, hscalar _ .double⟩

end Library

/-! ## The two calls -/

namespace Resolver

variable {p : ValueType} {c : Cell} {h : Heap}

theorem BindsLibrary.resolveClass_text {r : Resolver} (hr : r.BindsLibrary) :
    r.resolveClass "java.lang.String" = .ok textClass :=
  hr.bound ⟨"java.lang.String", .text, lang "JavaString"⟩ (by simp [bindings])

theorem resolveClass_builder :
    standard.resolveClass "java.lang.StringBuilder" = .ok builderClass :=
  bindsLibrary_standard.bound ⟨"java.lang.StringBuilder", builderType, builderType⟩
    (by simp [bindings])

/-- `valueOf` renders what it receives, and fails where nothing is received or it cannot be
rendered. -/
theorem reflect_valueOf (hp : p ∈ textParameters) (hc : c.value.WellTyped) (receiver : Argument) :
    standard.reflect (valueOfSignature p) receiver [.cell c] h =
      (standard.received h p c >>= fun a => ((a.rendered h).map .text).mapError fun e =>
        .wrapping e (.target (label textClass "valueOf") e), h) := by
  obtain ⟨f, hf, hcall⟩ := exists_valueOf_variant hp
  have hd : [p.descriptor] ⊆ variantDescriptors :=
    List.cons_subset.2 ⟨List.mem_cons_of_mem _ (List.mem_map_of_mem hp), List.nil_subset _⟩
  have hselect := select_variant "valueOf" "java.lang.String" (by decide) (by decide) hf
  rw [reflect_variant_static rfl rfl bindsLibrary_standard.resolveClass_text rfl rfl
    (hostType_named (List.mem_cons_of_mem _ hp)) hselect
    (bindsLibrary_standard.variantTypes_named hd f)]
  cases hreceived : standard.received h p c with
  | error e => rfl
  | ok a =>
    have hfits := admits_of_received hc hreceived
    exact perform_eq (c := ⟨⟨f, []⟩, _, [a]⟩) (hcall a h hfits)

/-- `append` adds what it receives as it is rendered, and fails where nothing is received or it
cannot be rendered. -/
theorem reflect_append (hp : p ∈ appendParameters) (hc : c.value.WellTyped) (b : Address)
    (tag : Text) :
    standard.reflect (appendSignature p) (.cell ⟨.builder b, tag⟩) [.cell c] h =
      match standard.received h p c with
      | .ok a => match a.rendered h with
        | .ok t => (.ok (.builder b), h.append b t)
        | .error e => (.error (.wrapping e (.target (label builderClass "append") e)), h)
      | .error e => (.error e, h) := by
  obtain ⟨f, hf, hcall⟩ := exists_append_variant hp
  have hd : [p.descriptor] ⊆ variantDescriptors :=
    List.cons_subset.2 ⟨List.mem_map_of_mem hp, List.nil_subset _⟩
  have hselect := select_variant "append" "java.lang.StringBuilder" (by decide) (by decide) hf
  rw [reflect_variant_virtual (v := .builder b) rfl rfl rfl resolveClass_builder rfl rfl (by simp)
    (by simp) rfl
    (hostType_named hp) hselect (bindsLibrary_standard.variantTypes_named hd f)]
  cases hreceived : standard.received h p c with
  | error e => rfl
  | ok a =>
    have happly := hcall a b h (admits_of_received hc hreceived)
    dsimp only
    cases hrendered : a.rendered h with
    | ok t =>
      rw [hrendered] at happly
      exact perform_eq (c := ⟨⟨f, [.builder b]⟩, _, [a]⟩) happly
    | error e =>
      rw [hrendered] at happly
      exact perform_eq (c := ⟨⟨f, [.builder b]⟩, _, [a]⟩) happly

/-- Both calls fail, or both succeed with the same text. -/
theorem reflect_alike (hp : p ∈ textParameters) (hc : c.value.WellTyped) (receiver : Argument)
    (b : Address) (tag : Text) :
    (∃ e e', standard.reflect (valueOfSignature p) receiver [.cell c] h = (.error e, h) ∧
      standard.reflect (appendSignature p) (.cell ⟨.builder b, tag⟩) [.cell c] h =
        (.error e', h)) ∨
    ∃ t, standard.reflect (valueOfSignature p) receiver [.cell c] h = (.ok (.text t), h) ∧
      standard.reflect (appendSignature p) (.cell ⟨.builder b, tag⟩) [.cell c] h =
        (.ok (.builder b), h.append b t) := by
  have hmade := reflect_valueOf (h := h) hp hc receiver
  have happended := reflect_append (h := h) (List.mem_cons_of_mem _ hp) hc b tag
  cases hreceived : standard.received h p c with
  | error e =>
    rw [hreceived] at hmade happended
    exact .inl ⟨e, e, hmade, happended⟩
  | ok a =>
    rw [hreceived, ok_bind] at hmade
    rw [hreceived] at happended
    dsimp only at happended
    cases hrendered : a.rendered h with
    | error e =>
      rw [hrendered] at hmade happended
      exact .inl ⟨_, _, hmade, happended⟩
    | ok t =>
      rw [hrendered] at hmade happended
      exact .inr ⟨t, hmade, happended⟩

end Resolver

theorem Outcome.ofResult_ok {s : Signature} (hs : s.isInstanceConstructor = false) (v : Value) :
    ofResult s (.ok v) = .success v .null := by
  simp [ofResult, hs]

/-- Both calls announce the argument, of which alone the text may fail to be made. -/
theorem announcement_alike {p : ValueType} {c : Cell} {h : Heap} {f g : Frame} {b : Address}
    {tag : Text} (recorder : Recorder)
    (hf : Frame.forCall (valueOfSignature p) [.cell c] (.value .null) = .ok f)
    (hg : Frame.forCall (appendSignature p) [.cell c] (.cell ⟨.builder b, tag⟩) = .ok g) :
    let made : Reflector := ⟨valueOfSignature p, .standard, recorder⟩
    let appended : Reflector := ⟨appendSignature p, .standard, recorder⟩
    made.announcementError? h f = appended.announcementError? h g := by
  intro made appended
  obtain ⟨f', hf', hmade, -⟩ := @Resolver.prepare_forCall .standard (valueOfSignature p) h
    (.value .null) [.cell c] textClass rfl Resolver.bindsLibrary_standard.resolveClass_text
  obtain ⟨g', hg', happended, hpeek⟩ := @Resolver.prepare_forCall .standard (appendSignature p) h
    (.cell ⟨.builder b, tag⟩) [.cell c] builderClass rfl Resolver.resolveClass_builder
  obtain rfl : f' = f := Except.ok.inj (hf'.symm.trans hf)
  obtain rfl : g' = g := Except.ok.inj (hg'.symm.trans hg)
  have hreceiver : RegisterFile.peek g' 0 = .ok ⟨.builder b, tag⟩ := hpeek rfl
  have hmade' : made.prepare h f' = (Resolver.standard.readCells h 0 [p]
      (Frame.argumentCells [p] [.cell c])).map fun a => (textClass, a) := hmade recorder
  have happended' : appended.prepare h g' = (Resolver.standard.readCells h 0 [p]
      (Frame.argumentCells [p] [.cell c])).map fun a => (builderClass, a) := happended recorder
  have hstatic : (made.signature.isStatic || made.signature.isConstructor) = true := rfl
  have hvirtual : (appended.signature.isStatic || appended.signature.isConstructor) = false := rfl
  rw [Reflector.announcementError?, Reflector.announcementError?, Reflector.announced?,
    Reflector.announced?, hmade', happended', hstatic, hvirtual, hreceiver]
  cases Resolver.standard.readCells h 0 [p] (Frame.argumentCells [p] [.cell c]) with
  | error e => simp only [Except.map, Option.bind_none]
  | ok args =>
    refine Option.ext fun e => Reflector.raised_announce.trans (Iff.trans ?_
      Reflector.raised_announce.symm)
    have hquoted : (Value.builder b).quoted h = .ok (Text.concat
        ["StringBuilder(", Text.quoted (h.content b), ")"]) := rfl
    rw [Reflector.announceOwner, Reflector.announceReceiver, hquoted]
    cases Value.quotedTuple h args.values with
    | error e' => exact Iff.rfl
    | ok t => simp [bind, Except.bind, pure, Except.pure]

/-- Both dispatches fail, or both succeed with the same text. -/
theorem dispatch_alike {p : ValueType} (hp : p ∈ textParameters) {c : Cell}
    (hc : c.value.WellTyped) {h : Heap} {f g : Frame} {b : Address} (hb : b < h.contents.length)
    {tag : Text} (recorder : Recorder)
    (hf : Frame.forCall (valueOfSignature p) [.cell c] (.value .null) = .ok f)
    (hg : Frame.forCall (appendSignature p) [.cell c] (.cell ⟨.builder b, tag⟩) = .ok g) :
    let made := Reflector.dispatch ⟨valueOfSignature p, .standard, recorder⟩ h f
    let appended := Reflector.dispatch ⟨appendSignature p, .standard, recorder⟩ h g
    (∃ e e', made.outcome = .failure e ∧ appended.outcome = .failure e') ∨
      ∃ t v, made.outcome = .success (.text t) .null ∧ appended.outcome = .success v .null ∧
        appended.heap.content b = h.content b ++ t := by
  have hannounced := announcement_alike (h := h) recorder hf hg
  cases hraised : Reflector.announcementError? ⟨appendSignature p, .standard, recorder⟩ h g with
  | some e =>
    exact .inl ⟨_, _, Reflector.outcome_of_announcementError (hannounced.trans hraised),
      Reflector.outcome_of_announcementError hraised⟩
  | none =>
    obtain ⟨hmade, -⟩ := Reflector.dispatch_forCall hf (hannounced.trans hraised)
    obtain ⟨happended, hheap⟩ := Reflector.dispatch_forCall hg hraised
    have hstatic : (valueOfSignature p).isInstanceConstructor = false := rfl
    have hvirtual : (appendSignature p).isInstanceConstructor = false := rfl
    rcases Resolver.reflect_alike (h := h) hp hc (.value .null) b tag with
      ⟨e, e', hvalueOf, happend⟩ | ⟨t, hvalueOf, happend⟩
    · refine .inl ⟨e, e', hmade.trans ?_, happended.trans ?_⟩
      · exact congrArg (fun x => Outcome.ofResult _ (Prod.fst x)) hvalueOf
      · exact congrArg (fun x => Outcome.ofResult _ (Prod.fst x)) happend
    · refine .inr ⟨t, .builder b, hmade.trans ?_, happended.trans ?_, ?_⟩
      · exact (congrArg (fun x => Outcome.ofResult _ (Prod.fst x)) hvalueOf).trans
          (Outcome.ofResult_ok hstatic _)
      · exact (congrArg (fun x => Outcome.ofResult _ (Prod.fst x)) happend).trans
          (Outcome.ofResult_ok hvirtual _)
      · rw [hheap.trans (congrArg Prod.snd happend)]
        exact Heap.content_append hb

/-- **What is appended is what is rendered.**  For each of the parameters that both methods take,
any cell and any buffer, `append` on the buffer succeeds where `valueOf` does, and the buffer then
holds its former content followed by the text that `valueOf` gives. -/
theorem append_iff_valueOf {p : ValueType} (hp : p ∈ textParameters) (c : Cell)
    (hc : c.value.WellTyped) (h : Heap) {b : Address} (hb : b < h.contents.length) (tag : Text)
    (recorder : Recorder) :
    ∃ f g : Frame, Frame.forCall (valueOfSignature p) [.cell c] (.value .null) = .ok f ∧
      Frame.forCall (appendSignature p) [.cell c] (.cell ⟨.builder b, tag⟩) = .ok g ∧
      let made := Reflector.dispatch ⟨valueOfSignature p, .standard, recorder⟩ h f
      let appended := Reflector.dispatch ⟨appendSignature p, .standard, recorder⟩ h g
      (made.outcome.isUnknown = false ↔ appended.outcome.isUnknown = false) ∧
        ∀ v created, made.outcome = .success v created →
          ∃ t, v = .text t ∧ appended.heap.content b = h.content b ++ t := by
  obtain ⟨f, hf⟩ : ∃ f, Frame.forCall (valueOfSignature p) [.cell c] (.value .null) = .ok f :=
    ⟨_, rfl⟩
  obtain ⟨g, hg⟩ : ∃ g, Frame.forCall (appendSignature p) [.cell c] (.cell ⟨.builder b, tag⟩) =
    .ok g := ⟨_, rfl⟩
  refine ⟨f, g, hf, hg, ?_⟩
  intro made appended
  have halike := dispatch_alike hp hc hb recorder hf hg
  change (∃ e e', made.outcome = .failure e ∧ appended.outcome = .failure e') ∨
    ∃ t v, made.outcome = .success (.text t) .null ∧ appended.outcome = .success v .null ∧
      appended.heap.content b = h.content b ++ t at halike
  clear_value made appended
  rcases halike with ⟨e, e', hmade, happended⟩ | ⟨t, v, hmade, happended, hcontent⟩
  · rw [hmade, happended]
    exact ⟨Iff.rfl, fun v created hv => by cases hv⟩
  · rw [hmade, happended]
    refine ⟨Iff.rfl, fun v created hv => ?_⟩
    cases hv
    exact ⟨t, rfl, hcontent⟩

/-- An integer that is tagged as one is the code of a character where a character is declared. -/
theorem append_iff_valueOf_code :
    let p : ValueType := .primitive .char
    let c : Cell := ⟨.integer 97, "I"⟩
    let h : Heap := { contents := [.chunks ["x"]] }
    let recorder : Recorder := ⟨"test", .debug, none⟩
    p ∈ textParameters ∧ c.value.WellTyped ∧ 0 < h.contents.length ∧
      ∃ f g : Frame, Frame.forCall (valueOfSignature p) [.cell c] (.value .null) = .ok f ∧
        Frame.forCall (appendSignature p) [.cell c] (.cell ⟨.builder 0, builderDescriptor⟩) =
          .ok g ∧
        (Reflector.dispatch ⟨valueOfSignature p, .standard, recorder⟩ h f).outcome =
          .success (.text "a") .null ∧
        (Reflector.dispatch ⟨appendSignature p, .standard, recorder⟩ h g).heap.content 0 =
          "xa" := by
  intro p c h recorder
  have hp : p ∈ textParameters := by decide
  have hc : c.value.WellTyped := fun k hk => by cases hk
  have hb : 0 < h.contents.length := Nat.one_pos
  obtain ⟨f, g, hf, hg, -, hcontent⟩ :=
    append_iff_valueOf hp c hc h hb builderDescriptor recorder
  have hmade : (Reflector.dispatch ⟨valueOfSignature p, .standard, recorder⟩ h f).outcome =
      .success (.text "a") .null := by
    have hreceived : Resolver.standard.received h p c = .ok (.scalar (.char 97)) := rfl
    have hquiet : Reflector.announcementError? ⟨valueOfSignature p, .standard, recorder⟩ h f =
        none := Reflector.announcementError?_of_hidden rfl
    rw [(Reflector.dispatch_forCall hf hquiet).1, Resolver.reflect_valueOf hp hc, hreceived]
    exact Outcome.ofResult_ok rfl (.text "a")
  obtain ⟨t, ht, happended⟩ := hcontent _ _ hmade
  cases ht
  exact ⟨hp, hc, hb, f, g, hf, hg, hmade, happended⟩

end HostCall
