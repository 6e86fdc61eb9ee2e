import HostCall.Proofs.DescriptorGrammar

/-!
# The grammar of method references

A `Reference` is a method reference in parts, which `Reference.text` writes one after another.  The
reader takes a text apart at its first separator and at its only two parentheses; each of its steps
is read here as an equation between texts (`splitOwner_eq_ok_iff`, `splitMember_eq_ok_iff`,
`parseParameters_eq_ok_iff`), and `malformed_or_checked` puts the equations together.  What is left
then is the check of the fields, which nothing without surrogates fails.

Main statement, `parse_iff_grammar`: a text is read when it is a reference, its parts are the only
ones it has, and it is written back as it was; any other text is malformed.
-/

namespace HostCall

open Result Descriptor

def openParen : CodePoint := '('

def closeParen : CodePoint := ')'

/-- A text that no parenthesis stands in. -/
def Text.IsPlain (t : Text) : Prop := openParen ∉ t ∧ closeParen ∉ t

/-- The parts of a method reference. -/
structure Reference where
  owner : Text
  name : Text
  parameters : List Text
  returnType : Text

namespace Reference

/-- The parts one after another. -/
def text (p : Reference) : Text :=
  p.owner ++ separator ++
    (p.name ++ openParen :: p.parameters.flatten ++ closeParen :: p.returnType)

/-- What the parts have to be. -/
structure WellFormed (p : Reference) : Prop where
  owner_isReference : IsReference p.owner
  separator_not_in_owner : ¬ separator <:+: p.owner
  name_ne_nil : p.name ≠ []
  name_isPlain : p.name.IsPlain
  parameters_isValue : ∀ d ∈ p.parameters, IsValue d
  parameters_isPlain : ∀ d ∈ p.parameters, d.IsPlain
  returnType_isValue : p.returnType = voidDescriptor ∨ IsValue p.returnType
  returnType_isPlain : p.returnType.IsPlain

/-- The signature that the parts stand for. -/
def signature (p : Reference) (isStatic : Bool) : Signature :=
  ⟨p.owner, binaryName p.owner, p.name, p.parameters.map ValueType.ofDescriptor, p.returnType,
    isStatic⟩

theorem map_descriptor_ofDescriptor (ds : List Text) :
    (ds.map ValueType.ofDescriptor).map ValueType.descriptor = ds := by
  rw [List.map_map]
  exact List.map_id'' ValueType.descriptor_ofDescriptor ds

/-- No part is lost in a signature. -/
theorem signature_injective {p q : Reference} {isStatic : Bool}
    (h : p.signature isStatic = q.signature isStatic) : p = q := by
  obtain ⟨owner, name, parameters, returnType⟩ := p
  obtain ⟨owner', name', parameters', returnType'⟩ := q
  obtain ⟨howner, -, hname, hparameters, hreturn, -⟩ := Signature.mk.inj h
  have hds := congrArg (List.map ValueType.descriptor) hparameters
  rw [map_descriptor_ofDescriptor, map_descriptor_ofDescriptor] at hds
  rw [mk.injEq]
  exact ⟨howner, hname, hds, hreturn⟩

/-- A signature is written as the parts are. -/
theorem text_signature (p : Reference) (isStatic : Bool) :
    (p.signature isStatic).text = p.text := by
  rw [Signature.text, signature, map_descriptor_ofDescriptor, text]
  simp only [Text.concat, List.flatten_cons, List.flatten_nil, List.append_nil, List.append_assoc]
  rfl

end Reference

namespace Signature

/-! ## Owners -/

theorem startsWith_of_isReference {t : Text} (h : IsReference t) :
    (Text.startsWith "L" t || Text.startsWith "[" t) = true := by
  obtain ⟨rest, rfl⟩ | ⟨name, -, -, rfl⟩ := h.cases
  · rfl
  · rfl

theorem checkOwner_eq_ok_iff {owner t : Text} :
    checkOwner owner t = .ok () ↔ IsReference owner := by
  constructor
  · intro h
    rw [checkOwner] at h
    split at h
    · cases h
    split at h
    · cases h
    rename_i hhead
    split at h
    · cases h
    rename_i n hn
    split at h
    · rename_i hlen
      refine ⟨headLength_eq_length_iff.1 (hlen ▸ hn), ?_⟩
      intro k hk
      apply hhead
      rw [hk]
      cases k <;> rfl
    · cases h
  · intro h
    rw [checkOwner, if_neg h.1.ne_nil, startsWith_of_isReference h, Bool.not_true,
      if_neg Bool.false_ne_true, headLength_eq_length_iff.2 h.1]
    exact if_pos rfl

theorem splitOwner_eq_ok_iff {t owner member : Text} :
    splitOwner t = .ok (owner, member) ↔
      IsReference owner ∧ ¬ separator <:+: owner ∧ t = owner ++ separator ++ member := by
  have hcut := @Text.cut?_eq_some_iff '-' '>' (by decide) t
  rw [splitOwner]
  constructor
  · intro h
    split at h
    · cases h
    · rename_i parts hparts
      obtain ⟨⟨⟩, hcheck, hpair⟩ := map_eq_ok_iff.1 h
      cases hpair
      obtain ⟨ht, hsep⟩ := hcut.1 hparts
      exact ⟨checkOwner_eq_ok_iff.1 hcheck, hsep, ht⟩
  · rintro ⟨howner, hsep, ht⟩
    have hparts : Text.cut? separator t = some (owner, member) := hcut.2 ⟨ht, hsep⟩
    rw [hparts]
    dsimp only
    rw [checkOwner_eq_ok_iff.2 howner]
    rfl

/-! ## Members -/

theorem countP_eq_zero_iff {t : Text} {c : CodePoint} : t.countP (· == c) = 0 ↔ c ∉ t := by
  rw [List.countP_eq_zero]
  constructor
  · intro h hmem
    exact h c hmem (beq_self_eq_true c)
  · intro h x hx
    exact Bool.eq_false_iff.1 (Text.beq_eq_false_of_notMem h x hx)

theorem isPlain_iff {t : Text} : t.IsPlain ↔ t.countP isOpen = 0 ∧ t.countP isClose = 0 :=
  and_congr countP_eq_zero_iff.symm countP_eq_zero_iff.symm

/-- One parenthesis of each kind is all that a member has when its three parts have none. -/
theorem countP_member_eq_one_iff {name params returnType : Text} :
    ((name ++ openParen :: params ++ closeParen :: returnType).countP isOpen = 1 ∧
      (name ++ openParen :: params ++ closeParen :: returnType).countP isClose = 1) ↔
      name.IsPlain ∧ params.IsPlain ∧ returnType.IsPlain := by
  have ho : isOpen openParen = true := rfl
  have hc : isClose closeParen = true := rfl
  have ho' : ¬ isOpen closeParen = true := by decide
  have hc' : ¬ isClose openParen = true := by decide
  simp only [isPlain_iff, List.countP_append, List.countP_cons_of_pos ho,
    List.countP_cons_of_neg ho', List.countP_cons_of_pos hc, List.countP_cons_of_neg hc']
  omega

/-- What stands before a closing parenthesis goes on behind the opening one before it. -/
theorem exists_params {name a b returnType : Text}
    (h : name ++ openParen :: b = a ++ closeParen :: returnType) (hle : name.length ≤ a.length) :
    ∃ params, a = name ++ openParen :: params := by
  have hne : openParen ≠ closeParen := by decide
  obtain ⟨as, ha, hb⟩ | ⟨bs, hname, hb⟩ := List.append_eq_append_iff.1 h
  · cases as with
    | nil => exact absurd (List.cons.inj hb).1 hne
    | cons x params =>
      exact ⟨params, (List.cons.inj hb).1 ▸ ha⟩
  · cases bs with
    | nil => exact absurd (List.cons.inj hb).1.symm hne
    | cons x bs =>
      rw [hname, List.length_append, List.length_cons] at hle
      omega

theorem parts_member (name params returnType : Text) :
    (name ++ openParen :: params ++ closeParen :: returnType).take name.length = name ∧
      ((name ++ openParen :: params ++ closeParen :: returnType).take
        (name ++ openParen :: params).length).drop (name.length + 1) = params ∧
      (name ++ openParen :: params ++ closeParen :: returnType).drop
        ((name ++ openParen :: params).length + 1) = returnType := by
  refine ⟨?_, ?_, ?_⟩
  · rw [List.append_assoc, List.take_left]
  · rw [List.take_left, ← List.drop_drop, List.drop_left]
    rfl
  · rw [← List.drop_drop, List.drop_left]
    rfl

theorem splitMember_eq_ok_iff {member t name params returnType : Text} :
    splitMember member t = .ok (name, params, returnType) ↔
      member = name ++ openParen :: params ++ closeParen :: returnType ∧
        name ≠ [] ∧ name.IsPlain ∧ params.IsPlain ∧ returnType.IsPlain := by
  constructor
  · intro h
    rw [splitMember] at h
    split at h
    · rename_i o c ho hc
      split at h
      · cases h
      rename_i hle
      split at h
      · cases h
      rename_i hcount
      split at h
      · cases h
      rename_i hpos
      obtain ⟨name', x, b, hx, rfl, hopen, -⟩ := Text.findIdx?_eq_some_iff.1 ho
      obtain ⟨a, y, returnType', rfl, rfl, hclose, -⟩ := Text.findIdx?_eq_some_iff.1 hc
      obtain rfl : x = openParen := beq_iff_eq.1 hopen
      obtain rfl : y = closeParen := beq_iff_eq.1 hclose
      obtain ⟨params', rfl⟩ := exists_params hx.symm (Nat.not_lt.1 hle)
      obtain ⟨hname, hparams, hreturn⟩ := parts_member name' params' returnType'
      rw [hname, hparams, hreturn] at h
      cases h
      refine ⟨rfl, fun hnil => hpos (List.length_eq_zero_iff.2 hnil), ?_⟩
      rw [← countP_member_eq_one_iff]
      exact ⟨Decidable.not_not.1 fun hne => hcount (.inl hne),
        Decidable.not_not.1 fun hne => hcount (.inr hne)⟩
    · cases h
  · rintro ⟨rfl, hne, hplain⟩
    obtain ⟨hname, hparams, hreturn⟩ := parts_member name params returnType
    have ho : (name ++ openParen :: params ++ closeParen :: returnType).findIdx? isOpen =
        some name.length :=
      Text.findIdx?_eq_some_iff.2 ⟨name, openParen, _, by
        rw [List.append_assoc, List.cons_append], rfl, rfl,
        Text.beq_eq_false_of_notMem hplain.1.1⟩
    have hclose : closeParen ∉ name ++ openParen :: params := by
      intro hmem
      rcases List.mem_append.1 hmem with hmem | hmem
      · exact hplain.1.2 hmem
      rcases List.mem_cons.1 hmem with heq | hmem
      · exact absurd heq (by decide)
      · exact hplain.2.1.2 hmem
    have hc : (name ++ openParen :: params ++ closeParen :: returnType).findIdx? isClose =
        some (name ++ openParen :: params).length :=
      Text.findIdx?_eq_some_iff.2 ⟨_, closeParen, returnType, rfl, rfl, rfl,
        Text.beq_eq_false_of_notMem hclose⟩
    have hle : ¬ (name ++ openParen :: params).length < name.length := by
      rw [List.length_append]
      omega
    obtain ⟨hopens, hcloses⟩ := countP_member_eq_one_iff.2 hplain
    rw [splitMember, ho, hc]
    dsimp only
    rw [if_neg hle, if_neg fun hcount => hcount.elim (· hopens) (· hcloses),
      if_neg (mt List.length_eq_zero_iff.1 hne), hname, hparams, hreturn]

/-! ## Parameters and return types -/

theorem isPlain_flatten {ds : List Text} :
    Text.IsPlain ds.flatten ↔ ∀ d ∈ ds, Text.IsPlain d := by
  rw [Text.IsPlain, List.mem_flatten, List.mem_flatten]
  constructor
  · rintro ⟨ho, hc⟩ d hd
    exact ⟨fun hmem => ho ⟨d, hd, hmem⟩, fun hmem => hc ⟨d, hd, hmem⟩⟩
  · intro h
    constructor
    · rintro ⟨d, hd, hmem⟩
      exact (h d hd).1 hmem
    · rintro ⟨d, hd, hmem⟩
      exact (h d hd).2 hmem

/-- A parameter list is read as the descriptors that it is put together from. -/
theorem parseParameters_eq_ok_iff {params : Text} {parameters : List ValueType} :
    parseParameters params = .ok parameters ↔ ∃ ds : List Text, (∀ d ∈ ds, IsValue d) ∧
      ds.flatten = params ∧ parameters = ds.map ValueType.ofDescriptor := by
  have hread : ∀ ds : List Text, (∀ d ∈ ds, IsValue d) →
      ds.mapM ValueType.parse = .ok (ds.map ValueType.ofDescriptor) :=
    fun ds hds => mapM_eq_ok_map fun d hd => ValueType.parse_eq_ok_iff.2 ⟨hds d hd, rfl⟩
  rw [parseParameters, bind_eq_ok_iff]
  refine exists_congr fun ds => ?_
  rw [split_eq_ok_iff, and_assoc]
  refine and_congr_right fun hds => and_congr_right fun _ => ?_
  rw [hread ds hds, Except.ok.injEq]
  exact eq_comm

theorem checkReturn_eq_ok_iff {t : Text} :
    checkReturn t = .ok () ↔ t = voidDescriptor ∨ IsValue t := by
  rw [checkReturn]
  by_cases hvoid : t = voidDescriptor
  · exact iff_of_true (if_pos hvoid) (.inl hvoid)
  · rw [if_neg hvoid, map_eq_ok_iff, or_iff_right hvoid, ← ValueType.exists_parse_iff]
    exact exists_congr fun v => and_iff_left rfl

theorem returnType_ne_nil {t : Text} (h : t = voidDescriptor ∨ IsValue t) : t ≠ [] := by
  obtain rfl | hvalue := h
  · decide
  · exact hvalue.ne_nil

/-! ## Whole references -/

/-- A text is malformed, or it is the text of a reference and the fields alone are left to check. -/
theorem malformed_or_checked (t : Text) (isStatic : Bool) :
    (∃ e, parse t isStatic = .error (.malformed e)) ∨ ∃ p : Reference, p.WellFormed ∧ p.text = t ∧
      parse t isStatic = checked (.text p.owner) (.text (binaryName p.owner)) (.text p.name)
        (p.parameters.map ValueType.ofDescriptor) (.text p.returnType) (.boolean isStatic) := by
  rw [parse, parseWith]
  cases howner : splitOwner t with
  | error e => exact .inl ⟨e, rfl⟩
  | ok parts =>
    obtain ⟨owner, member⟩ := parts
    rw [mapError_ok, ok_bind]
    dsimp only
    cases hmember : splitMember member t with
    | error e => exact .inl ⟨e, rfl⟩
    | ok parts =>
      obtain ⟨name, params, returnType⟩ := parts
      rw [mapError_ok, ok_bind]
      dsimp only
      cases hparams : parseParameters params with
      | error e => exact .inl ⟨e, rfl⟩
      | ok parameters =>
        rw [mapError_ok, ok_bind]
        cases hreturn : checkReturn returnType with
        | error e => exact .inl ⟨e, rfl⟩
        | ok _ =>
          rw [mapError_ok, ok_bind]
          obtain ⟨hreference, hsep, rfl⟩ := splitOwner_eq_ok_iff.1 howner
          obtain ⟨rfl, hname, hplain, hparamsPlain, hreturnPlain⟩ :=
            splitMember_eq_ok_iff.1 hmember
          obtain ⟨ds, hvalues, rfl, rfl⟩ := parseParameters_eq_ok_iff.1 hparams
          exact .inr ⟨⟨owner, name, ds, returnType⟩, ⟨hreference, hsep, hname, hplain, hvalues,
            isPlain_flatten.1 hparamsPlain, checkReturn_eq_ok_iff.1 hreturn, hreturnPlain⟩, rfl,
            rfl⟩

/-- A reference is scanned part by part, and then its fields are checked. -/
theorem parse_text {p : Reference} (hp : p.WellFormed) (isStatic : Bool) :
    parse p.text isStatic = checked (.text p.owner) (.text (binaryName p.owner)) (.text p.name)
      (p.parameters.map ValueType.ofDescriptor) (.text p.returnType) (.boolean isStatic) := by
  have howner : splitOwner p.text = .ok (p.owner, _) :=
    splitOwner_eq_ok_iff.2 ⟨hp.owner_isReference, hp.separator_not_in_owner, rfl⟩
  have hmember := splitMember_eq_ok_iff (t := p.text).2 ⟨rfl, hp.name_ne_nil, hp.name_isPlain,
    isPlain_flatten.2 hp.parameters_isPlain, hp.returnType_isPlain⟩
  have hparams : parseParameters p.parameters.flatten =
      .ok (p.parameters.map ValueType.ofDescriptor) :=
    parseParameters_eq_ok_iff.2 ⟨p.parameters, hp.parameters_isValue, rfl, rfl⟩
  rw [parse, parseWith, howner, mapError_ok, ok_bind]
  dsimp only
  rw [hmember, mapError_ok, ok_bind]
  dsimp only
  rw [hparams, mapError_ok, ok_bind, checkReturn_eq_ok_iff.2 hp.returnType_isValue, mapError_ok,
    ok_bind]

/-- The fields of a reference are taken where no surrogate stands in them. -/
theorem checked_of_isScalar {p : Reference} (hp : p.WellFormed) (ho : p.owner.IsScalar)
    (hn : p.name.IsScalar) (hr : p.returnType.IsScalar) (isStatic : Bool) :
    checked (.text p.owner) (.text (binaryName p.owner)) (.text p.name)
        (p.parameters.map ValueType.ofDescriptor) (.text p.returnType) (.boolean isStatic) =
      .ok (p.signature isStatic) := by
  have howner : IsReference p.owner := hp.owner_isReference
  rw [checked, FieldInput.check_text ho howner.1.ne_nil,
    FieldInput.check_text ho.binaryName howner.binaryName_ne_nil,
    FieldInput.check_text hn hp.name_ne_nil,
    FieldInput.check_text hr (returnType_ne_nil hp.returnType_isValue)]
  rfl

theorem isScalar_parts {p : Reference} (h : p.text.IsScalar) :
    p.owner.IsScalar ∧ p.name.IsScalar ∧ p.returnType.IsScalar := by
  obtain ⟨hleft, hright⟩ := List.forall_mem_append.1 h
  obtain ⟨howner, -⟩ := List.forall_mem_append.1 hleft
  obtain ⟨hright, hreturn⟩ := List.forall_mem_append.1 hright
  obtain ⟨hname, -⟩ := List.forall_mem_append.1 hright
  exact ⟨howner, hname, (List.forall_mem_cons.1 hreturn).2⟩

/-- A reference without surrogates is read as its parts. -/
theorem parse_text_of_isScalar {p : Reference} (hp : p.WellFormed) (h : p.text.IsScalar)
    (isStatic : Bool) : parse p.text isStatic = .ok (p.signature isStatic) := by
  obtain ⟨ho, hn, hr⟩ := isScalar_parts h
  rw [parse_text hp, checked_of_isScalar hp ho hn hr]

/-- What is read without surrogates is a reference. -/
theorem exists_of_parse {t : Text} (h : t.IsScalar) {isStatic : Bool} {s : Signature}
    (hparse : parse t isStatic = .ok s) :
    ∃ p : Reference, p.WellFormed ∧ p.text = t ∧ s = p.signature isStatic := by
  obtain ⟨e, he⟩ | ⟨p, hp, rfl, -⟩ := malformed_or_checked t isStatic
  · rw [he] at hparse
    cases hparse
  · rw [parse_text_of_isScalar hp h] at hparse
    exact ⟨p, hp, rfl, (Except.ok.inj hparse).symm⟩

/-- **A reader that accepts its grammar and loses nothing.**  A text without surrogates is read when
it is put together from well-formed parts, and then as these; no other parts make the same text,
which is also the text of what is read; and any other text is malformed. -/
theorem parse_iff_grammar (t : Text) (isStatic : Bool) (h : t.IsScalar) :
    (∀ s, parse t isStatic = .ok s ↔
      ∃ p : Reference, p.WellFormed ∧ p.text = t ∧ s = p.signature isStatic) ∧
    (∀ p q : Reference, p.WellFormed → q.WellFormed → p.text = t → q.text = t → p = q) ∧
    (∀ s, parse t isStatic = .ok s → s.text = t) ∧
    (∀ f, parse t isStatic = .error f → ∃ e, f = .malformed e) := by
  refine ⟨?_, ?_, ?_, ?_⟩
  · intro s
    constructor
    · exact exists_of_parse h
    · rintro ⟨p, hp, rfl, rfl⟩
      exact parse_text_of_isScalar hp h isStatic
  · rintro p q hp hq rfl hpq
    have hread := parse_text_of_isScalar hq (hpq.symm ▸ h) isStatic
    rw [hpq, parse_text_of_isScalar hp h isStatic] at hread
    exact Reference.signature_injective (Except.ok.inj hread)
  · intro s hs
    obtain ⟨p, -, rfl, rfl⟩ := exists_of_parse h hs
    exact p.text_signature isStatic
  · intro f hf
    obtain ⟨e, he⟩ | ⟨p, hp, rfl, -⟩ := malformed_or_checked t isStatic
    · exact ⟨e, Except.error.inj (hf.symm.trans he)⟩
    · rw [parse_text_of_isScalar hp h] at hf
      cases hf

/-- An owner may hold parentheses, and a name the separator. -/
theorem parse_parenthesized_owner :
    let p : Reference := ⟨"La(b);", "c->d", ["J", "[LA;"], "V"⟩
    p.text = Text.ofString "La(b);->c->d(J[LA;)V" ∧ p.text.IsScalar ∧ p.WellFormed ∧
      parse p.text true = .ok (p.signature true) := by
  intro p
  have hp : p.WellFormed := {
    owner_isReference := ⟨check_eq_ok_iff.1 rfl, fun k => by cases k <;> decide⟩
    separator_not_in_owner := by decide +kernel
    name_ne_nil := by decide
    name_isPlain := ⟨by decide, by decide⟩
    parameters_isValue := List.forall_mem_cons.2 ⟨check_eq_ok_iff.1 rfl,
      List.forall_mem_singleton.2 (check_eq_ok_iff.1 rfl)⟩
    parameters_isPlain := isPlain_flatten.1 ⟨by decide, by decide⟩
    returnType_isValue := .inl rfl
    returnType_isPlain := ⟨by decide, by decide⟩ }
  have hscalar : p.text.IsScalar := by decide +kernel
  exact ⟨rfl, hscalar, hp, ((parse_iff_grammar p.text true hscalar).1 _).2 ⟨p, hp, rfl, rfl⟩⟩

end Signature

end HostCall
