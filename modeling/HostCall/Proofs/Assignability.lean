import HostCall.Proofs.ExactMatch

/-!
# Costs and adaptation

`conversionCost` looks at types and `Value.adapt` at values, each by an analysis of its own and with
its tests in an order of its own: an array type is asked for before a base class when a value is
adapted, and after it, as a base class like any other, when a cost is found.  `Assignable` lists the
five ways in which a cost can arise, and on each of them adaptation goes through, with one proviso.
A class may say itself what is below it and what its instances are, and the two answers need not
agree: `Value.IsConfirmed` says that they do for a value.  What is unknown is refused whatever is
declared.

Main statement, `adapts_of_select`: a value is adapted to what its own type has a cost for exactly
when it is confirmed, and the arguments of a selected variant are adapted exactly when all of them
are confirmed and none is unknown.  `cost_of_protocol` is a class whose answers differ.
-/

namespace HostCall

open Result

/-- The scalar types have no values but scalars. -/
def Value.WellTyped (v : Value) : Prop := ∀ k, v.typeOf = .scalar k → ∃ s, v = .scalar s

/-- The ways in which one type can be passed as another. -/
inductive Assignable (u : Universe) : HostType → HostType → Prop
  | same (t : HostType) : Assignable u t t
  | widened {k l : Kind} (wider : l ∈ k.widenings) : Assignable u (.scalar k) (.scalar l)
  | universal (s : HostType) : Assignable u s .object
  | boxed (k : Kind) : Assignable u (.scalar k) k.boxed
  | derived {s d : HostType} (host : u.isPrimitive d = false)
    (base : u.isSubclass s d = .ok true) : Assignable u s d

/-- Whether a value is let through to a declared type as it is. -/
def Universe.admits (u : Universe) (v : Value) (d : HostType) : Except HostError Bool :=
  if d.isArrayType then u.passesAsArray v else u.isInstance v d

/-- Where the type of a value is below a declared class by its own account, the value is let through
to it; nothing is asked about null, nor by the universal type. -/
def Value.IsConfirmed (u : Universe) (v : Value) (d : HostType) : Prop :=
  v = .null ∨ d = .object ∨ (u.isSubclass v.typeOf d = .ok true → u.admits v d = .ok true)

theorem HostType.exists_widening {s d : HostType} {i : Nat} (h : wideningIndex? s d = some i) :
    ∃ k l, s = .scalar k ∧ d = .scalar l ∧ l ∈ k.widenings := by
  unfold wideningIndex? at h
  split at h
  · rename_i k l
    refine ⟨k, l, rfl, rfl, ?_⟩
    have hsome : (k.widenings.idxOf? l).isSome = true := by simp [h]
    simpa using hsome
  · cases h

theorem HostType.exists_boxing {s d : HostType} (h : isBoxing s d = true) :
    ∃ k : Kind, s = .scalar k ∧ d = k.boxed := by
  cases s with
  | scalar k => exact ⟨k, rfl, (beq_iff_eq.1 h).symm⟩
  | _ => cases h

/-- A cost arises in one of the five ways. -/
theorem assignable_of_cost {u : Universe} {s d : HostType} {c : Nat}
    (h : conversionCost u s d = .ok (some c)) : Assignable u s d := by
  unfold conversionCost at h
  by_cases hsame : s = d
  · rw [hsame]
    exact .same d
  rw [if_neg hsame] at h
  split at h
  · rename_i i hi
    obtain ⟨k, l, rfl, rfl, hl⟩ := HostType.exists_widening hi
    exact .widened hl
  by_cases hprimitive : u.isPrimitive d = true
  · rw [if_pos hprimitive] at h
    cases h
  rw [if_neg hprimitive] at h
  by_cases hobject : d = .object
  · rw [hobject]
    exact .universal s
  rw [if_neg hobject] at h
  by_cases hboxing : HostType.isBoxing s d = true
  · obtain ⟨k, rfl, rfl⟩ := HostType.exists_boxing hboxing
    exact .boxed k
  rw [if_neg hboxing] at h
  obtain ⟨below, hbelow, h⟩ := map_eq_ok_iff.1 h
  cases below with
  | true => exact .derived (by simpa using hprimitive) hbelow
  | false => cases h

/-! ## Built-in types -/

theorem Universe.lineage_of_builtin (u : Universe) {t : HostType} (ht : ∀ c, t ≠ .declared c) :
    u.lineage t = t.lineage := by
  cases t with
  | declared c => exact absurd rfl (ht c)
  | _ => rfl

namespace Value

variable {u : Universe} {position : Int} {v : Value} {d : HostType}

/-- A list passes as an array: it is a sequence and neither a text nor bytes. -/
theorem passesAsArray_of_list (hv : v.typeOf = .list) : u.passesAsArray v = .ok true := by
  have hinstance {t : HostType} (ht : HostType.list.mayDecide t = false) :
      u.isInstance v t = .ok (u.isSubtype .list t) := by
    rw [← hv] at ht ⊢
    exact Universe.isInstance_eq_isSubtype fun hdecide => by simp [ht] at hdecide
  have harray : u.isInstance v .array = .ok false := hinstance rfl
  have hsequence : u.isInstance v (.declared HostType.sequence) = .ok true := hinstance rfl
  have htext : u.isInstance v .text = .ok false := hinstance rfl
  have hbytes : u.isInstance v .bytes = .ok false := hinstance rfl
  have hneither : u.isInstanceOfAny v [.text, .bytes] = .ok false := by
    rw [Universe.isInstanceOfAny, htext, ok_bind, Universe.isInstanceOfAny, hbytes]
    rfl
  rw [Universe.passesAsArray, harray, hsequence, hneither]
  rfl

/-- A value of an array type is let through to that type. -/
theorem admits_typeOf (u : Universe) (v : Value) : u.admits v v.typeOf = .ok true := by
  rw [Universe.admits]
  split
  · next harray =>
    rcases (by simpa [HostType.isArrayType] using harray : v.typeOf = .list ∨ v.typeOf = .array)
      with hlist | harray
    · exact passesAsArray_of_list hlist
    · have hinstance := u.isInstance_typeOf v
      rw [harray] at hinstance
      rw [Universe.passesAsArray, hinstance]
      rfl
  · exact u.isInstance_typeOf v

/-- Where no class decides itself, nothing below an array type is but that type. -/
theorem eq_of_isSubtype_arrayType {t : HostType} (ht : ∀ c, t ≠ .declared c)
    (hd : d.isArrayType = true) (hsubtype : u.isSubtype t d = true) : t = d := by
  have hd : d = .list ∨ d = .array := by simpa [HostType.isArrayType] using hd
  rw [Universe.isSubtype, u.lineage_of_builtin ht] at hsubtype
  revert hsubtype
  rcases hd with rfl | rfl
  · cases t with
    | declared c => exact absurd rfl (ht c)
    | scalar k => cases k <;> decide
    | _ => decide
  · cases t with
    | declared c => exact absurd rfl (ht c)
    | scalar k => cases k <;> decide
    | _ => decide

theorem not_declared_of_mayDecide {t : HostType} (h : t.mayDecide d = false) :
    ∀ c, t ≠ .declared c := by
  rintro c rfl
  cases h

/-- The answers of classes that do not decide themselves agree. -/
theorem isConfirmed_of_bases (hdecide : v.typeOf.mayDecide d = false) : v.IsConfirmed u d := by
  refine .inr (.inr fun hbelow => ?_)
  have hdecides {answer : Option (Except HostError Bool)} :
      v.typeOf.mayDecide d = true → answer = none := by simp [hdecide]
  rw [Universe.isSubclass_eq_isSubtype hdecides] at hbelow
  have hsubtype := Except.ok.inj hbelow
  by_cases harray : d.isArrayType = true
  · obtain rfl := eq_of_isSubtype_arrayType (not_declared_of_mayDecide hdecide) harray hsubtype
    exact admits_typeOf u v
  · rw [Universe.admits, if_neg harray, Universe.isInstance_eq_isSubtype hdecides, hsubtype]

/-! ## Adaptation on each of the ways -/

/-- The rules for a value that is neither null nor unknown. -/
theorem adapt_of_known (hnull : v ≠ .null) (hunknown : v ≠ .unknown) :
    v.adapt u position d =
      if d = .object then .ok v
      else (u.admits v d).mapError .host >>= fun
        | true => .ok v
        | false =>
          if d.isArrayType then .error (.mismatch (.notAnArray position v.typeOf.name))
          else (v.convert position d).mapError .mismatch := by
  unfold adapt
  split
  · exact absurd rfl hunknown
  · exact absurd rfl hnull
  rw [Universe.admits]
  by_cases hobject : d = .object
  · rw [if_pos hobject, if_pos hobject]
  rw [if_neg hobject, if_neg hobject]
  cases d.isArrayType with
  | true =>
    rw [if_pos rfl, if_pos rfl]
    refine congrArg ((u.passesAsArray v).mapError ArgumentError.host >>= ·) (funext fun b => ?_)
    cases b <;> rfl
  | false =>
    rw [if_neg Bool.false_ne_true, if_neg Bool.false_ne_true]
    refine congrArg ((u.isInstance v d).mapError ArgumentError.host >>= ·) (funext fun b => ?_)
    cases b <;> rfl

/-- What is let through is passed as it is. -/
theorem adapt_of_admits (hnull : v ≠ .null) (hunknown : v ≠ .unknown)
    (hadmits : u.admits v d = .ok true) : v.adapt u position d = .ok v := by
  rw [adapt_of_known hnull hunknown, hadmits]
  by_cases hobject : d = .object
  · rw [if_pos hobject]
  · rw [if_neg hobject]
    rfl

/-- Where no conversion is refused, nothing is. -/
theorem adapts_of_convert (hnull : v ≠ .null) (hunknown : v ≠ .unknown)
    (hdecide : v.typeOf.mayDecide d = false) (harray : d.isArrayType = false)
    (hconvert : ∃ a, v.convert position d = .ok a) : ∃ a, v.adapt u position d = .ok a := by
  have hadmits : u.admits v d = .ok (u.isSubtype v.typeOf d) := by
    rw [Universe.admits, harray, if_neg Bool.false_ne_true]
    exact Universe.isInstance_eq_isSubtype fun h => by simp [hdecide] at h
  cases hsubtype : u.isSubtype v.typeOf d with
  | true => exact ⟨v, adapt_of_admits hnull hunknown (by rw [hadmits, hsubtype])⟩
  | false =>
    obtain ⟨a, ha⟩ := hconvert
    rw [adapt_of_known hnull hunknown, hadmits, hsubtype, harray, ha]
    by_cases hobject : d = .object
    · exact ⟨v, if_pos hobject⟩
    · exact ⟨a, by rw [if_neg hobject]; rfl⟩

/-- Conversions are made between built-in types only. -/
theorem mayDecide_of_convert {a : Value} (h : v.convert position d = .ok a) :
    v.typeOf.mayDecide d = false := by
  unfold convert at h
  split at h
  · rfl
  · rename_i k _
    split at h
    · rename_i hunboxed
      revert hunboxed
      generalize v.typeOf = t
      cases k <;> simp [Kind.unboxed] <;> rintro (rfl | rfl) <;> rfl
    · cases h
  · rename_i s _
    split at h
    · rename_i hboxed
      rw [← hboxed]
      cases s <;> rfl
    · cases h
  · cases h

/-- Null is passed wherever its type is. -/
theorem isPrimitive_of_assignable_null (h : Assignable u .null d) : u.isPrimitive d = false := by
  cases h with
  | same => rfl
  | universal => rfl
  | derived host base => exact host

/-- **What a type has a cost for, its values are adapted to, where they are confirmed.** -/
theorem adapts_iff_confirmed (hassignable : Assignable u v.typeOf d) (hv : v.WellTyped)
    (hunknown : v ≠ .unknown) :
    (∃ a, v.adapt u position d = .ok a) ↔ v.IsConfirmed u d := by
  by_cases hnull : v = .null
  · subst hnull
    have hprimitive := isPrimitive_of_assignable_null hassignable
    exact iff_of_true ⟨.null, by simp [adapt, hprimitive]⟩ (.inl rfl)
  by_cases hobject : d = .object
  · refine iff_of_true ⟨v, ?_⟩ (.inr (.inl hobject))
    rw [adapt_of_known hnull hunknown, if_pos hobject]
  constructor
  · rintro ⟨a, ha⟩
    refine .inr (.inr fun hbelow => ?_)
    rw [adapt_of_known hnull hunknown, if_neg hobject] at ha
    obtain ⟨admitted, hadmits, ha⟩ := bind_eq_ok_iff.1 ha
    cases admitted with
    | true => exact mapError_eq_ok_iff.1 hadmits
    | false =>
      -- what was converted is of built-in types, whose answers agree
      dsimp only at ha
      split at ha
      · cases ha
      · have hdecide := mayDecide_of_convert (mapError_eq_ok_iff.1 ha)
        rcases isConfirmed_of_bases (u := u) hdecide with h | h | hadmits
        · exact absurd h hnull
        · exact absurd h hobject
        · exact hadmits hbelow
  · intro hconfirmed
    generalize hs : v.typeOf = s at hassignable
    cases hassignable with
    | same =>
      have hadmits := admits_typeOf u v
      rw [hs] at hadmits
      exact ⟨v, adapt_of_admits hnull hunknown hadmits⟩
    | @widened k l wider =>
      obtain ⟨x, rfl⟩ := hv _ hs
      obtain rfl := HostType.scalar.inj hs
      have hconvert : convert position (.scalar x) (.scalar l) = .ok (.scalar (x.castTo l)) :=
        if_pos wider
      exact adapts_of_convert hnull hunknown rfl rfl ⟨_, hconvert⟩
    | universal => exact absurd rfl hobject
    | boxed k =>
      obtain ⟨x, rfl⟩ := hv _ hs
      obtain rfl := HostType.scalar.inj hs
      have harray : x.kind.boxed.isArrayType = false := by cases x <;> rfl
      have hdecide : (HostType.scalar x.kind).mayDecide x.kind.boxed = false := by cases x <;> rfl
      have hconvert : convert position (.scalar x) x.kind.boxed = .ok (box x) := by
        cases x <;> rfl
      exact adapts_of_convert hnull hunknown hdecide harray ⟨_, hconvert⟩
    | derived host base =>
      rcases hconfirmed with h | h | hadmits
      · exact absurd h hnull
      · exact absurd h hobject
      · rw [← hs] at base
        exact ⟨v, adapt_of_admits hnull hunknown (hadmits base)⟩

/-! ## Lists of arguments -/

theorem adapt_unknown :
    Value.unknown.adapt u position d = .error (.mismatch (.unknownArgument position)) := rfl

/-- Arguments whose types can all be passed are adapted exactly when all are confirmed and none is
unknown. -/
theorem adaptsFrom_iff {i : Nat} {vs : List Value} {ts : List HostType}
    (hassignable : List.Forall₂ (fun v t => Assignable u v.typeOf t) vs ts)
    (hvs : ∀ v ∈ vs, v.WellTyped) :
    (∃ as, adaptFrom u i vs ts = .ok as) ↔
      List.Forall₂ (fun v t => v ≠ .unknown ∧ v.IsConfirmed u t) vs ts := by
  induction hassignable generalizing i with
  | nil => exact iff_of_true ⟨[], rfl⟩ .nil
  | @cons v t vs ts hhead _ ih =>
    obtain ⟨hv, hvs⟩ := List.forall_mem_cons.1 hvs
    rw [List.forall₂_cons, ← ih (i := i + 1) hvs]
    constructor
    · rintro ⟨as, has⟩
      obtain ⟨a, ha, has⟩ := bind_eq_ok_iff.1 has
      obtain ⟨rest, hrest, -⟩ := bind_eq_ok_iff.1 has
      have hunknown : v ≠ .unknown := by
        rintro rfl
        rw [adapt_unknown] at ha
        cases ha
      exact ⟨⟨hunknown, (adapts_iff_confirmed hhead hv hunknown).1 ⟨a, ha⟩⟩, rest, hrest⟩
    · rintro ⟨⟨hunknown, hconfirmed⟩, rest, hrest⟩
      have hadapts : ∃ a, v.adapt u i t = .ok a :=
        (adapts_iff_confirmed hhead hv hunknown).2 hconfirmed
      obtain ⟨a, ha⟩ := hadapts
      exact ⟨a :: rest, bind_eq_ok_iff.2 ⟨a, ha, bind_eq_ok_iff.2 ⟨rest, hrest, rfl⟩⟩⟩

end Value

/-! ## The selected variant -/

namespace Resolver

variable {r : Resolver} {α : Type} {set : OverloadSet α} {supplied : List HostType} {owner : Text}
  {v : Overload α}

theorem takes_of_select (h : r.select set supplied owner = .ok v) :
    ∃ c, r.Takes supplied v c := by
  obtain ⟨c, hleast⟩ := (select_eq_ok_iff (compares_of_select h)).1 h
  exact ⟨c, (mem_scores_iff.1 hleast.mem).2⟩

/-- Types with a cost for each of the declared ones can all be passed. -/
theorem assignable_of_costs {u : Universe} {vs : List Value} {ts : List HostType} {cs : List Nat}
    (hlen : vs.length = ts.length)
    (hcosts : List.zipWith (conversionCost u) (vs.map Value.typeOf) ts = cs.map (.ok ∘ some)) :
    List.Forall₂ (fun v t => Assignable u v.typeOf t) vs ts := by
  induction vs generalizing ts cs with
  | nil =>
    obtain rfl := List.eq_nil_of_length_eq_zero hlen.symm
    exact .nil
  | cons v vs ih =>
    obtain - | ⟨t, ts⟩ := ts
    · cases hlen
    obtain - | ⟨c, cs⟩ := cs
    · cases hcosts
    rw [List.map_cons, List.zipWith_cons_cons, List.map_cons, List.cons.injEq] at hcosts
    exact .cons (assignable_of_cost hcosts.1) (ih (Nat.succ.inj hlen) hcosts.2)

/-- **Selection and adaptation agree as far as classes do.**  A value that is not unknown is adapted
to a type for which its own type has a cost exactly when it is confirmed; between built-in types it
always is.  Hence, when a variant is selected by the very types of the arguments, its types resolve
and the arguments are adapted to them exactly when all are confirmed and none is unknown. -/
theorem adapts_of_select (r : Resolver) :
    (∀ (s d : HostType) (v : Value) (position : Int) (c : Nat), v.WellTyped → v.typeOf = s →
      conversionCost r.world s d = .ok (some c) → v ≠ .unknown →
      ((∃ a, v.adapt r.world position d = .ok a) ↔ v.IsConfirmed r.world d)) ∧
    (∀ (v : Value) (d : HostType), v.typeOf.mayDecide d = false → v.IsConfirmed r.world d) ∧
    ∀ {α : Type} (set : OverloadSet α) (args : Arguments) (owner : Text) (w : Overload α),
      (∀ v ∈ args.values, v.WellTyped) → args.values.map Value.typeOf = args.types →
      r.select set args.types owner = .ok w →
      ∃ declared, r.variantTypes w = .ok declared ∧
        ((∃ as, r.adapted args.values declared = .ok as) ↔
          List.Forall₂ (fun v t => v ≠ .unknown ∧ v.IsConfirmed r.world t) args.values
            declared) := by
  refine ⟨?_, fun v d => Value.isConfirmed_of_bases, ?_⟩
  · intro s d v position c hv hs hcost hunknown
    rw [← hs] at hcost
    exact Value.adapts_iff_confirmed (assignable_of_cost hcost) hv hunknown
  · intro α set args owner w hvs htypes hselect
    obtain ⟨c, harity, declared, cs, hdeclared, hcosts, -⟩ := takes_of_select hselect
    have hlen : args.values.length = declared.length := by
      rw [length_variantTypes hdeclared, harity, ← htypes, List.length_map]
    rw [← htypes] at hcosts
    refine ⟨declared, hdeclared, ?_⟩
    rw [← Value.adaptsFrom_iff (u := r.world) (i := 0) (assignable_of_costs hlen hcosts) hvs]
    simp [adapted, Value.adaptAll]

/-- An instance of a class of lists is passed as a list, and an integer as the long of the variant
that it selects. -/
theorem adapts_rows_and_long :
    let rows : HostType := .declared ⟨"m", "Rows"⟩
    let decl : ClassDecl := { bases := [.list, .object], construct := .nullary "Rows" (pure .null) }
    let r : Resolver := ⟨{ classes := [(rows, decl)] }, {}, {}⟩
    let long : Overload Unit := ⟨["J"], ()⟩
    let set : OverloadSet Unit := ⟨"f", [⟨["F"], ()⟩, long]⟩
    let args : Arguments := ⟨[.scalar (.int 5)], [.scalar .int]⟩
    conversionCost r.world rows .list = .ok (some 1) ∧
      (∃ a, (Value.object rows 0).adapt r.world 0 .list = .ok a) ∧
      r.select set args.types "C" = .ok long ∧
      ∃ declared, r.variantTypes long = .ok declared ∧
        ∃ as, r.adapted args.values declared = .ok as := by
  intro rows decl r long set args
  obtain ⟨hone, hbases, hall⟩ := adapts_of_select r
  have hcost : conversionCost r.world rows .list = .ok (some 1) := by decide
  have hselect : r.select set args.types "C" = .ok long := rfl
  refine ⟨hcost, ?_, hselect, ?_⟩
  · have hrows : (Value.object rows 0).WellTyped := by
      intro k hk
      cases hk
    have hconfirmed : (Value.object rows 0).IsConfirmed r.world .list :=
      .inr (.inr fun _ => by decide)
    exact (hone rows .list _ 0 1 hrows rfl hcost (by decide)).2 hconfirmed
  · have hargs : ∀ v ∈ args.values, v.WellTyped := by
      intro v hv k _
      exact ⟨_, List.mem_singleton.1 hv⟩
    obtain ⟨declared, htypes, hadapted⟩ := hall set args "C" long hargs rfl hselect
    obtain rfl : [.scalar .long] = declared := Except.ok.inj htypes
    exact ⟨_, htypes, hadapted.2 (.cons ⟨by decide, hbases _ _ rfl⟩ .nil)⟩

/-- The class of all protocols takes integers for below it, at a cost, and fails when it is asked
about one. -/
theorem cost_of_protocol :
    let protocol : HostType := .declared Library.Protocol.base
    conversionCost .standard .integer protocol = .ok (some 20) ∧
      (Value.integer 5).WellTyped ∧ (Value.integer 5).typeOf = .integer ∧
      (Value.integer 5).adapt .standard 0 protocol = .error (.host (.raised .type
        "Instance and class checks can only be used with @runtime_checkable protocols")) := by
  intro protocol
  refine ⟨by decide, ?_, rfl, by decide⟩
  intro k hk
  cases hk

end Resolver

end HostCall
