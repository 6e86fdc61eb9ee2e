import HostCall.Marshal
import HostCall.Proofs.Result
import Mathlib.Data.List.Forall2

/-!
# Layout and marshaling

`Frame.forCall` lays arguments out in registers, and `marshal` reads them back; each moves a cursor
of its own along the parameters.  The two are joined at `firstSlots`, the registers at which the
parameters begin: a layout holds the cell of each argument there (`peek_layout`), and reading looks
nowhere else (`marshalFrom_eq_readCells`).

Main statement, `marshal_forCall`: what is read back from a layout is each argument coerced for its
parameter, beside the host type of that parameter, or the first failure on the way.
-/

namespace HostCall

open Result

/-! ## Reading without registers -/

/-- The value that a parameter at a place takes from its cell. -/
def Resolver.coerced (r : Resolver) (h : Heap) (p : ValueType) (place : Nat) (c : Cell) :
    Except Failure Value :=
  (coerce r.settings.zeroAsNull h c p place).mapError ArgumentError.toFailure

/-- The arguments of parameters whose cells are known, the first of them at `place`. -/
def Resolver.readCells (r : Resolver) (h : Heap) :
    Nat → List ValueType → List Cell → Except Failure Arguments
  | place, p :: ps, c :: cs => do
    let v ← r.coerced h p place c
    let t ← r.hostType p
    let rest ← readCells r h (place + 1) ps cs
    return ⟨v :: rest.values, t :: rest.types⟩
  | _, _, _ => .ok ⟨[], []⟩

/-- The registers at which the parameters begin. -/
def firstSlots : Nat → List ValueType → List Nat
  | _, [] => []
  | register, p :: ps => register :: firstSlots (register + p.width) ps

section

variable {σ : Type} [RegisterFile σ] {r : Resolver} {h : Heap}

/-- Reading looks at the first slots only: where these hold `cells` and the frame is long enough,
the arguments are those of the cells. -/
theorem marshalFrom_eq_readCells {frame : σ} {count : Nat} {ps : List ValueType} {cells : List Cell}
    {place register : Nat} (hcount : register + (ps.map ValueType.width).sum ≤ count)
    (hpeek : List.Forall₂ (fun i c => RegisterFile.peek frame i = .ok c)
      (firstSlots register ps) cells) :
    marshalFrom r h frame count place register ps = r.readCells h place ps cells := by
  induction ps generalizing place register cells with
  | nil => rfl
  | cons p ps ih =>
    cases hpeek with
    | cons hc hcs =>
      rw [List.map_cons, List.sum_cons] at hcount
      have hfits : ¬ register + p.width > count := by omega
      have hrest := @ih _ (place + 1) (register + p.width) (by omega) hcs
      simp only [marshalFrom, hfits, if_false, hc, hrest, Resolver.readCells, Resolver.coerced,
        Result.mapError_ok]
      rfl

end

/-! ## What a layout holds -/

namespace Frame

/-- The cells of arguments for their parameters. -/
def argumentCells (ps : List ValueType) (args : List Argument) : List Cell :=
  List.zipWith (fun p a => a.toCell p.descriptor) ps args

theorem argumentCells_getElem?_eq_some_iff {ps : List ValueType} {args : List Argument} {i : Nat}
    {c : Cell} : (argumentCells ps args)[i]? = some c ↔
      ∃ p x, ps[i]? = some p ∧ args[i]? = some x ∧ x.toCell p.descriptor = c :=
  List.getElem?_zipWith_eq_some

/-- Behind any registers, a layout holds the cell of each argument in the first slot of its
parameter. -/
theorem peek_layout {f : Frame} {before : List Register} {mark : Nat} {ps : List ValueType}
    {args : List Argument} (hf : f.registers = before ++ layout mark ps args)
    (hlen : args.length = ps.length) :
    List.Forall₂ (fun i c => RegisterFile.peek f i = .ok c) (firstSlots before.length ps)
      (argumentCells ps args) := by
  induction ps generalizing before mark args with
  | nil => exact .nil
  | cons p ps ih =>
    obtain - | ⟨a, args⟩ := args
    · simp at hlen
    -- the registers of this argument move over to those already passed
    have hshift : f.registers =
        (before ++ List.replicate p.width ⟨a.toCell p.descriptor, mark⟩) ++
          layout (mark + 1) ps args := by
      rw [hf, layout, List.append_assoc]
    have hrest := ih hshift (by simpa using hlen)
    rw [List.length_append, List.length_replicate] at hrest
    refine .cons ?_ hrest
    have hw := p.width_pos
    have hfirst : f.registers[before.length]? = some ⟨a.toCell p.descriptor, mark⟩ := by
      rw [hshift, List.append_assoc, List.getElem?_append_right (Nat.le_refl _), Nat.sub_self,
        List.getElem?_append_left (by simpa using hw), List.getElem?_replicate, if_pos hw]
    show f.peekAt before.length = _
    rw [peekAt_natCast, hfirst]

theorem length_receiverRegisters (s : Signature) (receiver : Argument) :
    (receiverRegisters s receiver).length = s.receiverWidth := by
  cases hs : s.isStatic <;> simp [receiverRegisters, Signature.receiverWidth, hs]

end Frame

/-- What is read back from a layout is what the cells of its arguments give. -/
theorem marshal_layout (r : Resolver) (h : Heap) {s : Signature} (f : Frame) {receiver : Argument}
    {args : List Argument} (hlen : args.length = s.parameters.length)
    (hf : f.registers = Frame.receiverRegisters s receiver ++ Frame.layout 1 s.parameters args) :
    f.registers.length = s.registerCount ∧
      marshal r h f s = r.readCells h 0 s.parameters (Frame.argumentCells s.parameters args) := by
  have hcount : f.registers.length = s.registerCount := by
    rw [hf, List.length_append, Frame.length_receiverRegisters, Frame.length_layout hlen]
    rfl
  have hpeek := Frame.peek_layout hf hlen
  rw [Frame.length_receiverRegisters] at hpeek
  refine ⟨hcount, ?_⟩
  have hread := @marshalFrom_eq_readCells _ _ r h f f.registers.length s.parameters _ 0
    s.receiverWidth (Nat.le_of_eq hcount.symm) hpeek
  have hreceiver : ¬ f.registers.length < s.receiverWidth := by
    rw [hcount, Signature.registerCount]
    omega
  rw [marshal_of_count rfl, if_neg hreceiver, hread]

/-! ## The outcome, argument by argument -/

namespace Resolver

variable {r : Resolver} {h : Heap}

/-- Both steps for the parameter at a place succeed. -/
def Reads (r : Resolver) (h : Heap) (p : ValueType) (place : Nat) (c : Cell) : Prop :=
  (∃ v, r.coerced h p place c = .ok v) ∧ ∃ t, r.hostType p = .ok t

/-- The first step that fails for the parameter at a place: its cell is coerced before its type is
resolved. -/
def FailsToRead (r : Resolver) (h : Heap) (p : ValueType) (place : Nat) (c : Cell) (e : Failure) :
    Prop :=
  r.coerced h p place c = .error e ∨ (∃ v, r.coerced h p place c = .ok v) ∧ r.hostType p = .error e

/-- Reading one more parameter. -/
theorem readCells_cons (place : Nat) (p : ValueType) (ps : List ValueType) (c : Cell)
    (cs : List Cell) : r.readCells h place (p :: ps) (c :: cs) =
      r.coerced h p place c >>= fun v => r.hostType p >>= fun t =>
        r.readCells h (place + 1) ps cs >>= fun rest =>
          .ok ⟨v :: rest.values, t :: rest.types⟩ := rfl

/-- Reading succeeds when each parameter does, with its value and its type in its place. -/
theorem readCells_eq_ok_iff {place : Nat} {ps : List ValueType} {cs : List Cell} {a : Arguments}
    (hlen : cs.length = ps.length) :
    r.readCells h place ps cs = .ok a ↔
      a.values.length = ps.length ∧ a.types.length = ps.length ∧
        ∀ i p c, ps[i]? = some p → cs[i]? = some c →
          ∃ v t, r.coerced h p (place + i) c = .ok v ∧ r.hostType p = .ok t ∧
            a.values[i]? = some v ∧ a.types[i]? = some t := by
  induction ps generalizing place cs a with
  | nil =>
    obtain ⟨vs, ts⟩ := a
    simp [readCells, eq_comm]
  | cons p ps ih =>
    obtain - | ⟨c, cs⟩ := cs
    · simp at hlen
    have hlen' : cs.length = ps.length := by simpa using hlen
    simp only [readCells_cons, bind_eq_ok_iff]
    constructor
    · rintro ⟨v, hv, t, ht, rest, hrest, hrfl⟩
      obtain rfl : ⟨v :: rest.values, t :: rest.types⟩ = a := by simpa using hrfl
      obtain ⟨hvs, hts, hall⟩ := (ih hlen').1 hrest
      refine ⟨by simpa using hvs, by simpa using hts, ?_⟩
      intro i q d hq hd
      cases i with
      | zero =>
        obtain rfl : p = q := by simpa using hq
        obtain rfl : c = d := by simpa using hd
        exact ⟨v, t, hv, ht, rfl, rfl⟩
      | succ i =>
        have := hall i q d hq hd
        rwa [Nat.add_right_comm, Nat.add_assoc] at this
    · rintro ⟨hvs, hts, hall⟩
      obtain ⟨vs, ts⟩ := a
      obtain ⟨v, t, hv, ht, hv0, ht0⟩ := hall 0 p c rfl rfl
      obtain - | ⟨w, vs⟩ := vs
      · simp at hv0
      obtain - | ⟨u, ts⟩ := ts
      · simp at ht0
      obtain rfl : w = v := by simpa using hv0
      obtain rfl : u = t := by simpa using ht0
      have hvs' : vs.length = ps.length := by simpa using hvs
      have hts' : ts.length = ps.length := by simpa using hts
      refine ⟨w, hv, u, ht, ⟨vs, ts⟩, (ih hlen').2 ⟨hvs', hts', ?_⟩, rfl⟩
      intro i q d hq hd
      have := hall (i + 1) q d hq hd
      rwa [← Nat.add_assoc, Nat.add_right_comm] at this

/-- Reading fails with the failure of the first parameter that fails. -/
theorem readCells_eq_error_iff {place : Nat} {ps : List ValueType} {cs : List Cell} {e : Failure}
    (hlen : cs.length = ps.length) :
    r.readCells h place ps cs = .error e ↔
      ∃ i p c, ps[i]? = some p ∧ cs[i]? = some c ∧ r.FailsToRead h p (place + i) c e ∧
        ∀ j < i, ∀ q d, ps[j]? = some q → cs[j]? = some d → r.Reads h q (place + j) d := by
  induction ps generalizing place cs with
  | nil => simp [readCells]
  | cons p ps ih =>
    obtain - | ⟨c, cs⟩ := cs
    · simp at hlen
    have hlen' : cs.length = ps.length := by simpa using hlen
    simp only [readCells_cons, bind_eq_error_iff]
    constructor
    · rintro (hv | ⟨v, hv, ht | ⟨t, ht, hrest | ⟨rest, -, hok⟩⟩⟩)
      · exact ⟨0, p, c, rfl, rfl, .inl hv, fun _ hj => absurd hj (Nat.not_lt_zero _)⟩
      · exact ⟨0, p, c, rfl, rfl, .inr ⟨⟨v, hv⟩, ht⟩, fun _ hj => absurd hj (Nat.not_lt_zero _)⟩
      · obtain ⟨i, q, d, hq, hd, hfail, hbefore⟩ := (ih hlen').1 hrest
        refine ⟨i + 1, q, d, hq, hd, ?_, ?_⟩
        · rwa [Nat.add_right_comm, Nat.add_assoc] at hfail
        · intro j hj q' d' hq' hd'
          cases j with
          | zero =>
            obtain rfl : p = q' := by simpa using hq'
            obtain rfl : c = d' := by simpa using hd'
            exact ⟨⟨v, hv⟩, t, ht⟩
          | succ j =>
            have := hbefore j (by omega) q' d' hq' hd'
            rwa [Nat.add_right_comm, Nat.add_assoc] at this
      · simp at hok
    · rintro ⟨i, q, d, hq, hd, hfail, hbefore⟩
      cases i with
      | zero =>
        obtain rfl : p = q := by simpa using hq
        obtain rfl : c = d := by simpa using hd
        obtain hv | ⟨⟨v, hv⟩, ht⟩ := hfail
        · exact .inl hv
        · exact .inr ⟨v, hv, .inl ht⟩
      | succ i =>
        obtain ⟨⟨v, hv⟩, t, ht⟩ := hbefore 0 (Nat.succ_pos i) p c rfl rfl
        refine .inr ⟨v, hv, .inr ⟨t, ht, .inl ((ih hlen').2 ⟨i, q, d, hq, hd, ?_, ?_⟩)⟩⟩
        · rwa [← Nat.add_assoc, Nat.add_right_comm] at hfail
        · intro j hj q' d' hq' hd'
          have := hbefore (j + 1) (by omega) q' d' hq' hd'
          rwa [← Nat.add_assoc, Nat.add_right_comm] at this

end Resolver

/-- **Layout and marshaling agree.**  A layout has as many registers as the call uses, and reading
it back gives each argument coerced for its parameter, with the host type of that parameter, or else
the failure of the first step that fails. -/
theorem marshal_forCall (r : Resolver) (h : Heap) (s : Signature) (receiver : Argument)
    (args : List Argument) (hlen : args.length = s.parameters.length) :
    ∃ f, Frame.forCall s args receiver = .ok f ∧ f.registers.length = s.registerCount ∧
      (∀ a, marshal r h f s = .ok a ↔
        a.values.length = args.length ∧ a.types.length = args.length ∧
          ∀ i p x, s.parameters[i]? = some p → args[i]? = some x →
            ∃ v t, r.coerced h p i (x.toCell p.descriptor) = .ok v ∧ r.hostType p = .ok t ∧
              a.values[i]? = some v ∧ a.types[i]? = some t) ∧
      (∀ e, marshal r h f s = .error e ↔
        ∃ i p x, s.parameters[i]? = some p ∧ args[i]? = some x ∧
          r.FailsToRead h p i (x.toCell p.descriptor) e ∧
          ∀ j < i, ∀ q y, s.parameters[j]? = some q → args[j]? = some y →
            r.Reads h q j (y.toCell q.descriptor)) := by
  have hforCall : Frame.forCall s args receiver = .ok ⟨Frame.receiverRegisters s receiver ++
      Frame.layout 1 s.parameters args, none, args.length + 1⟩ := by
    rw [Frame.forCall, if_neg (not_not.2 hlen)]
  obtain ⟨hcount, hread⟩ := marshal_layout r h ⟨Frame.receiverRegisters s receiver ++
    Frame.layout 1 s.parameters args, none, args.length + 1⟩ hlen rfl
  have hcells : (Frame.argumentCells s.parameters args).length = s.parameters.length := by
    rw [Frame.argumentCells, List.length_zipWith, hlen, Nat.min_self]
  refine ⟨_, hforCall, hcount, fun a => ?_, fun e => ?_⟩
  · rw [hread, Resolver.readCells_eq_ok_iff hcells, hlen]
    refine and_congr_right fun _ => and_congr_right fun _ => ?_
    constructor
    · intro hall i p x hp hx
      have hc := Frame.argumentCells_getElem?_eq_some_iff.2 ⟨p, x, hp, hx, rfl⟩
      simpa using hall i p _ hp hc
    · intro hall i p c hp hc
      obtain ⟨q, x, hq, hx, rfl⟩ := Frame.argumentCells_getElem?_eq_some_iff.1 hc
      obtain rfl : p = q := Option.some.inj (hp.symm.trans hq)
      simpa using hall i p x hp hx
  · rw [hread, Resolver.readCells_eq_error_iff hcells]
    constructor
    · rintro ⟨i, p, c, hp, hc, hfail, hbefore⟩
      obtain ⟨q, x, hq, hx, rfl⟩ := Frame.argumentCells_getElem?_eq_some_iff.1 hc
      obtain rfl : p = q := Option.some.inj (hp.symm.trans hq)
      refine ⟨i, p, x, hp, hx, by simpa using hfail, fun j hj q y hq hy => ?_⟩
      have hd := Frame.argumentCells_getElem?_eq_some_iff.2 ⟨q, y, hq, hy, rfl⟩
      simpa using hbefore j hj q _ hq hd
    · rintro ⟨i, p, x, hp, hx, hfail, hbefore⟩
      have hc := Frame.argumentCells_getElem?_eq_some_iff.2 ⟨p, x, hp, hx, rfl⟩
      refine ⟨i, p, _, hp, hc, by simpa using hfail, fun j hj q d hq hd => ?_⟩
      obtain ⟨q', y, hq', hy, rfl⟩ := Frame.argumentCells_getElem?_eq_some_iff.1 hd
      obtain rfl : q = q' := Option.some.inj (hq.symm.trans hq')
      simpa using hbefore j hj q y hq hy

/-- A receiver, a long and a byte that is tagged as an integer take four registers; the byte wraps
around. -/
theorem marshal_long_byte :
    let s : Signature := ⟨"La;", "a", "f", [.primitive .long, .primitive .byte], "V", false⟩
    let args : List Argument := [.value (.integer 7), .cell ⟨.integer 300, [.ofChar 'I']⟩]
    args.length = s.parameters.length ∧
      ∃ f, Frame.forCall s args (.value (.text "x")) = .ok f ∧ f.registers.length = 4 ∧
        marshal ⟨{}, {}, {}⟩ {} f s =
          .ok ⟨[.scalar (.long 7), .scalar (.byte 44)], [.scalar .long, .scalar .byte]⟩ := by
  intro s args
  refine ⟨rfl, ?_⟩
  obtain ⟨f, hf, hcount, hok, -⟩ :=
    marshal_forCall ⟨{}, {}, {}⟩ {} s (.value (.text "x")) args rfl
  refine ⟨f, hf, hcount, (hok _).2 ⟨rfl, rfl, fun i p x hp hx => ?_⟩⟩
  match i with
  | 0 =>
    obtain rfl : ValueType.primitive .long = p := Option.some.inj hp
    obtain rfl : Argument.value (.integer 7) = x := Option.some.inj hx
    exact ⟨_, _, rfl, rfl, rfl, rfl⟩
  | 1 =>
    obtain rfl : ValueType.primitive .byte = p := Option.some.inj hp
    obtain rfl : Argument.cell ⟨.integer 300, [.ofChar 'I']⟩ = x := Option.some.inj hx
    exact ⟨_, _, rfl, rfl, rfl, rfl⟩
  | _ + 2 => simp [s] at hp

end HostCall
