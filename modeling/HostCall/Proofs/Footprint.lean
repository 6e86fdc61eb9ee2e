import HostCall.Proofs.Layout

/-!
# The registers that marshaling reads

`marshal` moves a cursor along the parameters and reads one register for each of them, where it
begins.  So of a frame that is long enough it sees the first slots and nothing else, and it gives no
arguments for a frame that is too short.

That a register is not read is said with a guard: `Guarded` raises an error of one's choice at every
register that is not open.  Reading passes every error on, so a result that stays the same whatever
the error is cannot come from such a register.

Main statement, `marshal_footprint`, from `marshalFrom_congr`: reading goes the same way on two
frames that hold the same cells where it looks.
-/

namespace HostCall

open Result

/-! ## First slots -/

/-- The register at which the parameter at a place begins: behind the receiver and the parameters
before it. -/
def Signature.firstSlot (s : Signature) (place : Nat) : Nat :=
  s.receiverWidth + ((s.parameters.take place).map ValueType.width).sum

/-- The registers at which the parameters begin, as a cursor passes them, are those of the sums of
the widths before. -/
theorem mem_firstSlots_iff {register i : Nat} {ps : List ValueType} :
    i ∈ firstSlots register ps ↔
      ∃ place < ps.length, register + ((ps.take place).map ValueType.width).sum = i := by
  induction ps generalizing register with
  | nil => simp [firstSlots]
  | cons p ps ih =>
    rw [firstSlots, List.mem_cons, ih]
    constructor
    · rintro (rfl | ⟨place, hplace, hi⟩)
      · exact ⟨0, by simp, by simp⟩
      · refine ⟨place + 1, by simpa using hplace, ?_⟩
        rw [List.take_succ_cons, List.map_cons, List.sum_cons, ← Nat.add_assoc, hi]
    · rintro ⟨place, hplace, hi⟩
      cases place with
      | zero => exact .inl (by simpa using hi.symm)
      | succ place =>
        refine .inr ⟨place, by simpa using hplace, ?_⟩
        rwa [List.take_succ_cons, List.map_cons, List.sum_cons, ← Nat.add_assoc] at hi

/-! ## Guards -/

/-- A frame of which some registers may be read; reading another one raises an error. -/
structure Guarded (σ : Type) where
  frame : σ
  isOpen : Nat → Bool
  error : HostError

instance {σ : Type} [RegisterFile σ] : RegisterFile (Guarded σ) where
  count g := RegisterFile.count g.frame
  peek g i := if g.isOpen i then RegisterFile.peek g.frame i else .error g.error
  assign g i c := (RegisterFile.assign g.frame i c).map fun f => { g with frame := f }
  assignReturn g c := (RegisterFile.assignReturn g.frame c).map fun f => { g with frame := f }
  describe h g := RegisterFile.describe h g.frame

/-! ## Reading along the parameters -/

section

variable {σ τ : Type} [RegisterFile σ] [RegisterFile τ] {r : Resolver} {h : Heap}

/-- Reading one more parameter: its registers must be there, and the first of them is read. -/
theorem marshalFrom_cons (frame : σ) (count place register : Nat) (p : ValueType)
    (ps : List ValueType) : marshalFrom r h frame count place register (p :: ps) =
      if register + p.width > count then
        .error (.bridge (.mismatch (.noRegister place p.descriptor register p.width count)))
      else (RegisterFile.peek frame register).mapError .host >>= fun c =>
        r.coerced h p place c >>= fun v => r.hostType p >>= fun t =>
          marshalFrom r h frame count (place + 1) (register + p.width) ps >>= fun rest =>
            .ok ⟨v :: rest.values, t :: rest.types⟩ := by
  rw [marshalFrom]
  split <;> rfl

theorem length_of_marshalFrom {frame : σ} {count place register : Nat} {ps : List ValueType}
    {a : Arguments} (hread : marshalFrom r h frame count place register ps = .ok a) :
    a.values.length = a.types.length := by
  induction ps generalizing place register a with
  | nil =>
    cases hread
    rfl
  | cons p ps ih =>
    rw [marshalFrom_cons] at hread
    split at hread
    · cases hread
    · obtain ⟨c, -, hread⟩ := bind_eq_ok_iff.1 hread
      obtain ⟨v, -, hread⟩ := bind_eq_ok_iff.1 hread
      obtain ⟨t, -, hread⟩ := bind_eq_ok_iff.1 hread
      obtain ⟨rest, hrest, hread⟩ := bind_eq_ok_iff.1 hread
      cases hread
      exact congrArg (· + 1) (ih hrest)

/-- Arguments that are read have a type each. -/
theorem length_of_marshal {frame : σ} {s : Signature} {a : Arguments}
    (hread : marshal r h frame s = .ok a) : a.values.length = a.types.length := by
  obtain ⟨count, hcount, -⟩ := bind_eq_ok_iff.1 hread
  rw [marshal_of_count (mapError_eq_ok_iff.1 hcount)] at hread
  split at hread
  · cases hread
  · exact length_of_marshalFrom hread

/-- Reading goes the same way on two frames that hold the same where it looks.  How long they are
matters only where one of them is too short. -/
theorem marshalFrom_congr {f : σ} {g : τ} {m n place register : Nat} {ps : List ValueType}
    (hcount : m = n ∨ register + (ps.map ValueType.width).sum ≤ m ∧
      register + (ps.map ValueType.width).sum ≤ n)
    (hagree : ∀ i ∈ firstSlots register ps, i < m → RegisterFile.peek f i = RegisterFile.peek g i) :
    marshalFrom r h f m place register ps = marshalFrom r h g n place register ps := by
  induction ps generalizing place register with
  | nil => rfl
  | cons p ps ih =>
    rw [List.map_cons, List.sum_cons, ← Nat.add_assoc] at hcount
    rw [firstSlots] at hagree
    have hrest := @ih (place + 1) (register + p.width) hcount
      fun i hi => hagree i (List.mem_cons_of_mem _ hi)
    rw [marshalFrom_cons, marshalFrom_cons, hrest]
    by_cases hshort : register + p.width > m
    · obtain rfl | ⟨hm, -⟩ := hcount
      · rw [if_pos hshort, if_pos hshort]
      · omega
    · have hlong : ¬ register + p.width > n := by omega
      have hw := p.width_pos
      rw [if_neg hshort, if_neg hlong, hagree register List.mem_cons_self (by omega)]

/-- Reading gives arguments only where all registers of the parameters are there. -/
theorem le_count_of_marshalFrom {frame : σ} {count place register : Nat} {ps : List ValueType}
    {a : Arguments} (hregister : register ≤ count)
    (ha : marshalFrom r h frame count place register ps = .ok a) :
    register + (ps.map ValueType.width).sum ≤ count := by
  induction ps generalizing place register a with
  | nil => exact hregister
  | cons p ps ih =>
    rw [marshalFrom_cons] at ha
    by_cases hshort : register + p.width > count
    · rw [if_pos hshort] at ha
      cases ha
    · rw [if_neg hshort] at ha
      obtain ⟨c, -, ha⟩ := bind_eq_ok_iff.1 ha
      obtain ⟨v, -, ha⟩ := bind_eq_ok_iff.1 ha
      obtain ⟨t, -, ha⟩ := bind_eq_ok_iff.1 ha
      obtain ⟨rest, hrest, -⟩ := bind_eq_ok_iff.1 ha
      rw [List.map_cons, List.sum_cons, ← Nat.add_assoc]
      exact ih (Nat.not_lt.1 hshort) hrest

/-! ## Reading a frame -/

/-- Two frames of one length, or both long enough, that hold the same cells in the first slots that
they have give the same arguments or the same failure. -/
theorem marshal_congr {f : σ} {g : τ} {s : Signature} {m n : Nat}
    (hf : RegisterFile.count f = .ok m) (hg : RegisterFile.count g = .ok n)
    (hcount : m = n ∨ s.registerCount ≤ m ∧ s.registerCount ≤ n)
    (hagree : ∀ place < s.parameters.length, s.firstSlot place < m →
      RegisterFile.peek f (s.firstSlot place) = RegisterFile.peek g (s.firstSlot place)) :
    marshal r h f s = marshal r h g s := by
  have hslots : ∀ i ∈ firstSlots s.receiverWidth s.parameters, i < m →
      RegisterFile.peek f i = RegisterFile.peek g i := by
    intro i hi him
    obtain ⟨place, hplace, rfl⟩ := mem_firstSlots_iff.1 hi
    exact hagree place hplace him
  have hreceiver : m < s.receiverWidth ↔ n < s.receiverWidth := by
    simp only [Signature.registerCount] at hcount
    omega
  rw [marshal_of_count hf, marshal_of_count hg, marshalFrom_congr hcount hslots]
  simp only [hreceiver]

/-- A frame with fewer registers than the call uses gives no arguments. -/
theorem registerCount_le_of_marshal {f : σ} {s : Signature} {n : Nat} {a : Arguments}
    (hf : RegisterFile.count f = .ok n) (ha : marshal r h f s = .ok a) : s.registerCount ≤ n := by
  rw [marshal_of_count hf] at ha
  by_cases hreceiver : n < s.receiverWidth
  · rw [if_pos hreceiver] at ha
    cases ha
  · rw [if_neg hreceiver] at ha
    exact le_count_of_marshalFrom (Nat.not_lt.1 hreceiver) ha

/-- **Marshaling reads only what the layout says.**  Two frames with all registers of the call that
hold the same cells in the first slots of the parameters give the same arguments or the same
failure, whatever else they hold.  A frame that is too short gives a failure.  And on no frame is a
register read that is not there, or is no first slot: a guard at all of these is never noticed. -/
theorem marshal_footprint (r : Resolver) (h : Heap) (s : Signature) (f : σ) (g : τ) (m n : Nat)
    (hf : RegisterFile.count f = .ok m) (hg : RegisterFile.count g = .ok n) :
    (s.registerCount ≤ m → s.registerCount ≤ n →
      (∀ place < s.parameters.length,
        RegisterFile.peek f (s.firstSlot place) = RegisterFile.peek g (s.firstSlot place)) →
      marshal r h f s = marshal r h g s) ∧
    (m < s.registerCount → ∃ e, marshal r h f s = .error e) ∧
    (∀ e, marshal r h (Guarded.mk f (fun i => i < m &&
      (firstSlots s.receiverWidth s.parameters).elem i) e) s = marshal r h f s) := by
  refine ⟨fun hm hn hagree => ?_, fun hshort => ?_, fun e => ?_⟩
  · exact marshal_congr hf hg (.inr ⟨hm, hn⟩) fun place hplace _ => hagree place hplace
  · cases ha : marshal r h f s with
    | error e => exact ⟨e, rfl⟩
    | ok a => exact absurd (registerCount_le_of_marshal hf ha) (Nat.not_le.2 hshort)
  · refine marshal_congr hf hf (.inl rfl) fun place hplace hlt => if_pos ?_
    have hslot : s.firstSlot place ∈ firstSlots s.receiverWidth s.parameters :=
      mem_firstSlots_iff.2 ⟨place, hplace, rfl⟩
    rw [Bool.and_eq_true]
    exact ⟨decide_eq_true hlt, List.elem_eq_true_of_mem hslot⟩

/-- Two frames for a receiver, a long and a byte that differ in the receiver, in the second register
of the long and in length; and a frame that ends within the parameters. -/
theorem marshal_footprint_long_byte :
    let s : Signature := ⟨"La;", "a", "f", [.primitive .long, .primitive .byte], "V", false⟩
    let long : Cell := ⟨.integer 7, [.ofChar 'J']⟩
    let byte : Cell := ⟨.integer 300, [.ofChar 'I']⟩
    let f := Frame.ofCells [⟨.text "x", "La;"⟩, long, ⟨.unknown, [.ofChar 'J']⟩, byte]
    let g := Frame.ofCells
      [⟨.null, "Lb;"⟩, long, ⟨.integer 0, [.ofChar 'I']⟩, byte, ⟨.unknown, "La;"⟩]
    let short := Frame.ofCells [⟨.text "x", "La;"⟩, long, byte]
    RegisterFile.count f = .ok 4 ∧ RegisterFile.count g = .ok 5 ∧ s.registerCount ≤ 4 ∧
      (∀ place < s.parameters.length,
        RegisterFile.peek f (s.firstSlot place) = RegisterFile.peek g (s.firstSlot place)) ∧
      marshal ⟨{}, {}, {}⟩ {} f s = marshal ⟨{}, {}, {}⟩ {} g s ∧
      RegisterFile.count short = .ok 3 ∧ 3 < s.registerCount ∧
      ∃ e, marshal ⟨{}, {}, {}⟩ {} short s = .error e := by
  intro s long byte f g short
  have hagree : ∀ place < s.parameters.length,
      RegisterFile.peek f (s.firstSlot place) = RegisterFile.peek g (s.firstSlot place) := by
    intro place hplace
    match place, hplace with
    | 0, _ => rfl
    | 1, _ => rfl
  have hsame := (marshal_footprint ⟨{}, {}, {}⟩ {} s f g 4 5 rfl rfl).1 (by decide) (by decide)
    hagree
  have hshort := (marshal_footprint ⟨{}, {}, {}⟩ {} s short g 3 5 rfl rfl).2.1 (by decide)
  exact ⟨rfl, rfl, by decide, hagree, hsame, rfl, by decide, hshort⟩

end

end HostCall
