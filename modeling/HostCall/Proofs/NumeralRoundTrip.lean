import HostCall.Proofs.Numeral
import HostCall.Proofs.Passage

/-!
# Numerals that are written and read back

The classes of boxed integers write a number in decimal with its sign, and in other radices without
a sign, as its residue modulo the width.  The readers take signed numbers within the bounds of their
own class.  So what is written in decimal comes back, and what is written without a sign comes back
from the wider class as the residue, which for a number below zero is beyond the bounds of its own.

The calls are told apart from the numerals: a reader gives what `parseInteger` gives
(`parseText_int`, `parseTextIn_int` and the like), a writer the text that `Text.ofInt` or
`unsignedNumeral` makes, and the rest is `parseInteger_of_writes`.

Main statement: `parse_written`.
-/

namespace HostCall

open Result Library

namespace HostClass

/-- The numeral that a class makes of a value. -/
def writeText (c : HostClass) (member : Text) (k : Kind) (v : Value) : BridgeM Value :=
  c.callStatic member [.primitive k] textDescriptor [v]

/-- What a class reads from a text in decimal. -/
def parseText (c : HostClass) (member returnType t : Text) : BridgeM Value :=
  c.callStatic member [.reference textDescriptor] returnType [.text t]

/-- What a class reads from a text in a radix. -/
def parseTextIn (c : HostClass) (member returnType t : Text) (radix : Value) : BridgeM Value :=
  c.callStatic member [.reference textDescriptor, .primitive .int] returnType [.text t, radix]

end HostClass

namespace Library

open Literal

variable {v radix : Value} {h : Heap}

/-! ## Writers -/

theorem resolveClass_owner (c : Boxed) :
    Resolver.standard.resolveClass c.owner.name = .ok c.owner :=
  Resolver.bindsLibrary_standard.resolveClass_owner c

/-- A numeral that is not too long is written. -/
theorem text_decimalText {x : Except HostError Int} {n : Int} (hx : x = .ok n)
    (hn : isWritable n = true) (h : Heap) :
    HostM.text (do decimalText (← x)) h = (.ok (.text (Text.ofInt n)), h) := by
  rw [hx, ok_bind, decimalText, if_pos hn]
  rfl

theorem writeText_toString {n : Int32} (hv : v.denoted? = some n.toInt) :
    Boxed.integer.owner.writeText "toString" .int v h = (.ok (.text (Text.ofInt n.toInt)), h) := by
  refine HostClass.callStatic_variant (c := Boxed.integer.owner)
    (x := .ok (.text (Text.ofInt n.toInt))) [Passage.int n hv] (resolveClass_owner .integer) rfl rfl
    (by decide) (by decide) (List.mem_of_getElem? (i := 1) rfl) rfl ?_
  rw [List.map_singleton, Passage.received_int, Resolver.unary_call]
  exact text_decimalText rfl (isWritable_toInt n) h

/-- A boxed integer writes itself in the same way. -/
theorem call_toString_integer (n : Int32) :
    Boxed.integer.owner.call "toString" [] textDescriptor (.integer n.toInt) [] h =
      (.ok (.text (Text.ofInt n.toInt)), h) := by
  refine HostClass.call_variant (c := Boxed.integer.owner) (v := .integer n.toInt)
    (x := .ok (.text (Text.ofInt n.toInt))) [] (resolveClass_owner .integer) ⟨rfl, rfl⟩ (by simp)
    (by simp) rfl (by decide) (by decide) (List.mem_of_getElem? (i := 0) rfl) rfl ?_
  rw [List.map_nil, Resolver.unary_call]
  exact text_decimalText rfl (isWritable_toInt n) h

theorem writeText_valueOf {n : Int64} (hv : v.denoted? = some n.toInt) :
    textClass.writeText "valueOf" .long v h = (.ok (.text (Text.ofInt n.toInt)), h) := by
  refine HostClass.callStatic_variant (c := textClass)
    (x := .ok (.text (Text.ofInt n.toInt))) [Passage.long n hv]
    Resolver.bindsLibrary_standard.resolveClass_text rfl rfl (by decide) (by decide)
    (List.mem_of_getElem? (i := 2) rfl) rfl ?_
  rw [List.map_singleton, Passage.received_long]
  rfl

/-- A writer of residues. -/
def unsignedWriter (name : Text) (bits base : Nat) : Callable :=
  .unary name "value" fun v => HostM.text do return unsignedNumeral bits base (← v.toInteger)

theorem unsignedWriter_call {name : Text} {bits base : Nat} {s : Scalar} {n : Int}
    (hs : s.toInt? = some n) :
    (unsignedWriter name bits base).call [.scalar s] h =
      (.ok (.text (unsignedNumeral bits base n)), h) := by
  have hread : (Value.scalar s).toInteger = .ok n := by
    cases s <;> cases hs <;> rfl
  show HostM.text (do return unsignedNumeral bits base (← (Value.scalar s).toInteger)) h = _
  rw [hread]
  rfl

/-- The numeral that a class makes of what is received. -/
theorem writeText_unsigned {c : Boxed} {p : Passage .standard} {k : Kind} {s : Scalar} {n : Int}
    {member name : Text} {bits base : Nat} (hp : p.parameter = .primitive k)
    (hreceived : p.received = .scalar s) (hs : s.toInt? = some n)
    (haccess : Text.startsWith "_" member = false)
    (hmember : Universe.standard.member? c.owner.members member =
      some (.staticMethod (unsignedWriter name bits base))) :
    c.owner.writeText member k p.given h = (.ok (.text (unsignedNumeral bits base n)), h) := by
  rw [HostClass.writeText, ← hp]
  refine HostClass.callStatic_plain (x := .ok (.text (unsignedNumeral bits base n))) [p]
    (resolveClass_owner c) haccess hmember rfl ?_
  rw [List.map_singleton, hreceived]
  exact unsignedWriter_call hs

theorem writeText_toHexString {n : Int32} (hv : v.denoted? = some n.toInt) :
    Boxed.integer.owner.writeText "toHexString" .int v h =
      (.ok (.text (unsignedNumeral 32 16 n.toInt)), h) :=
  writeText_unsigned (c := .integer) (p := .int n hv) rfl (Passage.received_int n hv) rfl rfl rfl

theorem writeText_toBinaryString {n : Int32} (hv : v.denoted? = some n.toInt) :
    Boxed.integer.owner.writeText "toBinaryString" .int v h =
      (.ok (.text (unsignedNumeral 32 2 n.toInt)), h) :=
  writeText_unsigned (c := .integer) (p := .int n hv) rfl (Passage.received_int n hv) rfl rfl rfl

theorem writeText_toHexString_long {n : Int64} (hv : v.denoted? = some n.toInt) :
    Boxed.long.owner.writeText "toHexString" .long v h =
      (.ok (.text (unsignedNumeral 64 16 n.toInt)), h) :=
  writeText_unsigned (c := .long) (p := .long n hv) rfl (Passage.received_long n hv) rfl rfl rfl

/-! ## Readers -/

/-- What a reader makes of the integer that it finds. -/
def readWith (f : Int → Scalar) (t : Text) (radix low high : Int) : Except HostError Value :=
  (parseInteger (some t) radix low high).map fun m => .scalar (f m)

/-- A reader fails under its own name. -/
def readOutcome (c : Boxed) (x : Except HostError Value) : Except Failure Value :=
  x.mapError fun e => .wrapping e (.target (Resolver.label c.owner (c.memberName .parse)) e)

theorem parseText_int (t : Text) :
    Boxed.integer.owner.parseText "parseInt" "I" t h =
      (readOutcome .integer (readWith (fun m => .int (Int32.ofInt m)) t 10 intMin intMax), h) :=
  (Resolver.reflect_static_received [.text t] rfl rfl (resolveClass_owner .integer)).trans
    (invokeStatic_integer (s := some t) Resolver.bindsLibrary_standard).2

theorem parseText_long (t : Text) :
    Boxed.long.owner.parseText "parseLong" "J" t h =
      (readOutcome .long (readWith (fun m => .long (Int64.ofInt m)) t 10 longMin longMax), h) :=
  (Resolver.reflect_static_received [.text t] rfl rfl (resolveClass_owner .long)).trans
    (invokeStatic_long (s := some t) Resolver.bindsLibrary_standard).2

theorem parseTextIn_int (t : Text) {b : Int32} (hradix : radix.denoted? = some b.toInt) :
    Boxed.integer.owner.parseTextIn "parseInt" "I" t radix h =
      (readOutcome .integer (readWith (fun m => .int (Int32.ofInt m)) t b.toInt intMin intMax),
        h) := by
  refine HostClass.callStatic_variant (c := Boxed.integer.owner) [.text t, Passage.int b hradix]
    (resolveClass_owner .integer) rfl rfl (by decide) (by decide)
    (List.mem_of_getElem? (i := 1) rfl) rfl ?_
  rw [List.map_cons, List.map_singleton, Passage.received_int]
  exact scalar_apply (parseInteger (some t) b.toInt intMin intMax)
    (fun m => .int (Int32.ofInt m)) h

theorem parseTextIn_long (t : Text) {b : Int32} (hradix : radix.denoted? = some b.toInt) :
    Boxed.long.owner.parseTextIn "parseLong" "J" t radix h =
      (readOutcome .long (readWith (fun m => .long (Int64.ofInt m)) t b.toInt longMin longMax),
        h) := by
  refine HostClass.callStatic_variant (c := Boxed.long.owner) [.text t, Passage.int b hradix]
    (resolveClass_owner .long) rfl rfl (by decide) (by decide)
    (List.mem_of_getElem? (i := 1) rfl) rfl ?_
  rw [List.map_cons, List.map_singleton, Passage.received_int]
  exact scalar_apply (parseInteger (some t) b.toInt longMin longMax)
    (fun m => .long (Int64.ofInt m)) h

/-! ## Round trips -/

theorem parseInt_ofInt (n : Int32) :
    Boxed.integer.owner.parseText "parseInt" "I" (Text.ofInt n.toInt) h =
      (.ok (.scalar (.int n)), h) := by
  have hlow := n.le_toInt
  have hhigh := n.toInt_lt
  have hread : parseInteger (some (Text.ofInt n.toInt)) 10 intMin intMax = .ok n.toInt :=
    parseInteger_ofInt (k := 19) (by rw [intMin, intMax]; omega) (by omega) (by decide)
  rw [parseText_int, readWith, hread]
  show (Except.ok (Value.scalar (Scalar.ofInt .int n.toInt)), h) = _
  rw [Passage.ofInt_toInt_int]

theorem parseLong_ofInt (n : Int64) :
    Boxed.long.owner.parseText "parseLong" "J" (Text.ofInt n.toInt) h =
      (.ok (.scalar (.long n)), h) := by
  have hlow := n.le_toInt
  have hhigh := n.toInt_lt
  have hread : parseInteger (some (Text.ofInt n.toInt)) 10 longMin longMax = .ok n.toInt :=
    parseInteger_ofInt (k := 19) (by rw [longMin, longMax]; omega) (by omega) (by decide)
  rw [parseText_long, readWith, hread]
  show (Except.ok (Value.scalar (Scalar.ofInt .long n.toInt)), h) = _
  rw [Passage.ofInt_toInt_long]

theorem writes_unsignedNumeral {base : Nat} (hb : 2 ≤ base) (hb' : base ≤ 36) (bits : Nat)
    (n : Int) : Writes base [] (unsignedNumeral bits base n) (n % (2 ^ bits : Nat)) := by
  have hwrites := writes_numeral hb hb' .none (n % (2 ^ bits : Nat)).toNat
  have hresidue : Sign.none.apply (n % (2 ^ bits : Nat)).toNat = n % (2 ^ bits : Nat) :=
    Int.toNat_of_nonneg (Int.emod_nonneg n (by positivity))
  rwa [hresidue] at hwrites

/-- What is written of a residue in a radix that is a power of two is read wherever it lies between
the bounds, and refused elsewhere. -/
theorem parseInteger_unsignedNumeral {base : Nat} (hb : 2 ≤ base) (hb' : base ≤ 36)
    (hpow : isPowerOfTwo base = true) (bits : Nat) (n : Int) {low : Int} (hlow : low ≤ 0)
    (high : Int) :
    (n % (2 ^ bits : Nat) ≤ high →
      parseInteger (some (unsignedNumeral bits base n)) base low high =
        .ok (n % (2 ^ bits : Nat))) ∧
    (high < n % (2 ^ bits : Nat) →
      parseInteger (some (unsignedNumeral bits base n)) base low high =
        .error (.inputRange (unsignedNumeral bits base n))) := by
  have hwrites := writes_unsignedNumeral hb hb' bits n
  have hnonneg : 0 ≤ n % (2 ^ bits : Nat) := Int.emod_nonneg n (by positivity)
  refine ⟨fun hn => ?_, fun hn => ?_⟩
  · exact parseInteger_of_writes hb hb' (.inl hpow) hwrites ⟨by omega, hn⟩
  · exact parseInteger_of_out_of_range hb hb' (.inl hpow) hwrites (by omega)

theorem parse_unsigned_int {n : Int32} {b : Int32} {base : Nat} (hbase : b.toInt = base)
    (hb : 2 ≤ base) (hb' : base ≤ 36) (hpow : isPowerOfTwo base = true)
    (hradix : radix.denoted? = some (base : Int)) :
    let t := unsignedNumeral 32 base n.toInt
    (∃ y : Int64, Boxed.long.owner.parseTextIn "parseLong" "J" t radix h =
        (.ok (.scalar (.long y)), h) ∧ y.toInt = n.toInt % 2 ^ 32) ∧
      (0 ≤ n.toInt → Boxed.integer.owner.parseTextIn "parseInt" "I" t radix h =
        (.ok (.scalar (.int n)), h)) ∧
      (n.toInt < 0 → ∃ e, Boxed.integer.owner.parseTextIn "parseInt" "I" t radix h =
        (.error (.bridge (.target (Resolver.label Boxed.integer.owner "parseInt") e)), h) ∧
          e.kind = .value) := by
  intro t
  have hlow := n.le_toInt
  have hhigh := n.toInt_lt
  have hlongMin : longMin ≤ 0 := by decide
  have hintMin : intMin ≤ 0 := by decide
  obtain ⟨hlong, -⟩ := parseInteger_unsignedNumeral hb hb' hpow 32 n.toInt hlongMin longMax
  obtain ⟨hint, hrefused⟩ := parseInteger_unsignedNumeral hb hb' hpow 32 n.toInt hintMin intMax
  rw [← hbase] at hradix hlong hint hrefused
  rw [parseTextIn_long t hradix, parseTextIn_int t hradix, readWith, readWith]
  refine ⟨⟨Int64.ofInt (n.toInt % (2 ^ 32 : Nat)), ?_, ?_⟩, fun hn => ?_, fun hn => ?_⟩
  · rw [hlong (by rw [longMax]; omega)]
    rfl
  · exact Int64.toInt_ofInt_of_le (by omega) (by omega)
  · have hsame : n.toInt % (2 ^ 32 : Nat) = n.toInt := by omega
    rw [hint (by rw [intMax]; omega), hsame]
    show (Except.ok (Value.scalar (Scalar.ofInt .int n.toInt)), h) = _
    rw [Passage.ofInt_toInt_int]
  · refine ⟨.inputRange t, ?_, rfl⟩
    rw [hrefused (by rw [intMax]; omega)]
    rfl

/-- **What is written is read back.**  An `int` comes back from its decimal numeral, whether a
static call or a boxed integer writes it.  From its numerals in radix 16 and 2 the wider class reads
its residue modulo `2 ^ 32`; its own class reads it when it is not negative, and else refuses the
text as a bad value.  A `long` comes back from its decimal numeral, and in radix 16 it is written as
the one lowercase numeral of its residue modulo `2 ^ 64` without zeros in front. -/
theorem parse_written (h : Heap) :
    (∀ (v : Value) (n : Int32), v.denoted? = some n.toInt → ∃ t,
      Boxed.integer.owner.writeText "toString" .int v h = (.ok (.text t), h) ∧
      Boxed.integer.owner.call "toString" [] textDescriptor (.integer n.toInt) [] h =
        (.ok (.text t), h) ∧
      Boxed.integer.owner.parseText "parseInt" "I" t h = (.ok (.scalar (.int n)), h)) ∧
    (∀ (v radix : Value) (n : Int32) (member : Text) (base : Nat), v.denoted? = some n.toInt →
      (member, base) ∈ ([("toHexString", 16), ("toBinaryString", 2)] : List (Text × Nat)) →
      radix.denoted? = some (base : Int) → ∃ t,
        Boxed.integer.owner.writeText member .int v h = (.ok (.text t), h) ∧
        (∃ y : Int64, Boxed.long.owner.parseTextIn "parseLong" "J" t radix h =
          (.ok (.scalar (.long y)), h) ∧ y.toInt = n.toInt % 2 ^ 32) ∧
        (0 ≤ n.toInt → Boxed.integer.owner.parseTextIn "parseInt" "I" t radix h =
          (.ok (.scalar (.int n)), h)) ∧
        (n.toInt < 0 → ∃ e, Boxed.integer.owner.parseTextIn "parseInt" "I" t radix h =
          (.error (.bridge (.target (Resolver.label Boxed.integer.owner "parseInt") e)), h) ∧
            e.kind = .value)) ∧
    ∀ (v : Value) (n : Int64), v.denoted? = some n.toInt → ∃ t x,
      textClass.writeText "valueOf" .long v h = (.ok (.text t), h) ∧
      Boxed.long.owner.parseText "parseLong" "J" t h = (.ok (.scalar (.long n)), h) ∧
      Boxed.long.owner.writeText "toHexString" .long v h = (.ok (.text x), h) ∧
      ∀ u : Text, u.IsNumeral 16 (n.toInt % 2 ^ 64).toNat ↔ u = x := by
  refine ⟨?_, ?_, ?_⟩
  · intro v n hv
    exact ⟨Text.ofInt n.toInt, writeText_toString hv, call_toString_integer n,
      parseInt_ofInt n⟩
  · intro v radix n member base hv hmember hradix
    rcases List.mem_pair.1 hmember with hhex | hbinary
    · cases hhex
      exact ⟨_, writeText_toHexString hv,
        parse_unsigned_int (b := 16) rfl (by decide) (by decide) rfl hradix⟩
    · cases hbinary
      exact ⟨_, writeText_toBinaryString hv,
        parse_unsigned_int (b := 2) rfl (by decide) (by decide) rfl hradix⟩
  · intro v n hv
    refine ⟨Text.ofInt n.toInt, unsignedNumeral 64 16 n.toInt, writeText_valueOf hv,
      parseLong_ofInt n, writeText_toHexString_long hv, ?_⟩
    intro u
    exact Text.isNumeral_iff (by decide) (by decide)

/-- Minus one is written with ones alone in radix 2, which only the wider class reads; in decimal it
comes back from both. -/
theorem parse_written_minus_one :
    let v : Value := .integer (-1)
    let radix : Value := .integer 2
    v.denoted? = some (-1) ∧ radix.denoted? = some 2 ∧
      (∃ t, Boxed.integer.owner.writeText "toBinaryString" .int v {} = (.ok (.text t), {}) ∧
        (∃ y : Int64, Boxed.long.owner.parseTextIn "parseLong" "J" t radix {} =
          (.ok (.scalar (.long y)), {}) ∧ y.toInt = 2 ^ 32 - 1) ∧
        ∃ e, Boxed.integer.owner.parseTextIn "parseInt" "I" t radix {} =
          (.error (.bridge (.target (Resolver.label Boxed.integer.owner "parseInt") e)), {}) ∧
            e.kind = .value) ∧
      (∃ t, Boxed.integer.owner.writeText "toString" .int v {} = (.ok (.text t), {}) ∧
        Boxed.integer.owner.parseText "parseInt" "I" t {} = (.ok (.scalar (.int (-1))), {})) ∧
      ∃ t, textClass.writeText "valueOf" .long v {} = (.ok (.text t), {}) ∧
        Boxed.long.owner.parseText "parseLong" "J" t {} = (.ok (.scalar (.long (-1))), {}) := by
  intro v radix
  obtain ⟨hdecimal, hunsigned, hlong⟩ := parse_written {}
  obtain ⟨t, hwrite, ⟨y, hy, hvalue⟩, -, hrefused⟩ :=
    hunsigned v radix (-1) "toBinaryString" 2 rfl (by simp) rfl
  obtain ⟨s, hs, -, hparse⟩ := hdecimal v (-1) rfl
  obtain ⟨u, -, hu, hparse', -⟩ := hlong v (-1) rfl
  exact ⟨rfl, rfl, ⟨t, hwrite, ⟨y, hy, hvalue⟩, hrefused (by decide)⟩, ⟨s, hs, hparse⟩,
    ⟨u, hu, hparse'⟩⟩

end Library

end HostCall
