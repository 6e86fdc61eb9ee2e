import HostCall.Conversion
import HostCall.Proofs.Result
import Mathlib.Data.List.Forall2

/-!
# What adaptation lets through

`Value.adapt` passes a value on or converts it, by identity, widening, boxing or unboxing.  Whatever
it gives fits the declared type: `typeOf_of_convert` for the conversions, and `fits_of_adapt` for
all of its branches.  `forall₂_fits_of_adaptFrom` carries this along a list of arguments.
-/

namespace HostCall

open Result

/-- An array, bytes, or a sequence that is no text. -/
def Value.IsArray (u : Universe) (v : Value) : Prop :=
  u.isInstance v .array = .ok true ∨ u.isInstance v .bytes = .ok true ∨
    u.isInstance v .byteArray = .ok true ∨
      (u.isInstance v (.declared HostType.sequence) = .ok true ∧ u.isInstance v .text = .ok false)

/-- A value that may stand where a type is declared: null for any type but the scalar ones, anything
for the universal type, an array or a sequence for an array type, and else an instance. -/
structure Value.Fits (u : Universe) (v : Value) (t : HostType) : Prop where
  known : v ≠ .unknown
  typed : (v = .null ∧ u.isPrimitive t = false) ∨ t = .object ∨
    ((t = .list ∨ t = .array) ∧ v.IsArray u) ∨ u.isInstance v t = .ok true

/-! ## Conversions keep to the declared type -/

namespace Scalar

theorem kind_of_exactly? {k : Kind} {n : Int} {s : Scalar} (h : exactly? k n = some s) :
    s.kind = k := by
  obtain rfl : ofInt k n = s := by
    unfold exactly? at h
    split at h
    · exact Option.some.inj h
    · exact Option.some.inj h
    · split at h
      · exact Option.some.inj h
      · cases h
  exact kind_ofInt k n

end Scalar

namespace Value

theorem kind_of_integerToScalar {k : Kind} {n : Int} {s : Scalar}
    (h : integerToScalar k n = .ok s) : s.kind = k := by
  unfold integerToScalar at h
  split at h
  · cases h
    rfl
  · obtain ⟨x, -, hs⟩ := bind_eq_ok_iff.1 h
    cases hs
    exact Scalar.kind_ofBinary _ x
  · obtain ⟨x, -, hs⟩ := bind_eq_ok_iff.1 h
    cases hs
    exact Scalar.kind_ofBinary _ x
  · split at h
    · cases h
    · split at h
      · rename_i s' hs'
        cases h
        exact Scalar.kind_of_exactly? hs'
      · cases h

theorem kind_of_unbox {k : Kind} {v : Value} {s : Scalar} (h : v.unbox k = .ok s) : s.kind = k := by
  cases v with
  | text t =>
    obtain ⟨n, -, hn⟩ := bind_eq_ok_iff.1 h
    exact kind_of_integerToScalar hn
  | boolean b =>
    cases h
    exact Scalar.kind_ofInt k _
  | integer n => exact kind_of_integerToScalar h
  | real x =>
    cases h
    exact Scalar.kind_ofBinary k x
  | _ => cases h

theorem typeOf_box (s : Scalar) : (box s).typeOf = s.kind.boxed := by
  cases s <;> rfl

theorem box_ne_unknown (s : Scalar) : box s ≠ .unknown := by
  cases s <;> simp [box]

/-- A conversion ends in the declared type exactly. -/
theorem typeOf_of_convert {position : Int} {v a : Value} {t : HostType}
    (h : v.convert position t = .ok a) : a ≠ .unknown ∧ a.typeOf = t := by
  unfold convert at h
  split at h
  -- a scalar widened
  · rename_i k s
    split at h
    · cases h
      exact ⟨by simp, congrArg HostType.scalar (Scalar.kind_castTo k s)⟩
    · cases h
  -- a host value unboxed
  · rename_i k _
    split at h
    · rw [mapError_eq_ok_iff, map_eq_ok_iff] at h
      obtain ⟨s, hs, rfl⟩ := h
      exact ⟨by simp, congrArg HostType.scalar (kind_of_unbox hs)⟩
    · cases h
  -- a scalar boxed
  · rename_i s _
    split at h
    · rename_i hb
      cases h
      exact ⟨box_ne_unknown s, (typeOf_box s).trans hb⟩
    · cases h
  · cases h

/-! ## All branches of adaptation -/

theorem isInstance_of_isInstanceOfAny {u : Universe} {v : Value} {ts : List HostType}
    (h : u.isInstanceOfAny v ts = .ok true) : ∃ t ∈ ts, u.isInstance v t = .ok true := by
  induction ts with
  | nil => cases h
  | cons t ts ih =>
    obtain ⟨found, hfound, h⟩ := bind_eq_ok_iff.1 h
    cases found with
    | true => exact ⟨t, List.mem_cons_self, hfound⟩
    | false =>
      obtain ⟨s, hs, hinstance⟩ := ih h
      exact ⟨s, List.mem_cons_of_mem t hs, hinstance⟩

/-- What is no instance of any of the classes is none of the first. -/
theorem isInstance_head_of_isInstanceOfAny {u : Universe} {v : Value} {t : HostType}
    {ts : List HostType} (h : u.isInstanceOfAny v (t :: ts) = .ok false) :
    u.isInstance v t = .ok false := by
  obtain ⟨found, hfound, h⟩ := bind_eq_ok_iff.1 h
  cases found with
  | true => cases h
  | false => exact hfound

theorem isArray_of_passesAsArray {u : Universe} {v : Value} (h : u.passesAsArray v = .ok true) :
    v.IsArray u := by
  have hbytes (h : u.isInstanceOfAny v [.bytes, .byteArray] = .ok true) : v.IsArray u := by
    obtain ⟨t, ht, hinstance⟩ := isInstance_of_isInstanceOfAny h
    rcases List.mem_pair.1 ht with rfl | rfl
    · exact .inr (.inl hinstance)
    · exact .inr (.inr (.inl hinstance))
  obtain ⟨array, harray, h⟩ := bind_eq_ok_iff.1 h
  cases array with
  | true => exact .inl harray
  | false =>
    obtain ⟨sequence, hsequence, h⟩ := bind_eq_ok_iff.1 h
    cases sequence with
    | false => exact hbytes h
    | true =>
      obtain ⟨text, htext, h⟩ := bind_eq_ok_iff.1 h
      cases text with
      | false => exact .inr (.inr (.inr ⟨hsequence, isInstance_head_of_isInstanceOfAny htext⟩))
      | true => exact hbytes h

/-- **What adaptation gives fits the declared type.** -/
theorem fits_of_adapt {u : Universe} {position : Int} {v a : Value} {t : HostType}
    (h : adapt u position v t = .ok a) : a.Fits u t := by
  unfold adapt at h
  split at h
  · cases h
  · split at h
    · cases h
    · rename_i hp
      cases h
      exact ⟨by simp, .inl ⟨rfl, by simpa using hp⟩⟩
  · rename_i hunknown hnull
    split at h
    · rename_i ht
      cases h
      exact ⟨hunknown, .inr (.inl ht)⟩
    · split at h
      -- an array type
      · rename_i ht
        obtain ⟨passes, hpasses, h⟩ := bind_eq_ok_iff.1 h
        cases passes with
        | false => cases h
        | true =>
          cases h
          have ht' : t = .list ∨ t = .array := by simpa [HostType.isArrayType] using ht
          have harray := isArray_of_passesAsArray (mapError_eq_ok_iff.1 hpasses)
          exact ⟨hunknown, .inr (.inr (.inl ⟨ht', harray⟩))⟩
      -- any other type
      · obtain ⟨passes, hpasses, h⟩ := bind_eq_ok_iff.1 h
        cases passes with
        | true =>
          cases h
          exact ⟨hunknown, .inr (.inr (.inr (mapError_eq_ok_iff.1 hpasses)))⟩
        | false =>
          obtain ⟨ha, rfl⟩ := typeOf_of_convert (mapError_eq_ok_iff.1 h)
          exact ⟨ha, .inr (.inr (.inr (u.isInstance_typeOf a)))⟩

/-- Adapted arguments keep their order, and each fits the type declared in its place. -/
theorem forall₂_fits_of_adaptFrom {u : Universe} {i : Nat} {vs as : List Value}
    {ts : List HostType} (hlen : vs.length = ts.length) (h : adaptFrom u i vs ts = .ok as) :
    List.Forall₂ (Fits u) as ts := by
  induction ts generalizing i vs as with
  | nil =>
    obtain rfl := List.eq_nil_of_length_eq_zero hlen
    cases h
    exact .nil
  | cons t ts ih =>
    obtain - | ⟨v, vs⟩ := vs
    · simp at hlen
    obtain ⟨a, ha, htail⟩ := bind_eq_ok_iff.1 h
    obtain ⟨rest, hrest, has⟩ := bind_eq_ok_iff.1 htail
    cases has
    exact .cons (fits_of_adapt ha) (ih (by simpa using hlen) hrest)

end Value

end HostCall
