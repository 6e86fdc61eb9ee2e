import HostCall.Proofs.CharArray
import HostCall.Proofs.Footprint
import HostCall.Proofs.Passage

/-!
# Receivers that are no texts

Nothing compares a receiver with the class that a signature names.  A member of texts that is not
found among the classes of its receiver is therefore taken from the class of texts and run on
whatever the receiver is, and gives a value where its body happens to work there: a list has a
length, bytes have a beginning.  `TextMember.Serves` says for each member what its body asks of the
receiver, as the host answers to it: a length, an item, a part, a sum, whether something stands in
it, or a method that the texts of the host have.

The two directions are kept apart.  `serves_of_call` reads off every body that succeeds what its
receiver has answered, whatever the arguments are, and a planned call reaches a body only with the
receiver in front of arguments that fit (`calls_of_planVirtual`).  `exists_reflect` gives arguments
on which the body succeeds; they come through the registers unchanged, as `Passage`s.

Main statement, `foreign_receiver`: all calls on a receiver that does not serve the member return an
unknown value, and some call on one that does serve it returns another value.  `serves_concat` names
the receivers that a sum is never refused.
-/

namespace HostCall

open Result Library

/-! ## Members and what they ask for -/

/-- The members of texts that objects do not have. -/
inductive TextMember where
  | length
  | isEmpty
  | charAt
  | substring
  | indexOf
  | concat
  | contains
  | startsWith
  | endsWith
  | toUpperCase
  | toLowerCase
  | trim

namespace Value

/-- A receiver or an argument that a call does not refuse for what it is. -/
def IsKnown (v : Value) : Prop := v ≠ .null ∧ v ≠ .unknown

end Value

namespace TextMember

def name : TextMember → Text
  | length => "length"
  | isEmpty => "isEmpty"
  | charAt => "charAt"
  | substring => "substring"
  | indexOf => "indexOf"
  | concat => "concat"
  | contains => "contains"
  | startsWith => "startsWith"
  | endsWith => "endsWith"
  | toUpperCase => "toUpperCase"
  | toLowerCase => "toLowerCase"
  | trim => "trim"

/-- An operation makes a value that is known. -/
def Gives (made : Except HostError (Value × Heap)) : Prop :=
  ∃ y h', made = .ok (y, h') ∧ y ≠ .unknown

/-- What the body of a member asks of its receiver: a length that is an `int`, an item that is a
unit, a part between places that an `int` can name, a sum with something, something that can be
looked for, or the method of the texts of the host that has the same purpose. -/
def Serves (h : Heap) (v : Value) : TextMember → Prop
  | length => ∃ n, v.length h = .ok n ∧ n < 2 ^ 31
  | isEmpty => ∃ n, v.length h = .ok n
  | charAt => ∃ n i w c, v.length h = .ok n ∧ i < n ∧ v.item h i = .ok w ∧
      w.toCodePoint = .ok c ∧ c < 2 ^ 16
  | substring => ∃ n first last, v.length h = .ok n ∧ first ≤ last ∧ last ≤ n ∧ first < 2 ^ 31 ∧
      (last < 2 ^ 31 ∨ last = n) ∧ Gives (v.slice h first last)
  | indexOf => ∃ n : Value, n.typeOf = .text ∧ Gives (placeFound h v (.ok n) (findText v n))
  | concat => v.IsKnown ∧ ∃ w : Value, w.IsKnown ∧ Gives (v.add h w)
  | contains => ∃ w b, w.IsKnown ∧ v.containsValue h w = .ok b
  | startsWith => ∃ w : Value, w.IsKnown ∧ Gives (startOf h v w)
  | endsWith => ∃ w : Value, w.IsKnown ∧ Gives (endOf h v w)
  | toUpperCase => Gives (upper h v)
  | toLowerCase => Gives (lower h v)
  | trim => Gives (trimmed h v)

/-- None of the classes of a receiver has a member of this name. -/
def IsForeign (m : TextMember) (r : Resolver) (v : Value) : Prop :=
  ∀ t ∈ r.membersChain v.typeOf, r.world.ownMember? t m.name = none

instance (m : TextMember) (r : Resolver) (v : Value) : Decidable (m.IsForeign r v) :=
  inferInstanceAs (Decidable (∀ t ∈ r.membersChain v.typeOf, r.world.ownMember? t m.name = none))

theorem member?_name (m : TextMember) :
    Universe.standard.member? textClass.members m.name = textMembers.lookup m.name := by
  cases m <;> rfl

theorem startsWith_name (m : TextMember) : Text.startsWith "_" m.name = false := by
  cases m <;> rfl

/-- A member is a method, or has variants. -/
theorem cases_lookup (m : TextMember) : ∃ member, textMembers.lookup m.name = some member ∧
    ((∃ f, member = .method f) ∨ ∃ set, member = .overloads set) := by
  cases m with
  | substring | indexOf => exact ⟨_, rfl, .inr ⟨_, rfl⟩⟩
  | _ => exact ⟨_, rfl, .inl ⟨_, rfl⟩⟩

/-- The member of a foreign receiver is that of texts. -/
theorem instanceMember?_of_isForeign {r : Resolver} (hr : r.BindsLibrary) (m : TextMember)
    {v : Value} (hforeign : m.IsForeign r v) {member : Member}
    (hm : textMembers.lookup m.name = some member) :
    r.instanceMember? textClass m.name v.typeOf = some (textClass.members, member) := by
  have hnone : (r.membersChain v.typeOf).findSome? (fun t =>
      (r.world.ownMember? t m.name).map fun member => (t, member)) = none := by
    refine List.findSome?_eq_none_iff.2 fun t ht => ?_
    rw [hforeign t ht]
    rfl
  rw [Resolver.instanceMember?, hnone, hr.world, member?_name, hm]
  rfl

/-! ### Calls of a member -/

/-- The instance calls of a member of texts that return something. -/
structure IsCalledBy (m : TextMember) (s : Signature) : Prop where
  owner : s.ownerName = textClass.name
  name : s.name = m.name
  virtual : s.isStatic = false
  returns : s.returnsVoid = false

/-- A call of a member that returns any object. -/
def signature (m : TextMember) (parameters : List ValueType) : Signature :=
  ⟨textDescriptor, textClass.name, m.name, parameters, objectDescriptor, false⟩

theorem isCalledBy_signature (m : TextMember) (parameters : List ValueType) :
    m.IsCalledBy (m.signature parameters) := ⟨rfl, rfl, rfl, rfl⟩

theorem IsCalledBy.isConstructor {m : TextMember} {s : Signature} (hs : m.IsCalledBy s) :
    s.isConstructor = false := by
  rw [Signature.isConstructor, hs.name]
  cases m <;> rfl

end TextMember

/-! ## Bodies that succeed -/

namespace Callable

variable {name p q o : Text} {v x : Value} {args : List Value} {h h' : Heap}

theorem unary_ok {body : Value → HostM Value}
    (hcall : (Callable.unary name p body).call (v :: args) h = (.ok x, h')) :
    body v h = (.ok x, h') := by
  match args with
  | [] => exact hcall
  | _ :: _ => cases hcall

theorem binary_ok {body : Value → Value → HostM Value}
    (hcall : (Callable.binary name p q body).call (v :: args) h = (.ok x, h')) :
    ∃ a, args = [a] ∧ body v a h = (.ok x, h') := by
  match args with
  | [] => cases hcall
  | [a] => exact ⟨a, rfl, hcall⟩
  | _ :: _ :: _ => cases hcall

theorem ternary_ok {body : Value → Value → Value → HostM Value}
    (hcall : (Callable.ternary name p q o body).call (v :: args) h = (.ok x, h')) :
    ∃ a b, args = [a, b] ∧ body v a b h = (.ok x, h') := by
  match args with
  | [] | [_] => cases hcall
  | [a, b] => exact ⟨a, b, rfl, hcall⟩
  | _ :: _ :: _ :: _ => cases hcall

end Callable

theorem HostM.ok_of_read {α : Type} {g : α → Value} {f : Heap → Except HostError α}
    {h h' : Heap} {x : Value}
    (hbody : (do return g (← HostM.read f) : HostM Value) h = (.ok x, h')) :
    ∃ a, f h = .ok a := by
  rw [map_read_apply] at hbody
  obtain ⟨a, ha, -⟩ := map_eq_ok_iff.1 (Prod.mk.inj hbody).1
  exact ⟨a, ha⟩

theorem HostM.update_eq_ok_iff {f : Heap → Except HostError (Value × Heap)} {h h' : Heap}
    {x : Value} : HostM.update f h = (.ok x, h') ↔ f h = .ok (x, h') := by
  rw [HostM.update]
  cases f h with
  | ok made =>
    rw [Prod.mk.injEq, Except.ok.injEq, Except.ok.injEq, Prod.ext_iff]
  | error e =>
    rw [Prod.mk.injEq]
    simp

/-- What may be called where a member is found, with the types that its arguments are adapted to. -/
def Member.Calls (r : Resolver) (f : Callable) (declared : List HostType) : Member → Prop
  | .method g => f = g
  | .overloads set => ∃ w ∈ set.variants, f = w.function ∧ r.variantTypes w = .ok declared
  | _ => False

namespace TextMember

variable {h h' : Heap} {v x : Value}

theorem serves_of_codeAt {a : Value} {s : Scalar} (hs : codeAt h v a = .ok s) :
    charAt.Serves h v := by
  obtain ⟨i, -, hs⟩ := bind_eq_ok_iff.1 hs
  obtain ⟨n, hn, hs⟩ := bind_eq_ok_iff.1 hs
  split at hs
  · next hi =>
    obtain ⟨w, hw, hs⟩ := bind_eq_ok_iff.1 hs
    obtain ⟨c, hc, hs⟩ := bind_eq_ok_iff.1 hs
    have hholds : Kind.char.Holds c :=
      ((Value.integerToScalar_eq_ok_iff rfl (by decide)).1 hs).1
    have hhigh : (c : Int) < 2 ^ 16 := hholds.2
    exact ⟨n, i.toNat, w, c, hn, by omega, hw, hc, by omega⟩
  · cases hs

/-- Where an `int` is declared, a value of that type is passed. -/
theorem typeOf_of_fits_int {a : Value} (ha : a.Fits Universe.standard (.scalar .int)) :
    a.typeOf = .scalar .int := by
  have hinstance : Universe.standard.isInstance a (.scalar .int) =
      .ok (Universe.standard.isSubtype a.typeOf (.scalar .int)) :=
    Universe.isInstance_eq_isSubtype fun _ => rfl
  rcases ha.typed with ⟨-, hprimitive⟩ | hobject | ⟨hlist | harray, -⟩ | htyped
  · cases hprimitive
  · cases hobject
  · cases hlist
  · cases harray
  · rw [hinstance] at htyped
    exact Universe.eq_of_isSubtype_scalar (Except.ok.inj htyped)

theorem toInteger_lt {a : Value} {n : Int} (ha : a.typeOf = .scalar .int)
    (hn : a.toInteger = .ok n) : n < 2 ^ 31 := by
  cases a with
  | scalar s =>
    cases s with
    | int i =>
      obtain rfl := Except.ok.inj hn
      exact i.toInt_lt
    | _ => cases ha
  | object _ _ => cases hn
  | _ => cases ha

/-- Where a text is declared, null or a value of that type is passed. -/
theorem typeOf_of_fits_text {a : Value} (ha : a.Fits Universe.standard .text) (hnull : a ≠ .null) :
    a.typeOf = .text := by
  have hinstance : Universe.standard.isInstance a .text =
      .ok (Universe.standard.isSubtype a.typeOf .text) :=
    Universe.isInstance_eq_isSubtype fun _ => rfl
  rcases ha.typed with ⟨rfl, -⟩ | hobject | ⟨hlist | harray, -⟩ | htyped
  · exact absurd rfl hnull
  · cases hobject
  · cases hlist
  · cases harray
  · rw [hinstance] at htyped
    exact Universe.eq_of_isSubtype_text (Except.ok.inj htyped)

theorem serves_of_sliceBetween {first last : Int} {n : Nat} (hn : v.length h = .ok n)
    (hfirst : first < 2 ^ 31) (hlast : last < 2 ^ 31 ∨ last = n) (hx : x ≠ .unknown)
    (hslice : sliceBetween h v first last = .ok (x, h')) : substring.Serves h v := by
  rw [sliceBetween, hn, ok_bind] at hslice
  split at hslice
  · cases hslice
  · exact ⟨n, first.toNat, last.toNat, hn, by omega, by omega, by omega, by omega, x, h', hslice,
      hx⟩

theorem present_eq_ok {member : Text} {w a : Value} (ha : present member w = .ok a) :
    a = w ∧ w ≠ .null := by
  cases w with
  | null => cases ha
  | _ => exact ⟨(Except.ok.inj ha).symm, by simp⟩

theorem present_of_ne_null {member : Text} {w : Value} (hw : w ≠ .null) :
    present member w = .ok w := by
  cases w with
  | null => exact absurd rfl hw
  | _ => rfl

/-- Bytes are not searched for a text, and nothing else can be searched. -/
theorem findText_ne_ok {n y : Value} (hv : ∀ t, v ≠ .text t) (hn : n.typeOf = .text) :
    findText v n ≠ .ok y := by
  intro hy
  have hneedle : n.buffer? = none ∧ n.index? = none := by
    cases n with
    | text t => exact ⟨rfl, rfl⟩
    | object t place => exact ⟨rfl, rfl⟩
    | _ => cases hn
  cases v with
  | text t => exact absurd rfl (hv t)
  | bytes bs | byteArray bs =>
    simp only [findText, hneedle] at hy
    cases hy
  | _ => cases hy

theorem findCode_ne_ok {c y : Value} (hv : ∀ t, v ≠ .text t) : findCode v c ≠ .ok y := by
  intro hy
  cases v with
  | text t => exact absurd rfl (hv t)
  | bytes bs | byteArray bs =>
    obtain ⟨n, -, hy⟩ := bind_eq_ok_iff.1 hy
    obtain ⟨t, -, hy⟩ := bind_eq_ok_iff.1 hy
    exact findText_ne_ok hv rfl hy
  | _ => cases hy

/-- A code point is searched for as a text. -/
theorem serves_of_findCode {a : Value} (hv : ∀ t, v ≠ .text t) (hx : x ≠ .unknown)
    (hfound : placeFound h v (do return .text (← Value.character (← a.toInteger))) (findCode v a) =
      .ok (x, h')) : indexOf.Serves h v := by
  unfold placeFound at hfound
  cases hfind : (h.answersOf v).methods "find" with
  | none =>
    rw [hfind] at hfound
    obtain ⟨y, hy, -⟩ := map_eq_ok_iff.1 hfound
    exact absurd hy (findCode_ne_ok hv)
  | some f =>
    rw [hfind] at hfound
    obtain ⟨n, hn, hfound⟩ := bind_eq_ok_iff.1 hfound
    have htype : n.typeOf = .text := by
      obtain ⟨c, -, hn⟩ := bind_eq_ok_iff.1 hn
      obtain ⟨t, -, hn⟩ := bind_eq_ok_iff.1 hn
      cases hn
      rfl
    refine ⟨n, htype, x, h', ?_, hx⟩
    rw [placeFound, hfind]
    exact hfound

/-- A body that gives a value has been given what its member asks for, whatever the arguments
are. -/
theorem serves_of_call {r : Resolver} (hr : r.BindsLibrary) (hv : ∀ t, v ≠ .text t)
    (hknown : v.IsKnown) {member : Member} {f : Callable} {declared : List HostType}
    {args : List Value} (m : TextMember) (hm : textMembers.lookup m.name = some member)
    (hf : member.Calls r f declared)
    (hargs : List.Forall₂ (Value.Fits Universe.standard) args declared)
    (hcall : f.call (v :: args) h = (.ok x, h')) (hx : x ≠ .unknown) : m.Serves h v := by
  cases m with
  | length =>
    cases hm
    obtain rfl := hf
    obtain ⟨s, hs⟩ := HostM.ok_of_read (Callable.unary_ok hcall)
    obtain ⟨n, hn, hs⟩ := bind_eq_ok_iff.1 hs
    have hholds : Kind.int.Holds n := ((Value.integerToScalar_eq_ok_iff rfl (by decide)).1 hs).1
    have hhigh : (n : Int) < 2 ^ 31 := hholds.2
    exact ⟨n, hn, by omega⟩
  | isEmpty =>
    cases hm
    obtain rfl := hf
    exact HostM.ok_of_read (g := fun n => .boolean (n == 0)) (Callable.unary_ok hcall)
  | charAt =>
    cases hm
    obtain rfl := hf
    obtain ⟨a, -, hbody⟩ := Callable.binary_ok hcall
    obtain ⟨s, hs⟩ := HostM.ok_of_read hbody
    exact serves_of_codeAt hs
  | substring =>
    cases hm
    obtain ⟨w, hw, rfl, hw'⟩ := hf
    simp only [List.map_cons, List.map_nil, List.mem_cons, List.not_mem_nil, or_false] at hw
    rcases hw with rfl | rfl
    · obtain ⟨a, rfl, hbody⟩ := Callable.binary_ok hcall
      rw [hr.variantTypes_named (by decide)] at hw'
      cases hw'
      obtain ⟨first, hfirst, hbody⟩ := bind_eq_ok_iff.1 (HostM.update_eq_ok_iff.1 hbody)
      obtain ⟨n, hn, hbody⟩ := bind_eq_ok_iff.1 hbody
      have hlow := toInteger_lt (typeOf_of_fits_int (List.forall₂_cons.1 hargs).1) hfirst
      exact serves_of_sliceBetween hn hlow (.inr rfl) hx hbody
    · obtain ⟨a, b, rfl, hbody⟩ := Callable.ternary_ok hcall
      rw [hr.variantTypes_named (by decide)] at hw'
      cases hw'
      obtain ⟨first, hfirst, hbody⟩ := bind_eq_ok_iff.1 (HostM.update_eq_ok_iff.1 hbody)
      obtain ⟨last, hlast, hbody⟩ := bind_eq_ok_iff.1 hbody
      obtain ⟨ha, hargs⟩ := List.forall₂_cons.1 hargs
      have hlow := toInteger_lt (typeOf_of_fits_int ha) hfirst
      have hhigh := toInteger_lt (typeOf_of_fits_int (List.forall₂_cons.1 hargs).1) hlast
      obtain ⟨n, hn, -⟩ := bind_eq_ok_iff.1 hbody
      exact serves_of_sliceBetween hn hlow (.inl hhigh) hx hbody
  | indexOf =>
    cases hm
    obtain ⟨w, hw, rfl, hw'⟩ := hf
    simp only [List.map_cons, List.map_nil, List.mem_cons, List.not_mem_nil, or_false] at hw
    rcases hw with rfl | rfl
    · obtain ⟨a, -, hbody⟩ := Callable.binary_ok hcall
      exact serves_of_findCode hv hx (HostM.update_eq_ok_iff.1 hbody)
    · obtain ⟨a, rfl, hbody⟩ := Callable.binary_ok hcall
      rw [hr.variantTypes_named (by decide)] at hw'
      cases hw'
      obtain ⟨n, hn, hfound⟩ := bind_eq_ok_iff.1 (HostM.update_eq_ok_iff.1 hbody)
      obtain ⟨rfl, hnull⟩ := present_eq_ok hn
      have htype := typeOf_of_fits_text (List.forall₂_cons.1 hargs).1 hnull
      exact ⟨n, htype, x, h', hfound, hx⟩
  | concat =>
    cases hm
    obtain rfl := hf
    obtain ⟨w, rfl, hbody⟩ := Callable.binary_ok hcall
    obtain ⟨w', hw, hsum⟩ := bind_eq_ok_iff.1 (HostM.update_eq_ok_iff.1 hbody)
    obtain ⟨rfl, hnull⟩ := present_eq_ok hw
    cases hargs with
    | cons hfits _ => exact ⟨hknown, w', ⟨hnull, hfits.known⟩, x, h', hsum, hx⟩
  | contains =>
    cases hm
    obtain rfl := hf
    obtain ⟨w, rfl, hbody⟩ := Callable.binary_ok hcall
    obtain ⟨b, hb⟩ := HostM.ok_of_read hbody
    obtain ⟨w', hw, hcontains⟩ := bind_eq_ok_iff.1 hb
    obtain ⟨rfl, hnull⟩ := present_eq_ok hw
    cases hargs with
    | cons hfits _ => exact ⟨w', b, ⟨hnull, hfits.known⟩, hcontains⟩
  | startsWith | endsWith =>
    cases hm
    obtain rfl := hf
    obtain ⟨w, rfl, hbody⟩ := Callable.binary_ok hcall
    obtain ⟨w', hw, hmade⟩ := bind_eq_ok_iff.1 (HostM.update_eq_ok_iff.1 hbody)
    obtain ⟨rfl, hnull⟩ := present_eq_ok hw
    cases hargs with
    | cons hfits _ => exact ⟨w', ⟨hnull, hfits.known⟩, x, h', hmade, hx⟩
  | toUpperCase | toLowerCase | trim =>
    cases hm
    obtain rfl := hf
    exact ⟨x, h', HostM.update_eq_ok_iff.1 (Callable.unary_ok hcall), hx⟩

end TextMember

/-! ## Receivers that serve -/

namespace Value

theorem ofScalars_ne_unknown (k : Kind) (g : Grid Scalar) : ofScalars k g ≠ .unknown := by
  rw [ofScalars]
  split <;> simp

/-- An array takes a truth to each of its items. -/
theorem add_array (h : Heap) (k : Kind) (items : List Scalar) (label : Nat) :
    ∃ l g, (Value.array k items label).add h (.array .boolean [.boolean false] 0) =
      .ok (ofScalars l g, h) := by
  have hoperand (k : Kind) (items : List Scalar) (label : Nat) :
      (Value.array k items label).operand h =
        .ok ⟨.scalar k, ⟨[items.length], items.map (.value ∘ .scalar)⟩, false⟩ := rfl
  have hcast (e : Element) (g : Grid GridItem) (l : Kind) :
      g.mapM (Operand.scalarOf ⟨e, g, false⟩ l) = .ok (g.map (GridItem.castTo l)) := by
    have hitems : g.items.mapM (Operand.scalarOf ⟨e, g, false⟩ l) =
        .ok (g.items.map (GridItem.castTo l)) := mapM_eq_ok_map fun _ _ => rfl
    rw [Grid.mapM, hitems]
    rfl
  have hshape : Grid.meetShapes [items.length] [1] = some [items.length] := by
    simp [Grid.meetShapes, Grid.padShape]
  have hadd : (Value.array k items label).add h (.array .boolean [.boolean false] 0) =
      addGrids h (.array k items label) (.array .boolean [.boolean false] 0) := rfl
  rw [hadd, addGrids, hoperand, ok_bind, hoperand, ok_bind]
  simp only [Operand.meeting, Element.promoted, Bool.false_eq_true, if_false, hcast, ok_bind,
    Grid.pair, Grid.map, List.length_singleton, hshape]
  exact ⟨_, _, rfl⟩

/-- There is something to add to every value whose class makes no sums: an array without items,
where nothing else. -/
theorem exists_add {h : Heap} {v : Value} (hv : v.IsKnown) (hplain : (h.answersOf v).add = none) :
    ∃ w y h', w.IsKnown ∧ v.add h w = .ok (y, h') ∧ y ≠ .unknown := by
  have hempty : v.add h (.array .int [] 0) = addBuiltin h v (.array .int [] 0) := by
    rw [add, hplain]
    rfl
  cases v with
  | null => exact absurd rfl hv.1
  | unknown => exact absurd rfl hv.2
  | boolean _ | integer _ => exact ⟨.integer 0, _, _, ⟨by simp, by simp⟩, rfl, by simp⟩
  | real x => exact ⟨.real x, _, _, ⟨by simp, by simp⟩, rfl, by simp⟩
  | text t => exact ⟨.text t, _, _, ⟨by simp, by simp⟩, rfl, by simp⟩
  | bytes bs | byteArray bs => exact ⟨.bytes bs, _, _, ⟨by simp, by simp⟩, rfl, by simp⟩
  | list a => exact ⟨.list a, _, _, ⟨by simp, by simp⟩, rfl, by simp⟩
  | tuple a => exact ⟨.tuple a, _, _, ⟨by simp, by simp⟩, rfl, by simp⟩
  | mapping _ | builder _ | object _ _ | type _ =>
    exact ⟨.array .int [] 0, _, _, ⟨by simp, by simp⟩, hempty, by simp⟩
  | scalar s =>
    cases s <;>
      exact ⟨.array .int [] 0, _, _, ⟨by simp, by simp⟩, rfl, ofScalars_ne_unknown _ _⟩
  | array k items label =>
    obtain ⟨l, g, hadd⟩ := add_array h k items label
    exact ⟨_, _, _, ⟨by simp, by simp⟩, hadd, ofScalars_ne_unknown l g⟩

end Value

namespace TextMember

variable {r : Resolver} {h h' : Heap} {v x : Value}

/-- A sum is refused only by classes that make sums of their own. -/
theorem serves_concat (hv : v.IsKnown) (hplain : (h.answersOf v).add = none) :
    concat.Serves h v := by
  obtain ⟨w, y, h', hw, hadd, hy⟩ := Value.exists_add hv hplain
  exact ⟨hv, w, hw, y, h', hadd, hy⟩

/-- The receiver of a member that it serves can be called on. -/
theorem known_of_serves (m : TextMember) (hserves : m.Serves h v) : v.IsKnown := by
  have hlength {n : Nat} (hn : v.length h = .ok n) : v.IsKnown := by
    constructor <;> (rintro rfl; cases hn)
  cases m with
  | length =>
    obtain ⟨n, hn, -⟩ := hserves
    exact hlength hn
  | isEmpty =>
    obtain ⟨n, hn⟩ := hserves
    exact hlength hn
  | charAt =>
    obtain ⟨n, i, w, c, hn, -⟩ := hserves
    exact hlength hn
  | substring =>
    obtain ⟨n, first, last, hn, -⟩ := hserves
    exact hlength hn
  | indexOf =>
    obtain ⟨n, -, y, h', hy, -⟩ := hserves
    constructor <;> (rintro rfl; cases hy)
  | concat => exact hserves.1
  | contains =>
    obtain ⟨w, b, -, hb⟩ := hserves
    constructor <;> (rintro rfl; cases hb)
  | startsWith | endsWith =>
    obtain ⟨w, -, y, h', hy, -⟩ := hserves
    constructor <;> (rintro rfl; cases hy)
  | toUpperCase | toLowerCase | trim =>
    obtain ⟨y, h', hy, -⟩ := hserves
    constructor <;> (rintro rfl; cases hy)

section

variable (hr : r.BindsLibrary) (m : TextMember) (hforeign : m.IsForeign r v) (hknown : v.IsKnown)
  (ps : List (Passage r))

include hr hforeign hknown

/-- A member without variants is called on the receiver and what the passages deliver. -/
theorem reflect_method {f : Callable} (hm : textMembers.lookup m.name = some (.method f))
    (harity : f.bindFault? (ps.length + 1) = none)
    (hcall : f.call (v :: ps.map Passage.received) h = (.ok x, h')) :
    r.reflect (m.signature (ps.map Passage.parameter)) (.value v) (Passage.arguments ps) h =
      (.ok x, h') := by
  have hmember := instanceMember?_of_isForeign hr m hforeign hm
  have hname := (m.isCalledBy_signature (ps.map Passage.parameter)).isConstructor
  have hreceiver : ((Argument.value v).toCell textDescriptor).value = v := rfl
  exact Resolver.reflect_method_received ps rfl hname rfl hr.resolveClass_text m.startsWith_name
    hreceiver hknown.1 hknown.2 hmember harity hcall

/-- A member with variants is called by the one that is declared for the types of the passages. -/
theorem reflect_variant {shown : Text} {vs : List (List Text × Callable)} {ds : List Text}
    {f : Callable} (hm : textMembers.lookup m.name = some (.variants shown vs))
    (hvs : ∀ e ∈ vs, e.1 ⊆ variantDescriptors)
    (hnodup : (vs.map fun e => e.1.map namedType).Nodup) (hf : (ds, f) ∈ vs)
    (hds : ps.map Passage.type = ds.map namedType)
    (hcall : f.call (v :: ps.map Passage.received) h = (.ok x, h')) :
    r.reflect (m.signature (ps.map Passage.parameter)) (.value v) (Passage.arguments ps) h =
      (.ok x, h') := by
  have hmember := instanceMember?_of_isForeign hr m hforeign hm
  have hname := (m.isCalledBy_signature (ps.map Passage.parameter)).isConstructor
  have hreceiver : ((Argument.value v).toCell textDescriptor).value = v := rfl
  have hselect := hr.select_variant shown textClass.name hvs hnodup hf
  have hw := hr.variantTypes_named (hvs _ hf) f
  rw [← hds] at hselect hw
  exact Resolver.reflect_variant_of_virtual ps rfl hname rfl hr.resolveClass_text m.startsWith_name
    hreceiver hknown.1 hknown.2 hmember hselect hw hcall

end

/-- Two places are passed as they are, and the second may be left out where it is the length. -/
theorem reflect_substring {n first last : Nat} (hr : r.BindsLibrary)
    (hforeign : substring.IsForeign r v) (hknown : v.IsKnown) (hn : v.length h = .ok n)
    (hfirst : first < 2 ^ 31) (hlast : last < 2 ^ 31 ∨ last = n) (hwithin : first ≤ last ∧ last ≤ n)
    (hslice : v.slice h first last = .ok (x, h')) :
    ∃ ps : List (Passage r), r.reflect (substring.signature (ps.map Passage.parameter)) (.value v)
      (Passage.arguments ps) h = (.ok x, h') := by
  have hplace {i : Nat} (hi : i < 2 ^ 31) : (Int32.ofInt i).toInt = i :=
    Int32.toInt_ofInt_of_le (by omega) (by omega)
  have hinteger {i : Nat} (hi : i < 2 ^ 31) :
      (Value.scalar (.int (Int32.ofInt i))).toInteger = .ok (i : Int) :=
    congrArg Except.ok (hplace hi)
  let place (i : Nat) : Passage r := .int (v := .scalar (.int (Int32.ofInt i))) _ rfl
  have hreceived (i : Nat) : (place i).received = .scalar (.int (Int32.ofInt i)) :=
    Passage.received_int _ rfl
  have hpart : sliceBetween h v first last = .ok (x, h') := by
    rw [sliceBetween, hn, ok_bind, if_neg (by omega), Int.toNat_natCast, Int.toNat_natCast]
    exact hslice
  rcases hlast with hlast | rfl
  · refine ⟨[place first, place last], reflect_variant hr substring hforeign hknown _ rfl
      (by decide +kernel) (by decide +kernel) (List.mem_of_getElem? (i := 1) rfl) rfl ?_⟩
    rw [List.map_cons, List.map_singleton, hreceived, hreceived]
    have hbody : HostM.update (fun h => do
        let first ← (Value.scalar (.int (Int32.ofInt first))).toInteger
        let last ← (Value.scalar (.int (Int32.ofInt last))).toInteger
        sliceBetween h v first last) h = (.ok x, h') := by
      refine HostM.update_eq_ok_iff.2 ?_
      rw [hinteger hfirst, ok_bind, hinteger hlast, ok_bind, hpart]
    exact hbody
  · refine ⟨[place first], reflect_variant hr substring hforeign hknown _ rfl
      (by decide +kernel) (by decide +kernel) (List.mem_of_getElem? (i := 0) rfl) rfl ?_⟩
    rw [List.map_singleton, hreceived]
    have hbody : HostM.update (fun h => do
        let first ← (Value.scalar (.int (Int32.ofInt first))).toInteger
        sliceBetween h v first (← v.length h)) h = (.ok x, h') := by
      refine HostM.update_eq_ok_iff.2 ?_
      rw [hinteger hfirst, ok_bind, hn, ok_bind, hpart]
    exact hbody

/-- A receiver that serves a member makes a call of it succeed. -/
theorem exists_reflect (hr : r.BindsLibrary) (m : TextMember) (hforeign : m.IsForeign r v)
    (hserves : m.Serves h v) :
    ∃ (ps : List (Passage r)) (x : Value) (h' : Heap), x ≠ .unknown ∧
      r.reflect (m.signature (ps.map Passage.parameter)) (.value v) (Passage.arguments ps) h =
        (.ok x, h') := by
  have hknown := m.known_of_serves hserves
  cases m with
  | length =>
    obtain ⟨n, hn, hlt⟩ := hserves
    refine ⟨[], .scalar (.int (Int32.ofInt n)), h, by simp,
      reflect_method hr length hforeign hknown [] rfl rfl ?_⟩
    refine (map_read_apply Value.scalar _ h).trans ?_
    rw [hn, ok_bind, Value.integerToScalar_int (by omega)]
    rfl
  | isEmpty =>
    obtain ⟨n, hn⟩ := hserves
    refine ⟨[], .boolean (n == 0), h, by simp,
      reflect_method hr isEmpty hforeign hknown [] rfl rfl ?_⟩
    refine (map_read_apply (fun n : Nat => Value.boolean (n == 0)) _ h).trans ?_
    rw [hn]
    rfl
  | charAt =>
    obtain ⟨n, i, w, c, hn, hi, hw, hc, hlt⟩ := hserves
    refine ⟨[.object (v := .integer i) hr (by simp) (by simp)], .scalar (Scalar.ofInt .char c), h,
      by simp, reflect_method hr charAt hforeign hknown _ rfl rfl ?_⟩
    refine (map_read_apply Value.scalar _ h).trans ?_
    have hcode : codeAt h v (.integer i) = .ok (Scalar.ofInt .char c) := by
      have hinteger : Value.toInteger (.integer i) = .ok (i : Int) := rfl
      rw [codeAt, hinteger, ok_bind, hn, ok_bind, if_pos (by omega), Int.toNat_natCast, hw,
        ok_bind, hc, ok_bind]
      exact (Value.integerToScalar_eq_ok_iff rfl (by decide)).2 ⟨⟨by omega, by omega⟩, rfl⟩
    exact congrArg (fun s => (Except.map Value.scalar s, h)) hcode
  | substring =>
    obtain ⟨n, first, last, hn, hle, hwithin, hfirst, hlast, y, h', hslice, hy⟩ := hserves
    obtain ⟨ps, hps⟩ :=
      reflect_substring hr hforeign hknown hn hfirst hlast ⟨hle, hwithin⟩ hslice
    exact ⟨ps, y, h', hy, hps⟩
  | indexOf =>
    obtain ⟨n, hn, y, h', hfound, hy⟩ := hserves
    let p : Passage r :=
      .textAs textDescriptor (Passage.hostType_text hr) rfl Passage.text_notMem_wrappers hn
    have hbody : HostM.update (fun h => do
        let n ← present "indexOf" n
        placeFound h v (.ok n) (findText v n)) h = (.ok y, h') := by
      refine HostM.update_eq_ok_iff.2 ?_
      rw [present_of_ne_null (Passage.known_of_typeOf_text hn).1, ok_bind, hfound]
    exact ⟨[p], y, h', hy,
      reflect_variant hr indexOf hforeign hknown _ rfl (by decide +kernel) (by decide +kernel)
        (List.mem_of_getElem? (i := 1) rfl) rfl hbody⟩
  | concat =>
    obtain ⟨-, w, hw, y, h', hadd, hy⟩ := hserves
    have hbody : HostM.update (fun h => do v.add h (← present "concat" w)) h = (.ok y, h') := by
      refine HostM.update_eq_ok_iff.2 ?_
      rw [present_of_ne_null hw.1, ok_bind, hadd]
    exact ⟨[.object (v := w) hr hw.1 hw.2], y, h', hy,
      reflect_method hr concat hforeign hknown _ rfl rfl hbody⟩
  | contains =>
    obtain ⟨w, b, hw, hb⟩ := hserves
    refine ⟨[.object (v := w) hr hw.1 hw.2], .boolean b, h, by simp,
      reflect_method hr contains hforeign hknown _ rfl rfl ?_⟩
    refine (map_read_apply Value.boolean _ h).trans ?_
    show (Except.map _ (present "contains" w >>= fun a => v.containsValue h a), h) = _
    rw [present_of_ne_null hw.1, ok_bind, hb]
    rfl
  | startsWith =>
    obtain ⟨w, hw, y, h', hmade, hy⟩ := hserves
    have hbody : HostM.update (fun h => do startOf h v (← present "startsWith" w)) h =
        (.ok y, h') := by
      refine HostM.update_eq_ok_iff.2 ?_
      rw [present_of_ne_null hw.1, ok_bind, hmade]
    exact ⟨[.object (v := w) hr hw.1 hw.2], y, h', hy,
      reflect_method hr startsWith hforeign hknown _ rfl rfl hbody⟩
  | endsWith =>
    obtain ⟨w, hw, y, h', hmade, hy⟩ := hserves
    have hbody : HostM.update (fun h => do endOf h v (← present "endsWith" w)) h =
        (.ok y, h') := by
      refine HostM.update_eq_ok_iff.2 ?_
      rw [present_of_ne_null hw.1, ok_bind, hmade]
    exact ⟨[.object (v := w) hr hw.1 hw.2], y, h', hy,
      reflect_method hr endsWith hforeign hknown _ rfl rfl hbody⟩
  | toUpperCase =>
    obtain ⟨y, h', hmade, hy⟩ := hserves
    have hbody : HostM.update (fun h => upper h v) h = (.ok y, h') :=
      HostM.update_eq_ok_iff.2 hmade
    exact ⟨[], y, h', hy, reflect_method hr toUpperCase hforeign hknown [] rfl rfl hbody⟩
  | toLowerCase =>
    obtain ⟨y, h', hmade, hy⟩ := hserves
    have hbody : HostM.update (fun h => lower h v) h = (.ok y, h') :=
      HostM.update_eq_ok_iff.2 hmade
    exact ⟨[], y, h', hy, reflect_method hr toLowerCase hforeign hknown [] rfl rfl hbody⟩
  | trim =>
    obtain ⟨y, h', hmade, hy⟩ := hserves
    have hbody : HostM.update (fun h => trimmed h v) h = (.ok y, h') :=
      HostM.update_eq_ok_iff.2 hmade
    exact ⟨[], y, h', hy, reflect_method hr trim hforeign hknown [] rfl rfl hbody⟩

end TextMember

/-! ## From a call to its receiver -/

namespace Resolver

variable {r : Resolver} {owner : HostClass} {args : Arguments} {c : Call} {h h' : Heap}
  {name label : Text} {v : Value} {space : HostType}

/-- What a call of a method or a variant on an instance passes, and to what. -/
theorem calls_of_planVirtual {m : Member} (hlen : args.values.length = args.types.length)
    (haccess : Text.startsWith "_" name = false)
    (hmember : r.instanceMember? owner name v.typeOf = some (space, m))
    (hm : (∃ f, m = .method f) ∨ ∃ set, m = .overloads set)
    (hplan : r.planVirtual owner name v args h = (.ok c, h')) :
    h' = h ∧ v.IsKnown ∧ ∃ adapted declared, c.passed = v :: adapted ∧
      List.Forall₂ (Value.Fits r.world) adapted declared ∧
      m.Calls r c.target.callee declared := by
  obtain ⟨hnull, hunknown, space', m', declared, hmember', hdeclares, hpasses⟩ :=
    passes_of_planVirtual hlen hplan
  obtain ⟨rfl, rfl⟩ : space = space' ∧ m = m' := by
    rw [hmember] at hmember'
    exact Prod.mk.inj (Option.some.inj hmember')
  obtain ⟨adapted, hpassed, -, -, hfits⟩ := hpasses
  rw [planVirtual_found haccess hnull hunknown hmember] at hplan
  rcases hm with ⟨f, rfl⟩ | ⟨set, rfl⟩
  · obtain ⟨hcallee, rfl⟩ := callee_of_planMember hplan
    have hleading : r.leading v space (.method f) = [v] := by
      show (if _ then _ else _) = _
      split <;> rfl
    rw [hleading] at hpassed
    exact ⟨rfl, ⟨hnull, hunknown⟩, adapted, declared, hpassed, hfits, hcallee⟩
  · cases hdeclares with
    | variant hselect htypes hcallee =>
      exact ⟨(Prod.mk.inj hplan).2.symm, ⟨hnull, hunknown⟩, adapted, declared, hpassed, hfits, _,
        (mem_of_select hselect).1, hcallee, htypes⟩
    | supplied hplain => exact absurd rfl (hplain set)

end Resolver

/-! ## What a call on a foreign receiver returns -/

namespace TextMember

variable {r : Resolver} {h h' : Heap} {v x : Value}

/-- A member that gives a value on a foreign receiver is served by it. -/
theorem serves_of_invokeVirtual (hr : r.BindsLibrary) (hv : ∀ t, v ≠ .text t) (m : TextMember)
    (hforeign : m.IsForeign r v) {args : Arguments} (hlen : args.values.length = args.types.length)
    (hcall : r.invokeVirtual textClass m.name v args h = (.ok x, h')) (hx : x ≠ .unknown) :
    m.Serves h v := by
  obtain ⟨member, hm, hplain⟩ := m.cases_lookup
  have hmember := instanceMember?_of_isForeign hr m hforeign hm
  rw [Resolver.invokeVirtual_apply] at hcall
  rcases hplan : r.planVirtual textClass m.name v args h with ⟨planned, h₁⟩
  rw [hplan] at hcall
  cases planned with
  | error e => cases hcall
  | ok c =>
    obtain ⟨rfl, hknown, adapted, declared, hpassed, hfits, hcalls⟩ :=
      Resolver.calls_of_planVirtual hlen m.startsWith_name hmember hplain hplan
    rw [hr.world] at hfits
    have hcallee := Resolver.call_of_perform hcall
    rw [hpassed] at hcallee
    exact serves_of_call hr hv hknown m hm hcalls hfits hcallee hx

/-- The return slot holds what the call gave or an unknown value, unless the logging raises. -/
theorem IsCalledBy.returned_invoke {m : TextMember} {s : Signature} (hs : m.IsCalledBy s)
    (r : Resolver) (recorder : Recorder) (h : Heap) (f : Frame) :
    let reflector : Reflector := ⟨s, r, recorder⟩
    (reflector.invoke h f).frame.returned =
      if (reflector.invoke h f).raised.isSome then f.returned
      else some ⟨(reflector.call f h).1.toOption.getD .unknown, s.returnType⟩ := by
  intro reflector
  cases hraised : (reflector.invoke h f).raised with
  | some e => rw [Reflector.frame_of_raises (Reflector.raised_invoke.1 hraised), Option.isSome_some,
      if_pos rfl]
  | none =>
    obtain ⟨ending, hdue, hleaves⟩ :=
      reflector.leaves_invoke h f (Reflector.raised_invoke_eq_none.1 hraised)
    have hinit : s.isInstanceConstructor = false := by
      rw [Signature.isInstanceConstructor, hs.isConstructor, Bool.false_and]
    obtain rfl : Ending.answered = ending := (hdue .answered).1 ⟨hinit, hs.returns⟩
    exact hleaves.2

/-- A call that gives a value has a receiver that serves its member. -/
theorem IsCalledBy.serves {m : TextMember} {s : Signature} (hs : m.IsCalledBy s)
    (hr : r.BindsLibrary) (hv : ∀ t, v ≠ .text t) (hforeign : m.IsForeign r v)
    {recorder : Recorder} {f : Frame} (hf : f.Holds 0 v)
    (hcall : Reflector.call ⟨s, r, recorder⟩ f h = (.ok x, h')) (hx : x ≠ .unknown) :
    m.Serves h v := by
  obtain ⟨tag, hcell⟩ := hf
  have hpeek : RegisterFile.peek f 0 = .ok ⟨v, tag⟩ := by
    obtain ⟨register, hregister, hv⟩ := Option.map_eq_some_iff.1 hcell
    show f.peekAt ((0 : Nat) : Int) = _
    rw [Frame.peekAt_natCast, hregister, ← hv]
  rw [Reflector.call_eq_quiet] at hcall
  split at hcall
  · cases hcall
  rw [Reflector.call_apply] at hcall
  cases hprepare : Reflector.prepare ⟨s, r, .quiet⟩ h f with
  | error e =>
    rw [hprepare] at hcall
    cases hcall
  | ok prepared =>
    rw [hprepare] at hcall
    obtain ⟨owner, howner, hprepare⟩ := bind_eq_ok_iff.1 hprepare
    obtain ⟨args, hargs, hprepare⟩ := bind_eq_ok_iff.1 hprepare
    cases hprepare
    simp only [hs.virtual, hs.isConstructor, Bool.false_eq_true, if_false, hpeek, hs.name,
      Reflector.announcing_of_hidden (r := ⟨s, r, .quiet⟩) rfl] at hcall
    obtain rfl : textClass = owner := by
      have htext : r.resolveClass s.ownerName = .ok textClass := by
        rw [hs.owner]
        exact hr.resolveClass_text
      exact Except.ok.inj (htext.symm.trans howner)
    exact serves_of_invokeVirtual hr hv m hforeign (length_of_marshal hargs) hcall hx

/-- The call that succeeds, made on a frame that is laid out for it. -/
theorem exists_call (hr : r.BindsLibrary) (m : TextMember) (hforeign : m.IsForeign r v)
    (hserves : m.Serves h v) {recorder : Recorder} (hidden : recorder.shows .debug = false) :
    ∃ (s : Signature) (f : Frame) (x : Value) (h' : Heap), m.IsCalledBy s ∧ f.Holds 0 v ∧
      x ≠ .unknown ∧ Reflector.call ⟨s, r, recorder⟩ f h = (.ok x, h') := by
  obtain ⟨ps, x, h', hx, hreflect⟩ := exists_reflect hr m hforeign hserves
  let s := m.signature (ps.map Passage.parameter)
  have hf : ∃ f, Frame.forCall s (Passage.arguments ps) (.value v) = .ok f ∧ f.Holds 0 v :=
    ⟨_, if_neg (not_not.2 (Passage.length_arguments ps)), textDescriptor, rfl⟩
  obtain ⟨f, hlaid, hf⟩ := hf
  rw [Resolver.reflect, BridgeM.bind_apply, hlaid] at hreflect
  refine ⟨s, f, x, h', m.isCalledBy_signature _, hf, hx, ?_⟩
  rw [Reflector.call_eq_quiet, Reflector.announcementError?_of_hidden hidden]
  exact hreflect

/-- **Receivers that are no texts.**  All calls of a member on a foreign receiver that does not
serve it return an unknown value, whatever the parameters, the arguments and the declared result
are; but where the logging raises, the return slot stays as it is.  On a receiver that serves the
member some call returns another value. -/
theorem foreign_receiver {r : Resolver} (hr : r.BindsLibrary) (recorder : Recorder) (h : Heap)
    (m : TextMember) (v : Value) (hv : ∀ t, v ≠ .text t) (hforeign : m.IsForeign r v) :
    let invoke (s : Signature) (f : Frame) := Reflector.invoke ⟨s, r, recorder⟩ h f
    (¬ m.Serves h v → ∀ s f, m.IsCalledBy s → f.Holds 0 v →
      (∀ e, (invoke s f).raised = some e ↔ Reflector.Raises ⟨s, r, recorder⟩ h f e) ∧
      (invoke s f).frame.returned =
        if (invoke s f).raised.isSome then f.returned else some ⟨.unknown, s.returnType⟩) ∧
    (m.Serves h v → recorder.shows .debug = false → ∃ s f x, m.IsCalledBy s ∧ f.Holds 0 v ∧
      x ≠ .unknown ∧ (invoke s f).frame.returned = some ⟨x, s.returnType⟩) := by
  intro invoke
  constructor
  · intro hserves s f hs hf
    refine ⟨fun _ => Reflector.raised_invoke, (hs.returned_invoke r recorder h f).trans ?_⟩
    have hunknown : (Reflector.call ⟨s, r, recorder⟩ f h).1.toOption.getD .unknown = .unknown := by
      rcases hcall : Reflector.call ⟨s, r, recorder⟩ f h with ⟨result, h'⟩
      cases result with
      | error e => rfl
      | ok x =>
        by_contra hx
        exact hserves (hs.serves hr hv hforeign hf hcall hx)
    rw [hunknown]
  · intro hserves hidden
    obtain ⟨s, f, x, h', hs, hf, hx, hcall⟩ := exists_call hr m hforeign hserves hidden
    have hquiet : (invoke s f).raised = none := by
      refine Reflector.raised_invoke_of_hidden hidden fun failure hfailure => ?_
      rw [hcall] at hfailure
      cases hfailure
    refine ⟨s, f, x, hs, hf, hx, (hs.returned_invoke r recorder h f).trans ?_⟩
    rw [hquiet, hcall]
    rfl

/-- A list is never searched for a place, and always asked for its length. -/
theorem foreign_receiver_list :
    let h : Heap := { contents := [.items [.integer 1]] }
    let v : Value := .list 0
    let recorder : Recorder := ⟨"engine", .info, none⟩
    let invoke (s : Signature) (f : Frame) := Reflector.invoke ⟨s, .standard, recorder⟩ h f
    Resolver.standard.BindsLibrary ∧ (∀ t, v ≠ .text t) ∧ recorder.shows .debug = false ∧
      (indexOf.IsForeign .standard v ∧ ∀ s f, indexOf.IsCalledBy s → f.Holds 0 v →
        (invoke s f).frame.returned =
          if (invoke s f).raised.isSome then f.returned else some ⟨.unknown, s.returnType⟩) ∧
      (length.IsForeign .standard v ∧ ∃ s f x, length.IsCalledBy s ∧ f.Holds 0 v ∧ x ≠ .unknown ∧
        (invoke s f).frame.returned = some ⟨x, s.returnType⟩) := by
  intro h v recorder invoke
  have hr : Resolver.standard.BindsLibrary := Resolver.bindsLibrary_standard
  have hv : ∀ t, v ≠ .text t := by simp [v]
  have hindexOf : indexOf.IsForeign .standard v := by decide +kernel
  have hlength : length.IsForeign .standard v := by decide +kernel
  have hnowhere : ¬ indexOf.Serves h v := fun ⟨n, _, y, h', hfound, _⟩ => by cases hfound
  have hserves : length.Serves h v := ⟨1, rfl, by decide⟩
  exact ⟨hr, hv, rfl,
    ⟨hindexOf, fun s f hs hf =>
      ((foreign_receiver hr recorder h indexOf v hv hindexOf).1 hnowhere s f hs hf).2⟩,
    ⟨hlength, (foreign_receiver hr recorder h length v hv hlength).2 hserves rfl⟩⟩

/-- The length of a list is returned where only texts are meant. -/
theorem not_unknown_of_foreign :
    ¬ ∀ (m : TextMember) (h : Heap) (v : Value) (s : Signature) (f : Frame),
      (∀ t, v ≠ .text t) → m.IsForeign .standard v → m.IsCalledBy s → f.Holds 0 v →
        (Reflector.invoke ⟨s, .standard, ⟨"engine", .info, none⟩⟩ h f).frame.returned =
          some ⟨.unknown, s.returnType⟩ := by
  intro hall
  let h : Heap := { contents := [.items [.integer 1]] }
  let f : Frame := .ofCells [⟨.list 0, textDescriptor⟩]
  let s : Signature := ⟨textDescriptor, textClass.name, length.name, [], "I", false⟩
  have hunknown := hall length h (.list 0) s f (by simp) (by decide +kernel) ⟨rfl, rfl, rfl, rfl⟩
    ⟨_, rfl⟩
  have hreturned : (Reflector.invoke ⟨s, .standard, ⟨"engine", .info, none⟩⟩ h f).frame.returned =
      some ⟨.scalar (.int 1), s.returnType⟩ := by decide +kernel
  rw [hreturned] at hunknown
  cases hunknown

end TextMember

end HostCall
