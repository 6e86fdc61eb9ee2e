import HostCall.Proofs.Coercion
import HostCall.Proofs.RenderedText
import HostCall.Proofs.Resolution
import HostCall.Proofs.WrittenArray

/-!
# Texts from arrays of characters

No member makes a text of an array of characters.  The constructor therefore falls to the host type,
and `valueOf` to its variant for any object, and both write the array as they would any other: the
codes of its items in brackets.  Nothing on the way refuses the array, whatever it holds and however
its cell is tagged (`call_chars`); only a resolver that denies the type of such arrays does.

Main statement, `text_of_chars`: what the two calls leave in a frame, and that it is never the text
of the characters.  What they raise is what a console makes of a frame that has no text.
-/

namespace HostCall

open Result Library

/-- The descriptor of arrays of characters. -/
def charsDescriptor : Text := "[C"

/-- The constructor of texts for an array of characters. -/
def charsSignature : Signature :=
  ⟨textDescriptor, "java.lang.String", constructorName, [.reference charsDescriptor],
    voidDescriptor, false⟩

/-- The array of the characters with these codes. -/
def Value.chars (label : Nat) (cs : List UInt16) : Value := .array .char (cs.map .char) label

/-- Whether a register holds a value, whatever it is tagged with. -/
def Frame.Holds (f : Frame) (i : Nat) (v : Value) : Prop :=
  ∃ tag, f.registers[i]?.map Register.cell = some ⟨v, tag⟩

/-- What the host makes of an array of characters where a text is asked for. -/
def writtenChars (cs : List UInt16) : Text := ArrayText.display .char (cs.map .char)

/-- What comes of a call on an array of characters: its type is denied, or it is written as an
array. -/
def Resolver.textOfChars (r : Resolver) (cs : List UInt16) : Except Failure Value :=
  if r.isDenied charsDescriptor then .error (.bridge (.access (.deniedType charsDescriptor)))
  else .ok (.text (writtenChars cs))

/-! ## Reading the array -/

section

variable {r : Resolver} {h : Heap} {f : Frame} {s : Signature}

/-- Reading the one register of the only parameter. -/
theorem marshal_singleton {p : ValueType} {c : Cell} (hp : s.parameters = [p])
    (hwidth : p.width = 1) (hc : f.registers[s.receiverWidth]?.map Register.cell = some c) :
    marshal r h f s = r.readCells h 0 [p] [c] := by
  obtain ⟨register, hregister, rfl⟩ := Option.map_eq_some_iff.1 hc
  obtain ⟨hlt, -⟩ := List.getElem?_eq_some_iff.1 hregister
  have hpeek : RegisterFile.peek f s.receiverWidth = .ok register.cell := by
    show f.peekAt s.receiverWidth = _
    rw [Frame.peekAt_natCast, hregister]
  have hcount : s.receiverWidth + ([p].map ValueType.width).sum ≤ f.registers.length := by
    rw [List.map_singleton, List.sum_singleton, hwidth]
    exact hlt
  rw [marshal_of_count rfl, if_neg (by omega), hp]
  exact marshalFrom_eq_readCells hcount (.cons hpeek .nil)

/-- An array is left alone, also where its cell is tagged as a primitive. -/
theorem coerced_chars (cs : List UInt16) (label : Nat) (tag : Text) :
    r.coerced h (.reference charsDescriptor) 0 ⟨.chars label cs, tag⟩ = .ok (.chars label cs) := by
  let c : Cell := ⟨.chars label cs, tag⟩
  have hcoerce : coerce r.settings.zeroAsNull h c (.reference charsDescriptor) 0 =
      .ok (.chars label cs) := by
    have hvalue : c.value = .array .char (cs.map .char) label := rfl
    have hzero : c.value.isZeroNumber = false := rfl
    rw [coerce_of_known (by simp [hvalue]) (by simp [hvalue]), hzero, Bool.and_false,
      if_neg Bool.false_ne_true]
    by_cases htag : c.isPrimitiveOrWrapper = true
    · rw [if_pos htag]
      rfl
    · rw [if_neg htag]
  exact congrArg (Except.mapError ArgumentError.toFailure) hcoerce

theorem hostType_chars : r.hostType (.reference charsDescriptor) =
    if r.isDenied charsDescriptor then .error (.bridge (.access (.deniedType charsDescriptor)))
    else .ok .array := by
  have hname : binaryName charsDescriptor = charsDescriptor := rfl
  rw [Resolver.hostType, hname, Resolver.resolveClass_eq]
  cases r.isDenied charsDescriptor <;> rfl

/-- The owner of a call on an array of characters, and the array as its only argument. -/
theorem prepare_chars (hr : r.BindsLibrary) (recorder : Recorder) {cs : List UInt16} {label : Nat}
    (howner : s.ownerName = "java.lang.String")
    (hp : s.parameters = [.reference charsDescriptor])
    (hf : f.Holds s.receiverWidth (.chars label cs)) :
    Reflector.prepare ⟨s, r, recorder⟩ h f =
      if r.isDenied charsDescriptor then .error (.bridge (.access (.deniedType charsDescriptor)))
      else .ok (textClass, ⟨[.chars label cs], [.array]⟩) := by
  obtain ⟨tag, hc⟩ := hf
  rw [Reflector.prepare, howner, hr.resolveClass_text, ok_bind, marshal_singleton hp rfl hc,
    Resolver.readCells_cons, coerced_chars, hostType_chars]
  cases r.isDenied charsDescriptor <;> rfl

end

/-! ## The two calls -/

namespace Resolver

variable {r : Resolver} {h : Heap} {cs : List UInt16} {label : Nat}

/-- Of the variants of `valueOf` only the one for any object accepts an array. -/
theorem BindsLibrary.scored_array (hr : r.BindsLibrary) :
    r.scored [.array] (valueOfVariants.map fun (ds, f) => ⟨ds, f⟩) =
      .ok [(objectCost, ⟨[objectDescriptor], renderedText "JavaString.valueOf"⟩)] := by
  simp (disch := decide) only [valueOfVariants, List.map_cons, List.map_nil, scored_cons, price,
    hr.variantTypes_named, hr.world, ok_bind]
  rfl

/-- The text that is made is how the array is written. -/
theorem BindsLibrary.invokeConstructor_chars (hr : r.BindsLibrary) :
    r.invokeConstructor textClass ⟨[.chars label cs], [.array]⟩ h =
      (.ok (.text (writtenChars cs)), h) := by
  have hhook : Universe.standard.member? textClass.members constructorHook = none := rfl
  have hhidden : (Universe.standard.constructor textClass.hostType).inspectable = false := rfl
  have hadapted : r.adapted [.chars label cs] [.array] = .ok [.chars label cs] := rfl
  have hcall : (Universe.standard.constructor textClass.hostType).call [.chars label cs] h =
      (.ok (.text (writtenChars cs)), h) :=
    map_read_apply Value.text (Value.chars label cs).display h
  exact hr.invokeConstructor_hostType hhook hhidden hadapted hcall

theorem BindsLibrary.invokeStatic_chars (hr : r.BindsLibrary) :
    r.invokeStatic textClass "valueOf" ⟨[.chars label cs], [.array]⟩ h =
      (.ok (.text (writtenChars cs)), h) := by
  have hmember : Universe.standard.member? textClass.members "valueOf" =
      some (.variants "valueOf" valueOfVariants) := rfl
  have hscored : r.scored [.array] (OverloadSet.candidates
      ⟨"valueOf", valueOfVariants.map fun (ds, f) => ⟨ds, f⟩⟩ 1) =
        .ok [(objectCost, ⟨[objectDescriptor], renderedText "JavaString.valueOf"⟩)] :=
    hr.scored_array
  have hobject : r.typeOfDescriptor objectDescriptor = .ok .object :=
    hr.typeOfDescriptor_named (by decide)
  have hadapted : r.adapted [.chars label cs] [.object] = .ok [.chars label cs] := rfl
  have hcall : (renderedText "JavaString.valueOf").call [.chars label cs] h =
      (.ok (.text (writtenChars cs)), h) :=
    map_read_apply Value.text (Value.chars label cs).rendered h
  exact hr.invokeStatic_selected rfl hmember hscored hobject hadapted hcall

end Resolver

/-- Both calls, on any frame that holds the array where the signature has it, give the same. -/
theorem call_chars {r : Resolver} (hr : r.BindsLibrary) (recorder : Recorder)
    (h : Heap) {cs : List UInt16} {label : Nat} {s : Signature}
    (hs : s = charsSignature ∨ s = valueOfSignature (.reference charsDescriptor)) {f : Frame}
    (hf : f.Holds s.receiverWidth (.chars label cs)) :
    Reflector.call ⟨s, r, recorder⟩ f h = (r.textOfChars cs, h) := by
  have howner : s.ownerName = "java.lang.String" := by rcases hs with rfl | rfl <;> rfl
  have hp : s.parameters = [.reference charsDescriptor] := by rcases hs with rfl | rfl <;> rfl
  obtain ⟨t, ht⟩ : ∃ t, Reflector.announceOwner h textClass ⟨[.chars label cs], [.array]⟩ =
      .ok t := ⟨_, rfl⟩
  rw [Reflector.call_apply, prepare_chars hr recorder howner hp hf, Resolver.textOfChars]
  cases r.isDenied charsDescriptor with
  | true => rfl
  | false =>
    simp only [Bool.false_eq_true, if_false]
    rcases hs with rfl | rfl
    · rw [if_neg (by decide), if_pos (by decide), Reflector.announcing_of_ok ht]
      exact hr.invokeConstructor_chars
    · rw [if_pos (by decide), Reflector.announcing_of_ok ht]
      exact hr.invokeStatic_chars

/-- The logging of such a call raises only where a console is to show a frame that has no text. -/
theorem raises_chars {r : Resolver} (hr : r.BindsLibrary) (recorder : Recorder) (h : Heap)
    {cs : List UInt16} {label : Nat} {s : Signature}
    (hs : s = charsSignature ∨ s = valueOfSignature (.reference charsDescriptor)) {f : Frame}
    (hf : f.Holds s.receiverWidth (.chars label cs)) (e : HostError) :
    Reflector.Raises ⟨s, r, recorder⟩ h f e ↔
      recorder.shows .debug = true ∧ RegisterFile.describe h f = .error e := by
  refine or_iff_left ?_
  rintro ⟨-, failure, hfailure, hunprintable, -⟩
  rw [call_chars hr recorder h hs hf, Resolver.textOfChars] at hfailure
  cases hdenied : r.isDenied charsDescriptor with
  | true =>
    rw [hdenied] at hfailure
    cases hfailure
    cases hunprintable
  | false =>
    rw [hdenied] at hfailure
    cases hfailure

/-! ## What becomes of the frame -/

section

variable {r : Resolver} (hr : r.BindsLibrary) (recorder : Recorder) (h : Heap) {cs : List UInt16}
  {label : Nat} {f : Frame}

include hr

/-- The constructor writes the array as a text into its receiver, or nothing. -/
theorem construct_chars (hf : f.Holds 1 (.chars label cs)) :
    let i := Reflector.invoke ⟨charsSignature, r, recorder⟩ h f
    i.raised = none →
      i.frame.registers[0]?.map Register.cell =
          (if r.isDenied charsDescriptor then f.registers[0]?.map Register.cell
          else some ⟨.text (writtenChars cs), textDescriptor⟩) ∧
        (∀ n, n ≠ 0 → i.frame.registers[n]? = f.registers[n]?) ∧
        i.frame.returned = f.returned := by
  intro i hquiet
  obtain ⟨ending, hdue, hleaves⟩ := Reflector.leaves_invoke ⟨charsSignature, r, recorder⟩ h f
    (Reflector.raised_invoke_eq_none.1 hquiet)
  rw [call_chars hr recorder h (.inl rfl) hf, Resolver.textOfChars] at hdue hleaves
  cases hdenied : r.isDenied charsDescriptor with
  | true =>
    rw [hdenied] at hdue hleaves
    obtain rfl : Ending.untouched = ending := (hdue .untouched).1 (.inl ⟨rfl, _, rfl⟩)
    obtain ⟨hregisters, hreturned⟩ := hleaves
    exact ⟨congrArg (fun rs : List Register => rs[0]?.map Register.cell) hregisters,
      fun n _ => congrArg (fun rs : List Register => rs[n]?) hregisters, hreturned⟩
  | false =>
    rw [hdenied] at hdue hleaves
    obtain rfl : Ending.renewed = ending := (hdue .renewed).1 ⟨rfl, _, rfl⟩
    obtain ⟨⟨v, hv, hregister⟩, -, hothers, hreturned⟩ := hleaves
    cases hv
    exact ⟨hregister, hothers, hreturned⟩

/-- The static call returns the array as a text, or an unknown value. -/
theorem valueOf_chars (hf : f.Holds 0 (.chars label cs)) :
    let i := Reflector.invoke ⟨valueOfSignature (.reference charsDescriptor), r, recorder⟩ h f
    i.raised = none → i.frame.registers = f.registers ∧ i.frame.returned = some
      ⟨if r.isDenied charsDescriptor then .unknown else .text (writtenChars cs),
        textDescriptor⟩ := by
  intro i hquiet
  obtain ⟨ending, hdue, hleaves⟩ := Reflector.leaves_invoke
    ⟨valueOfSignature (.reference charsDescriptor), r, recorder⟩ h f
    (Reflector.raised_invoke_eq_none.1 hquiet)
  rw [call_chars hr recorder h (.inr rfl) hf, Resolver.textOfChars] at hdue hleaves
  obtain rfl : Ending.answered = ending := (hdue .answered).1 ⟨rfl, rfl⟩
  obtain ⟨hregisters, hreturned⟩ := hleaves
  refine ⟨hregisters, hreturned.trans ?_⟩
  cases r.isDenied charsDescriptor <;> rfl

end

/-- **What becomes of an array of characters.**  Whatever the array and the frame, the constructor
puts into register 0, and `valueOf` returns, the text that the array is written as; only where the
type of such arrays is denied the one leaves its register and the other returns an unknown value.
Either call raises, and leaves its frame, where a console is to show a frame that has no text, and
nowhere else.  The text that is written is never the one of the characters, since it has not as many
code points as there are characters. -/
theorem text_of_chars {r : Resolver} (hr : r.BindsLibrary) (recorder : Recorder) (h : Heap)
    (label : Nat) (cs : List UInt16) :
    (∀ s f, s = charsSignature ∨ s = valueOfSignature (.reference charsDescriptor) →
      Frame.Holds f s.receiverWidth (.chars label cs) →
      let i := Reflector.invoke ⟨s, r, recorder⟩ h f
      (∀ e, i.raised = some e ↔
        recorder.shows .debug = true ∧ RegisterFile.describe h f = .error e) ∧
      (i.raised ≠ none → i.frame = f)) ∧
    (∀ f : Frame, f.Holds 1 (.chars label cs) →
      let i := Reflector.invoke ⟨charsSignature, r, recorder⟩ h f
      i.raised = none →
        i.frame.registers[0]?.map Register.cell =
            (if r.isDenied charsDescriptor then f.registers[0]?.map Register.cell
            else some ⟨.text (writtenChars cs), textDescriptor⟩) ∧
          (∀ n, n ≠ 0 → i.frame.registers[n]? = f.registers[n]?) ∧
          i.frame.returned = f.returned) ∧
    (∀ f : Frame, f.Holds 0 (.chars label cs) →
      let i := Reflector.invoke ⟨valueOfSignature (.reference charsDescriptor), r, recorder⟩ h f
      i.raised = none → i.frame.registers = f.registers ∧ i.frame.returned = some
        ⟨if r.isDenied charsDescriptor then .unknown else .text (writtenChars cs),
          textDescriptor⟩) ∧
    (writtenChars cs).length ≠ cs.length := by
  refine ⟨fun s f hs hf => ⟨fun e => ?_, fun hraised => ?_⟩,
    fun f hf => construct_chars hr recorder h hf, fun f hf => valueOf_chars hr recorder h hf,
    ArrayText.length_display_char_ne cs⟩
  · rw [Reflector.raised_invoke, raises_chars hr recorder h hs hf]
  · obtain ⟨e, he⟩ := Option.ne_none_iff_exists'.1 hraised
    exact Reflector.frame_of_raises (Reflector.raised_invoke.1 he)

/-- Two letters are written as their codes. -/
theorem text_of_two_letters :
    let r : Resolver := .standard
    let chars : Value := .chars 0 [104, 105]
    let f : Frame := .ofCells [⟨.null, textDescriptor⟩, ⟨chars, charsDescriptor⟩]
    r.BindsLibrary ∧ f.Holds 1 chars ∧
      (Reflector.invoke ⟨charsSignature, r, ⟨"engine", .info, none⟩⟩ {} f).frame.registers[0]?.map
        Register.cell = some ⟨.text "[104 105]", textDescriptor⟩ := by
  intro r chars f
  have hr : r.BindsLibrary := Resolver.bindsLibrary_standard
  have hf : f.Holds 1 chars := ⟨_, rfl⟩
  obtain ⟨hraised, hconstruct, -⟩ := text_of_chars hr ⟨"engine", .info, none⟩ {} 0 [104, 105]
  have hquiet : (Reflector.invoke ⟨charsSignature, r, ⟨"engine", .info, none⟩⟩ {} f).raised =
      none := by
    rw [Option.eq_none_iff_forall_ne_some]
    intro e he
    cases (((hraised charsSignature f (.inl rfl) hf).1 e).1 he).1
  have hmade := (hconstruct f hf hquiet).1
  have hallowed : r.isDenied charsDescriptor = false := rfl
  have hwritten : writtenChars [104, 105] = "[104 105]" := by decide +kernel
  rw [hallowed, if_neg Bool.false_ne_true, hwritten] at hmade
  exact ⟨hr, hf, hmade⟩

/-- The constructor neither leaves its register nor writes the text of the characters. -/
theorem not_text_of_chars :
    ¬ ∀ (cs : List UInt16) (f : Frame), f.Holds 1 (.chars 0 cs) →
      let g := (Reflector.invoke ⟨charsSignature, .standard, ⟨"engine", .info, none⟩⟩ {} f).frame
      g.registers[0]?.map Register.cell = f.registers[0]?.map Register.cell ∨
        ∃ t : Text, g.registers[0]?.map Register.cell = some ⟨.text t, textDescriptor⟩ ∧
          t = cs.map CodePoint.ofUnit := by
  intro hall
  let f : Frame := .ofCells [⟨.null, textDescriptor⟩, ⟨.chars 0 [104, 105], charsDescriptor⟩]
  have hf : f.Holds 1 (.chars 0 [104, 105]) := ⟨_, rfl⟩
  have hr : Resolver.standard.BindsLibrary := Resolver.bindsLibrary_standard
  have hallowed : Resolver.standard.isDenied charsDescriptor = false := rfl
  have hquiet : (Reflector.invoke ⟨charsSignature, .standard, ⟨"engine", .info, none⟩⟩ {}
      f).raised = none := by
    refine Reflector.raised_invoke_eq_none.2 fun e hraises => ?_
    cases ((raises_chars hr _ {} (.inl rfl) hf e).1 hraises).1
  have hmade := (construct_chars hr ⟨"engine", .info, none⟩ {} hf hquiet).1
  rw [hallowed, if_neg Bool.false_ne_true] at hmade
  rcases hall [104, 105] f hf with hleft | ⟨t, ht, hchars⟩
  · rw [hmade] at hleft
    cases hleft
  · rw [hmade] at ht
    cases ht
    have hlength := congrArg List.length hchars
    rw [List.length_map] at hlength
    exact ArrayText.length_display_char_ne [104, 105] hlength

end HostCall
