import HostCall.Library.Integer
import HostCall.Proofs.Result
import Mathlib.Data.List.Forall2
import Mathlib.Data.Nat.Digits.Defs

/-!
# Integers in text

`Writes` tells which integer a text writes in a radix, without a reader: a sign or none, and digits
with their positional value.  `Library.parseInteger` first looks at the shape of a text, and a text
of that shape goes through the reader of literals without a change, since it holds no blank, no
underscore and no digit of another script.

What the reader adds to the grammar are the marks `0x`, `0o` and `0b` of three radices, and what it
takes away are numerals of more than `digitLimit` digits, where the radix is no power of two.

Main statement: `parseInteger_eq` tells for each text whether it is read, and as what, and how all
others fail.
-/

namespace HostCall

open Result

namespace Literal

/-! ## The grammar -/

/-- The sign that a numeral may have. -/
inductive Sign where
  | none
  | plus
  | minus

namespace Sign

def text : Sign → Text
  | .none => []
  | .plus => ['+']
  | .minus => ['-']

def isMinus : Sign → Bool
  | .minus => true
  | _ => false

/-- A number with the sign given. -/
def apply (sign : Sign) (n : Nat) : Int := if sign.isMinus then -n else n

end Sign

/-- The code points of a text are digits of the radix, with these values. -/
def Digits (radix : Nat) : Text → List Nat → Prop :=
  List.Forall₂ fun c v => c.digitValue? = some v ∧ v < radix

/-- What a text writes in a radix: the positional value of one or more digits, behind a sign or none
and behind a mark. -/
inductive Writes (radix : Nat) (mark : Text) : Text → Int → Prop
  | mk (sign : Sign) {digits : Text} {vs : List Nat} (hne : digits ≠ [])
    (hdigits : Digits radix digits vs) :
    Writes radix mark (sign.text ++ (mark ++ digits)) (sign.apply (Nat.ofDigits radix vs.reverse))

/-- The marks of a radix. -/
def marks : Nat → List Text
  | 16 => ["0x", "0X"]
  | 8 => ["0o", "0O"]
  | 2 => ["0b", "0B"]
  | _ => []

theorem ofDigits_eq (radix : Nat) (vs : List Nat) :
    ofDigits radix vs = Nat.ofDigits radix vs.reverse := by
  rw [ofDigits, Nat.ofDigits_eq_foldr, List.foldr_reverse]
  simp [Nat.add_comm]

/-! ## Digits and letters -/

theorem digitIn?_eq_some_iff {radix v : Nat} {c : CodePoint} :
    digitIn? radix c = some v ↔ c.digitValue? = some v ∧ v < radix := by
  simp [digitIn?, Option.filter_eq_some_iff]

theorem val_of_digitValue? {c : CodePoint} (h : c.digitValue?.isSome) :
    48 ≤ c.val ∧ c.val ≤ 122 ∧ c.val ≠ 95 := by
  unfold CodePoint.digitValue? at h
  grind

theorem ne_of_digitValue? {c d : CodePoint} (h : c.digitValue?.isSome)
    (hd : d.digitValue? = .none) : c ≠ d := by
  rintro rfl
  simp [hd] at h

theorem Digits.isSome {radix : Nat} {t : Text} {vs : List Nat} (h : Digits radix t vs) :
    ∀ c ∈ t, c.digitValue?.isSome := by
  induction h with
  | nil => simp
  | cons hc _ ih => exact List.forall_mem_cons.2 ⟨by simp [hc.1], ih⟩

/-- Before a letter or digit a run of digits goes on by one digit at a time. -/
theorem digitRun_cons {radix : Nat} {c : CodePoint} {rest : Text}
    (hletters : ∀ d ∈ c :: rest, d.digitValue?.isSome) :
    digitRun radix (c :: rest) = match digitIn? radix c with
      | .none => some ([], c :: rest)
      | some v => (digitRun radix rest).map fun (vs, tail) => (v :: vs, tail) := by
  have hplain : ∀ d ∈ c :: rest, d ≠ ('_' : CodePoint) :=
    fun d hd => ne_of_digitValue? (hletters d hd) (by decide)
  rw [digitRun]
  cases digitIn? radix c with
  | none => simp [hplain c]
  | some v =>
    match rest, hplain with
    | [], _ => rfl
    | [_], _ => rfl
    | u :: d :: rest', hplain => simp only [hplain u (by simp), if_false]

/-- A run of digits goes through a whole text when all of it are digits. -/
theorem digitRun_eq_iff {radix : Nat} {t : Text} {vs : List Nat}
    (hletters : ∀ c ∈ t, c.digitValue?.isSome) :
    digitRun radix t = some (vs, []) ↔ Digits radix t vs := by
  induction t generalizing vs with
  | nil => simp [digitRun, Digits, eq_comm]
  | cons c rest ih =>
    have ih := fun ws => @ih ws fun d hd => hletters d (List.mem_cons_of_mem _ hd)
    rw [digitRun_cons hletters]
    cases hc : digitIn? radix c with
    | none =>
      refine iff_of_false (by simp) fun h => ?_
      cases h with
      | cons hv _ => rw [digitIn?_eq_some_iff.2 hv] at hc; cases hc
    | some v =>
      rw [Option.map_eq_some_iff]
      constructor
      · rintro ⟨⟨ws, tail⟩, hrun, heq⟩
        obtain ⟨rfl, rfl⟩ : v :: ws = vs ∧ tail = [] := by simpa using heq
        exact .cons (digitIn?_eq_some_iff.1 hc) ((ih ws).1 hrun)
      · intro h
        cases h with
        | @cons _ w _ ws hw hws =>
          obtain rfl : v = w := Option.some.inj (hc.symm.trans (digitIn?_eq_some_iff.2 hw))
          exact ⟨(ws, []), (ih ws).2 hws, rfl⟩

/-! ## Marks -/

/-- A lowercase letter is what it or its uppercase letter becomes. -/
theorem asciiLower_eq_iff {c d : CodePoint} (hd : 97 ≤ d.val ∧ d.val ≤ 122) :
    c.asciiLower = d ↔ c = d ∨ c.val + 32 = d.val := by
  have hval : c.asciiLower = d ↔ c.asciiLower.val = d.val :=
    ⟨congrArg CodePoint.val, CodePoint.ext_val⟩
  have heq : c = d ↔ c.val = d.val := ⟨congrArg CodePoint.val, CodePoint.ext_val⟩
  rw [hval, heq, CodePoint.asciiLower]
  split <;> grind

/-- The two spellings of a mark. -/
theorem mem_spellings_iff {l u : CodePoint} {mark : Text} (hl : 97 ≤ l.val ∧ l.val ≤ 122)
    (hu : u.val + 32 = l.val) : mark ∈ [[.ofChar '0', l], [.ofChar '0', u]] ↔
      ∃ m, mark = [.ofChar '0', m] ∧ some l = some m.asciiLower := by
  simp only [List.mem_cons, List.not_mem_nil, or_false, Option.some.injEq, eq_comm (a := l),
    asciiLower_eq_iff hl]
  constructor
  · rintro (rfl | rfl)
    · exact ⟨l, rfl, .inl rfl⟩
    · exact ⟨u, rfl, .inr hu⟩
  · rintro ⟨m, rfl, rfl | hm⟩
    · exact .inl rfl
    · obtain rfl : m = u := CodePoint.ext_val (by omega)
      exact .inr rfl

/-- The marks of a radix are a zero and its letter, in either case. -/
theorem mem_marks_iff {radix : Nat} {mark : Text} :
    mark ∈ marks radix ↔
      ∃ m, mark = [.ofChar '0', m] ∧ radixLetter? radix = some m.asciiLower := by
  unfold marks
  split
  · exact mem_spellings_iff (by decide) (by decide)
  · exact mem_spellings_iff (by decide) (by decide)
  · exact mem_spellings_iff (by decide) (by decide)
  · rename_i h16 h8 h2
    have hnone : radixLetter? radix = .none := by
      rw [radixLetter?, if_neg h16, if_neg h8, if_neg h2]
    simp [hnone]

/-- The letter in a mark is no digit of the radix. -/
theorem not_lt_of_mem_marks {radix v : Nat} {m : CodePoint} (hm : [.ofChar '0', m] ∈ marks radix)
    (hv : m.digitValue? = some v) : ¬ v < radix := by
  have hletters : ∀ mark ∈ marks radix, ∀ c ∈ mark.tail, c.digitValue?.all (radix ≤ ·) = true := by
    unfold marks
    split
    · decide
    · decide
    · decide
    · exact List.forall_mem_nil _
  have hm := hletters _ hm m (List.mem_singleton_self m)
  rw [hv] at hm
  simpa using hm

theorem isPowerOfTwo_of_mem_marks {radix : Nat} {mark : Text} (hm : mark ∈ marks radix) :
    isPowerOfTwo radix = true := by
  unfold marks at hm
  split at hm
  · decide
  · decide
  · decide
  · cases hm

theorem isSome_of_mem_marks {radix : Nat} {mark : Text} (hm : mark ∈ marks radix) :
    ∀ c ∈ mark, c.digitValue?.isSome := by
  unfold marks at hm
  revert mark
  split <;> decide

/-- A mark is dropped, unless an underscore follows it. -/
theorem dropRadixMark_mark {radix : Nat} {mark digits : Text} (hm : mark ∈ marks radix)
    (hdigits : ∀ c ∈ digits, c.digitValue?.isSome) :
    dropRadixMark radix (mark ++ digits) = digits := by
  obtain ⟨m, rfl, hletter⟩ := mem_marks_iff.1 hm
  cases digits with
  | nil => simp [dropRadixMark, hletter]
  | cons c rest =>
    have hc : c ≠ .ofChar '_' := ne_of_digitValue? (hdigits c List.mem_cons_self) (by decide)
    simp [dropRadixMark, hletter, hc]

/-- What is dropped is a mark or nothing. -/
theorem dropRadixMark_cases {radix : Nat} {t : Text} (hletters : ∀ c ∈ t, c.digitValue?.isSome) :
    dropRadixMark radix t = t ∨ ∃ mark ∈ marks radix, t = mark ++ dropRadixMark radix t := by
  match t, hletters with
  | [], _ => exact .inl rfl
  | [_], _ => exact .inl rfl
  | z :: m :: rest, hletters =>
    by_cases hmark : z = .ofChar '0' ∧ radixLetter? radix = some m.asciiLower
    · obtain ⟨rfl, hletter⟩ := hmark
      have hm := mem_marks_iff.2 ⟨m, rfl, hletter⟩
      refine .inr ⟨_, hm, ?_⟩
      have hrest : ∀ c ∈ rest, c.digitValue?.isSome :=
        fun c hc => hletters c (List.mem_cons_of_mem _ (List.mem_cons_of_mem _ hc))
      exact congrArg ([.ofChar '0', m] ++ ·) (dropRadixMark_mark hm hrest).symm
    · exact .inl (by simp only [dropRadixMark, hmark, if_false])

/-- No mark stands at the head of digits. -/
theorem dropRadixMark_digits {radix : Nat} {t : Text} {vs : List Nat} (h : Digits radix t vs) :
    dropRadixMark radix t = t := by
  obtain heq | ⟨mark, hm, ht⟩ := dropRadixMark_cases h.isSome
  · exact heq
  · obtain ⟨m, rfl, -⟩ := mem_marks_iff.1 hm
    rw [ht] at h
    cases h with
    | cons _ h =>
      cases h with
      | cons hv _ => exact absurd hv.2 (not_lt_of_mem_marks hm hv.1)

/-! ## The reader -/

theorem readNatural_eq_ok_iff {radix : Nat} {t : Text} {n : Nat} :
    readNatural radix t = .ok n ↔ ∃ vs, digitRun radix (dropRadixMark radix t) = some (vs, []) ∧
      vs ≠ [] ∧ (isPowerOfTwo radix = true ∨ vs.length ≤ digitLimit) ∧ ofDigits radix vs = n := by
  unfold readNatural
  cases digitRun radix (dropRadixMark radix t) with
  | none => simp
  | some run =>
    obtain ⟨vs, tail⟩ := run
    by_cases hlimit : isPowerOfTwo radix = true ∨ vs.length ≤ digitLimit
    · have hshort : (!isPowerOfTwo radix && vs.length > digitLimit) = false := by
        obtain h | h := hlimit <;> simp [h]
      by_cases hrun : vs = [] ∨ tail ≠ []
      · simp only [hshort, hrun]
        grind
      · grind
    · grind

/-- A text of letters and digits is read when it is digits of the radix, not too many, or a mark of
the radix with digits behind it. -/
theorem readNatural_iff {radix : Nat} {t : Text} {n : Nat}
    (hletters : ∀ c ∈ t, c.digitValue?.isSome) :
    readNatural radix t = .ok n ↔ ∃ digits vs, digits ≠ [] ∧ Digits radix digits vs ∧
      Nat.ofDigits radix vs.reverse = n ∧
        (t = digits ∧ (isPowerOfTwo radix = true ∨ digits.length ≤ digitLimit) ∨
          ∃ mark ∈ marks radix, t = mark ++ digits) := by
  rw [readNatural_eq_ok_iff]
  constructor
  · rintro ⟨vs, hrun, hne, hlimit, hn⟩
    have hcases : dropRadixMark radix t = t ∨ ∃ mark ∈ marks radix,
        t = mark ++ dropRadixMark radix t := dropRadixMark_cases hletters
    have hdropped : ∀ c ∈ dropRadixMark radix t, c.digitValue?.isSome := by
      obtain heq | ⟨mark, -, ht⟩ := hcases
      · rwa [heq]
      · exact fun c hc => hletters c (ht ▸ List.mem_append_right _ hc)
    have hdigits := (digitRun_eq_iff hdropped).1 hrun
    refine ⟨_, vs, fun hnil => hne ?_, hdigits, ofDigits_eq radix vs ▸ hn, ?_⟩
    · rw [hnil] at hdigits
      cases hdigits
      rfl
    · obtain heq | hmark := hcases
      · exact .inl ⟨heq.symm, by rwa [hdigits.length_eq]⟩
      · exact .inr hmark
  · rintro ⟨digits, vs, hne, hdigits, hn, ht⟩
    have hvs : vs ≠ [] := by
      rintro rfl
      cases hdigits
      exact hne rfl
    have hrun := (digitRun_eq_iff hdigits.isSome).2 hdigits
    rw [← ofDigits_eq] at hn
    obtain ⟨rfl, hlimit⟩ | ⟨mark, hmark, rfl⟩ := ht
    · rw [dropRadixMark_digits hdigits]
      exact ⟨vs, hrun, hvs, by rwa [← hdigits.length_eq], hn⟩
    · rw [dropRadixMark_mark hmark hdigits.isSome]
      exact ⟨vs, hrun, hvs, .inl (isPowerOfTwo_of_mem_marks hmark), hn⟩

/-! ## Signs -/

theorem normalized_of_ascii {t : Text} (h : ∀ c ∈ t, c.val < 128) : normalized t = t := by
  rw [normalized, if_pos (by simpa using h)]

theorem strip_of_none {p : CodePoint → Bool} {t : Text} (h : ∀ c ∈ t, p c = false) :
    Text.strip p t = t := by
  have hkeep : ∀ u : Text, (∀ c ∈ u, p c = false) → u.dropWhile p = u := by
    intro u hu
    cases u with
    | nil => rfl
    | cons c rest => rw [List.dropWhile_cons_of_neg (by simp [hu])]
  rw [Text.strip, hkeep t h, hkeep _ fun c hc => h c (List.mem_reverse.1 hc), List.reverse_reverse]

/-- The sign is split off a text of letters and digits. -/
theorem splitSign_sign {sign : Sign} {body : Text} (hletters : ∀ c ∈ body, c.digitValue?.isSome) :
    splitSign (sign.text ++ body) = (sign.isMinus, body) := by
  cases sign with
  | plus => rfl
  | minus => rfl
  | none =>
    cases body with
    | nil => rfl
    | cons c rest =>
      have hc := hletters c List.mem_cons_self
      have hminus : c ≠ .ofChar '-' := ne_of_digitValue? hc (by decide)
      have hplus : c ≠ .ofChar '+' := ne_of_digitValue? hc (by decide)
      simp [Sign.text, Sign.isMinus, splitSign, hminus, hplus]

/-- Every text is a sign or none with the rest behind it. -/
theorem exists_sign (t : Text) : ∃ sign : Sign, t = sign.text ++ (splitSign t).2 := by
  cases t with
  | nil => exact ⟨.none, rfl⟩
  | cons c rest =>
    rw [splitSign]
    by_cases hminus : c = .ofChar '-'
    · exact ⟨.minus, by simp [hminus, Sign.text]⟩
    by_cases hplus : c = .ofChar '+'
    · exact ⟨.plus, by simp [hplus, Sign.text, CodePoint.ofChar]⟩
    · exact ⟨.none, by simp [hminus, hplus, Sign.text]⟩

/-- A signed text of letters and digits is not changed on the way to the reader of naturals. -/
theorem readInteger_sign {radix : Nat} (hradix : radix ≠ 0) (sign : Sign) {body : Text}
    (hletters : ∀ c ∈ body, c.digitValue?.isSome) :
    readInteger radix (sign.text ++ body) = (readNatural radix body).map sign.apply := by
  have hascii : ∀ c ∈ sign.text ++ body, 33 ≤ c.val ∧ c.val < 128 := by
    intro c hc
    obtain hc | hc := List.mem_append.1 hc
    · cases sign <;> simp [Sign.text] at hc <;> subst hc <;> decide
    · have := val_of_digitValue? (hletters c hc)
      omega
  rw [readInteger, normalized_of_ascii fun c hc => (hascii c hc).2,
    strip_of_none fun c hc => by have := hascii c hc; grind [isSpace], splitSign_sign hletters]
  simp only [hradix, if_false]
  cases readNatural radix body <;> rfl

end Literal

namespace Library

open Literal

/-- The shape of a numeral: a sign or none, and letters and digits. -/
theorem isNumeralShape_iff {t : Text} :
    isNumeralShape t = true ↔ ∃ (sign : Sign) (body : Text), t = sign.text ++ body ∧ body ≠ [] ∧
      ∀ c ∈ body, c.digitValue?.isSome := by
  have hshape : isNumeralShape t = true ↔
      (splitSign t).2 ≠ [] ∧ ∀ c ∈ (splitSign t).2, c.digitValue?.isSome := by
    simp [isNumeralShape, isNumeralLetter]
  rw [hshape]
  constructor
  · rintro ⟨hne, hletters⟩
    obtain ⟨sign, ht⟩ := exists_sign t
    exact ⟨sign, _, ht, hne, hletters⟩
  · rintro ⟨sign, body, rfl, hne, hletters⟩
    rw [splitSign_sign hletters]
    exact ⟨hne, hletters⟩

/-- What a text writes is read, behind a mark whatever its length. -/
theorem readInteger_of_writes {radix : Nat} {mark t quoted : Text} {n : Int} (hradix : radix ≠ 0)
    (hmark : mark = [] ∧ (isPowerOfTwo radix = true ∨ (splitSign t).2.length ≤ digitLimit) ∨
      mark ∈ marks radix) (h : Writes radix mark t n) :
    isNumeralShape t = true ∧ Value.readInteger radix quoted t = .ok n := by
  obtain @⟨sign, digits, vs, hne, hdigits⟩ := h
  have hletters : ∀ c ∈ mark ++ digits, c.digitValue?.isSome := by
    intro c hc
    obtain hc | hc := List.mem_append.1 hc
    · obtain ⟨rfl, -⟩ | hmark := hmark
      · cases hc
      · exact isSome_of_mem_marks hmark c hc
    · exact hdigits.isSome c hc
  rw [splitSign_sign hletters] at hmark
  have hbody : mark ++ digits = digits ∧
      (isPowerOfTwo radix = true ∨ digits.length ≤ digitLimit) ∨
        ∃ mark' ∈ marks radix, mark ++ digits = mark' ++ digits := by
    obtain ⟨rfl, hlimit⟩ | hmark := hmark
    · exact .inl ⟨rfl, hlimit⟩
    · exact .inr ⟨mark, hmark, rfl⟩
  have hread := (readNatural_iff hletters).2 ⟨digits, vs, hne, hdigits, rfl, hbody⟩
  refine ⟨isNumeralShape_iff.2 ⟨sign, _, rfl, by simp [hne], hletters⟩, ?_⟩
  rw [Value.readInteger, readInteger_sign hradix sign hletters, hread]
  rfl

/-- What is read of a text of the shape of a numeral is what it writes. -/
theorem writes_of_readInteger {radix : Nat} {t quoted : Text} {n : Int} (hradix : radix ≠ 0)
    (hshape : isNumeralShape t = true) (hread : Value.readInteger radix quoted t = .ok n) :
    Writes radix [] t n ∧ (isPowerOfTwo radix = true ∨ (splitSign t).2.length ≤ digitLimit) ∨
      ∃ mark ∈ marks radix, Writes radix mark t n := by
  obtain ⟨sign, body, rfl, hne, hletters⟩ := isNumeralShape_iff.1 hshape
  rw [Value.readInteger, mapError_eq_ok_iff, readInteger_sign hradix sign hletters,
    map_eq_ok_iff] at hread
  obtain ⟨m, hm, rfl⟩ := hread
  obtain ⟨digits, vs, hdigits, hvs, rfl, hbody⟩ := (readNatural_iff hletters).1 hm
  obtain ⟨rfl, hlimit⟩ | ⟨mark, hmark, rfl⟩ := hbody
  · rw [splitSign_sign hletters]
    exact .inl ⟨.mk sign hdigits hvs, hlimit⟩
  · exact .inr ⟨mark, hmark, .mk sign hdigits hvs⟩

/-- The checks around the reader: the radix, the shape of the text, and the bounds. -/
theorem parseInteger_eq_ok_iff_read {t : Text} {radix low high n : Int} :
    parseInteger (some t) radix low high = .ok n ↔
      (2 ≤ radix ∧ radix ≤ 36) ∧ (low ≤ n ∧ n ≤ high) ∧
        isNumeralShape t = true ∧ Value.readInteger radix.toNat t.quoted t = .ok n := by
  rw [parseInteger]
  by_cases hradix : 2 ≤ radix ∧ radix ≤ 36
  · cases hshape : isNumeralShape t
    · simp [hradix]
    · simp only [hradix, not_true_eq_false, if_false, Bool.not_true, Bool.false_eq_true, true_and,
        bind_eq_ok_iff]
      constructor
      · rintro ⟨m, hm, hn⟩
        split at hn
        · cases hn
          exact ⟨by assumption, hm⟩
        · cases hn
      · rintro ⟨hrange, hn⟩
        exact ⟨n, hn, if_pos hrange⟩
  · simp [hradix]

theorem kind_citing {ns : List Int} {e : HostError} (he : e.kind = .value) :
    (HostError.citing ns e).kind = .value := by
  rw [HostError.citing]
  split
  · exact he
  · rfl

/-- Whatever is refused, is refused as a bad value. -/
theorem kind_of_parseInteger {text : Option Text} {radix low high : Int} {e : HostError}
    (h : parseInteger text radix low high = .error e) : e.kind = .value := by
  unfold parseInteger at h
  split at h
  · cases h
    rfl
  · split at h
    · obtain rfl := Except.error.inj h
      exact kind_citing rfl
    · split at h
      · cases h
        rfl
      · obtain hread | ⟨n, -, hrange⟩ := bind_eq_error_iff.1 h
        · obtain ⟨fault, -, rfl⟩ := mapError_eq_error_iff.1 hread
          cases fault <;> rfl
        · split at hrange
          · cases hrange
          · cases hrange
            rfl

/-- **Which texts are integers.**  A text is read in a radix from 2 to 36 when it writes an integer
between the bounds, and then as that integer; the reader takes it also behind a mark of the radix,
and does not take more than `digitLimit` digits where the radix is no power of two.  All other texts
are refused as bad values. -/
theorem parseInteger_eq (t : Text) (radix low high : Int) :
    (∀ n, parseInteger (some t) radix low high = .ok n ↔
      (2 ≤ radix ∧ radix ≤ 36) ∧ (low ≤ n ∧ n ≤ high) ∧
        (Writes radix.toNat [] t n ∧
            (isPowerOfTwo radix.toNat = true ∨ (splitSign t).2.length ≤ digitLimit) ∨
          ∃ mark ∈ marks radix.toNat, Writes radix.toNat mark t n)) ∧
    ∀ e, parseInteger (some t) radix low high = .error e → e.kind = .value := by
  refine ⟨fun n => ?_, fun e => kind_of_parseInteger⟩
  rw [parseInteger_eq_ok_iff_read]
  refine and_congr_right fun hradix => and_congr_right fun _ => ?_
  have hzero : radix.toNat ≠ 0 := by omega
  constructor
  · rintro ⟨hshape, hread⟩
    exact writes_of_readInteger hzero hshape hread
  · rintro (⟨hwrites, hlimit⟩ | ⟨mark, hmark, hwrites⟩)
    · exact readInteger_of_writes hzero (.inl ⟨rfl, hlimit⟩) hwrites
    · exact readInteger_of_writes hzero (.inr hmark) hwrites

/-- Zeros are a numeral, however many they are. -/
theorem writes_zeros (n : Nat) (hn : n ≠ 0) : Writes 10 [] (List.replicate n (.ofChar '0')) 0 := by
  have hdigits : ∀ k, Digits 10 (List.replicate k (.ofChar '0')) (List.replicate k 0) := by
    intro k
    induction k with
    | zero => exact .nil
    | succ k ih => exact .cons (by decide) ih
  have hvalue : ∀ k, Nat.ofDigits 10 (List.replicate k 0) = 0 := by
    intro k
    induction k with
    | zero => rfl
    | succ k ih => rw [List.replicate_succ, Nat.ofDigits_cons, ih]
  have h : Writes 10 [] _ _ := .mk .none (by simpa using hn) (hdigits n)
  rwa [List.reverse_replicate, hvalue] at h

/-- Behind its mark a text that is no numeral is read, since a letter above the radix stands in the
mark; and a numeral of more digits than the limit is not read, whatever its value. -/
theorem parseInteger_mark_and_limit :
    (parseInteger (some "0x10") 16 intMin intMax = .ok 16 ∧ ¬ ∃ n, Writes 16 [] "0x10" n) ∧
      Writes 10 [] (List.replicate 4301 (.ofChar '0')) 0 ∧
      ¬ ∃ n, parseInteger (some (List.replicate 4301 (.ofChar '0'))) 10 intMin intMax = .ok n := by
  refine ⟨⟨rfl, ?_⟩, writes_zeros 4301 (by decide), ?_⟩
  · rintro ⟨n, h⟩
    generalize ht : Text.ofString "0x10" = t at h
    obtain @⟨sign, digits, vs, -, hdigits⟩ := h
    cases sign with
    | plus => cases ht
    | minus => cases ht
    | none =>
      obtain rfl : Text.ofString "0x10" = digits := ht
      obtain - | ⟨-, - | ⟨⟨hv, hlt⟩, -⟩⟩ := hdigits
      cases hv
      exact absurd hlt (by decide)
  · rintro ⟨n, h⟩
    obtain ⟨-, -, hshape, hread⟩ := parseInteger_eq_ok_iff_read.1 h
    obtain ⟨-, hlimit | hlimit⟩ | ⟨mark, hmark, -⟩ := writes_of_readInteger (by decide) hshape hread
    · exact absurd hlimit (by decide)
    · rw [List.replicate_succ] at hlimit
      have hlength :
          (splitSign (.ofChar '0' :: List.replicate 4300 (.ofChar '0'))).2.length = 4301 := by
        rw [splitSign, if_neg (by decide), if_neg (by decide), List.length_cons,
          List.length_replicate]
      rw [hlength] at hlimit
      exact absurd hlimit (by decide)
    · cases hmark

end Library

end HostCall
