import HostCall.Proofs.Numeral
import HostCall.Value.ArrayText

/-!
# What an array is written as

The words of an array are put on lines, and where a line is full its last blanks give way to a line
feed and the next line is indented.  So a written array is known only apart from the blanks, which
is enough: `solid_layOut` says that what is left are the words with the separators between them, in
brackets.  `Layout.add` is one step of the layout, and both facts about a whole layout come from
what a step does to the text that is written so far.

Main statement, `length_display_char_ne`: an array of characters is never written with as many code
points as it has items, since up to a thousand items each is written with one at least, between two
brackets, and of more items only six are written.
-/

namespace HostCall

namespace Text

def isBlank (c : CodePoint) : Bool := c = ' ' || c = '\n'

/-- A text without its blanks. -/
def solid (t : Text) : Text := t.filter fun c => !isBlank c

theorem solid_append (s t : Text) : solid (s ++ t) = solid s ++ solid t := List.filter_append s t

theorem solid_eq_nil {t : Text} (h : ∀ c ∈ t, isBlank c = true) : solid t = [] :=
  List.filter_eq_nil_iff.2 fun c hc => by simp [h c hc]

theorem solid_eq_self {t : Text} (h : ∀ c ∈ t, isBlank c = false) : solid t = t :=
  List.filter_eq_self.2 fun c hc => by simp [h c hc]

theorem isBlank_of_mem_spaces {n : Nat} :
    ∀ c ∈ (List.replicate n ' ' : Text), isBlank c = true := by
  intro c hc
  rw [List.eq_of_mem_replicate hc]
  rfl

theorem solid_padLeft (width : Nat) (t : Text) : solid (padLeft ' ' width t) = solid t := by
  rw [padLeft, solid_append, solid_eq_nil isBlank_of_mem_spaces, List.nil_append]

theorem length_padLeft (fill : CodePoint) (width : Nat) (t : Text) :
    (padLeft fill width t).length = max width t.length := by
  rw [padLeft, List.length_append, List.length_replicate]
  omega

/-- Without a separator the parts stand one after another. -/
theorem join_nil (parts : List Text) : join [] parts = parts.flatten := by
  induction parts with
  | nil => rfl
  | cons part parts ih =>
    by_cases hparts : parts = []
    · subst hparts
      exact List.intercalate_singleton.trans (List.append_nil part).symm
    · rw [join, List.intercalate_cons_of_ne_nil hparts, List.append_nil, List.flatten_cons, ← ih,
        join]

/-! ## Numerals -/

theorem isBlank_ofDigit (d : Nat) : isBlank (.ofDigit d) = false := by
  have hval : 48 ≤ (CodePoint.ofDigit d).val := by
    unfold CodePoint.ofDigit
    split
    · exact Nat.le_add_right 48 d
    · split
      · show 48 ≤ 87 + d
        omega
      · decide
  have hne : ∀ c : CodePoint, c.val < 48 → CodePoint.ofDigit d ≠ c := by
    intro c hc heq
    rw [heq] at hval
    omega
  simp [isBlank, hne ' ' (by decide), hne '\n' (by decide)]

theorem solid_ofNat (n : Nat) : solid (ofNat n) = ofNat n :=
  solid_eq_self fun c hc => by
    obtain ⟨d, -, rfl⟩ := List.mem_map.1 hc
    exact isBlank_ofDigit d

end Text

namespace ArrayText

open Text

/-! ## One word -/

/-- All that is written so far. -/
def Layout.text (l : Layout) : Text := l.done ++ l.line

/-- Puts a word, and behind each but the last a separator. -/
def Layout.add (separator indent : Text) (columns last : Nat) (l : Layout) (p : Text × Nat) :
    Layout :=
  let next := l.put indent columns p.1
  if p.2 = last then next else ⟨next.done, next.line ++ separator⟩

def indentOf (opening : Nat) : Text := Text.padLeft ' ' (opening + 1) []

/-- All words, put one after another. -/
def laidOut (separator : Text) (opening columns : Nat) (ws : List Text) : Layout :=
  let columns := columns - max (dropTrailingSpaces separator).length 1
  ws.zipIdx.foldl (Layout.add separator (indentOf opening) columns (ws.length - 1))
    ⟨[], indentOf opening⟩

theorem layOut_eq (separator : Text) (opening columns : Nat) (ws : List Text) :
    layOut separator opening columns ws = Text.concat ["[",
      (laidOut separator opening columns ws).text.drop (indentOf opening).length, "]"] := rfl

theorem exists_dropTrailingSpaces (t : Text) :
    ∃ n, t = dropTrailingSpaces t ++ (List.replicate n ' ' : Text) := by
  let spaces := t.reverse.takeWhile fun c : CodePoint => c = ' '
  have hspaces : spaces = (List.replicate spaces.length ' ' : Text) :=
    List.eq_replicate_of_mem fun c hc =>
      of_decide_eq_true (List.all_eq_true.1 List.all_takeWhile c hc)
  refine ⟨spaces.length, ?_⟩
  rw [dropTrailingSpaces, ← List.reverse_replicate, ← hspaces, ← List.reverse_append,
    List.takeWhile_append_dropWhile, List.reverse_reverse]

namespace Layout

variable (separator indent : Text) (columns last : Nat) (l : Layout) (word : Text) (i : Nat)

/-- A word goes behind what is written, or the spaces there give way to a new line. -/
theorem text_put : (l.put indent columns word).text = l.text ++ word ∨
    ∃ kept n, l.text = kept ++ (List.replicate n ' ' : Text) ∧
      (l.put indent columns word).text = kept ++ ('\n' :: (indent ++ word) : Text) := by
  rw [put]
  by_cases hfull : l.line.length + word.length > columns ∧ l.line.length > indent.length
  · rw [if_pos hfull]
    obtain ⟨n, hn⟩ := exists_dropTrailingSpaces l.line
    refine .inr ⟨l.done ++ dropTrailingSpaces l.line, n, ?_, ?_⟩
    · rw [text, List.append_assoc, ← hn]
    · simp only [text, Text.concat, List.flatten_cons, List.flatten_nil, List.append_assoc,
        List.append_nil]
      rfl
  · rw [if_neg hfull]
    exact .inl (List.append_assoc _ _ _).symm

theorem text_add : (l.add separator indent columns last (word, i)).text =
    (l.put indent columns word).text ++ if i = last then [] else separator := by
  rw [add]
  by_cases hlast : i = last
  · rw [if_pos hlast, if_pos hlast, List.append_nil]
  · rw [if_neg hlast, if_neg hlast]
    exact (List.append_assoc _ _ _).symm

/-- Apart from blanks a step adds its word and the separator. -/
theorem solid_add (hindent : ∀ c ∈ indent, isBlank c = true) :
    solid (l.add separator indent columns last (word, i)).text =
      solid l.text ++ solid word ++ solid (if i = last then [] else separator) := by
  rw [text_add, solid_append]
  refine congrArg (· ++ _) ?_
  rcases l.text_put indent columns word with hput | ⟨kept, n, hkept, hput⟩
  · rw [hput, solid_append]
  · have hline : solid ('\n' :: (indent ++ word) : Text) = solid word := by
      rw [solid, List.filter_cons_of_neg (by decide), ← solid, solid_append, solid_eq_nil hindent,
        List.nil_append]
    rw [hput, hkept, solid_append, solid_append, hline, solid_eq_nil isBlank_of_mem_spaces,
      List.append_nil]

/-- A step adds no more than its word, the separator, a line feed and the indent. -/
theorem length_add_le : (l.add separator indent columns last (word, i)).text.length ≤
    l.text.length + (word.length + indent.length + separator.length + 1) := by
  have hbehind : (if i = last then [] else separator).length ≤ separator.length := by
    by_cases hlast : i = last
    · simp [hlast]
    · simp [hlast]
  rw [text_add, List.length_append]
  rcases l.text_put indent columns word with hput | ⟨kept, n, hkept, hput⟩
  · rw [hput, List.length_append]
    omega
  · rw [hput, hkept]
    simp only [List.length_append, List.length_cons]
    omega

end Layout

/-- A text that begins with so many blanks. -/
def Indented (width : Nat) (t : Text) : Prop :=
  ∃ margin rest, t = margin ++ rest ∧ margin.length = width ∧ ∀ c ∈ margin, isBlank c = true

theorem Indented.append {width : Nat} {t : Text} (h : Indented width t) (s : Text) :
    Indented width (t ++ s) := by
  obtain ⟨margin, rest, rfl, hwidth, hmargin⟩ := h
  exact ⟨margin, rest ++ s, List.append_assoc _ _ _, hwidth, hmargin⟩

theorem Indented.solid_drop {width : Nat} {t : Text} (h : Indented width t) :
    solid (t.drop width) = solid t := by
  obtain ⟨margin, rest, rfl, rfl, hmargin⟩ := h
  rw [List.drop_left, solid_append, solid_eq_nil hmargin, List.nil_append]

/-- A step leaves the blanks at the beginning, since a line gives way to an indented one. -/
theorem Indented.add {indent : Text} {l : Layout} (h : Indented indent.length l.text)
    (hindent : ∀ c ∈ indent, isBlank c = true) (separator : Text) (columns last : Nat)
    (word : Text) (i : Nat) :
    Indented indent.length (l.add separator indent columns last (word, i)).text := by
  rw [Layout.text_add]
  refine Indented.append ?_ _
  rcases l.text_put indent columns word with hput | ⟨kept, n, hkept, hput⟩
  · rw [hput]
    exact h.append word
  obtain ⟨margin, rest, htext, hwidth, hmargin⟩ := h
  rw [hkept] at htext
  rw [hput]
  -- the margin ends in the spaces that give way, or before them
  rcases List.append_eq_append_iff.1 htext with ⟨more, rfl, -⟩ | ⟨more, rfl, -⟩
  · let line : Text := kept ++ ('\n' :: indent : Text)
    have hline : kept ++ ('\n' :: (indent ++ word) : Text) = line ++ word :=
      (List.append_assoc kept ('\n' :: indent : Text) word).symm
    rw [hline]
    refine Indented.append ⟨line.take indent.length, line.drop indent.length,
      (List.take_append_drop _ _).symm, ?_, fun c hc => ?_⟩ word
    · rw [List.length_take, List.length_append, List.length_cons]
      omega
    · rcases List.mem_append.1 (List.mem_of_mem_take hc) with hc | hc
      · exact hmargin c (List.mem_append_left _ hc)
      · rcases List.mem_cons.1 hc with rfl | hc
        · rfl
        · exact hindent c hc
  · rw [List.append_assoc]
    exact ⟨margin, _, rfl, hwidth, hmargin⟩

/-! ## All words -/

section

variable (separator : Text) {indent : Text} (columns : Nat)

/-- Apart from blanks a layout adds the words with the separators between them. -/
theorem solid_run (hindent : ∀ c ∈ indent, isBlank c = true) {ws : List Text} (hws : ws ≠ [])
    {i last : Nat} (hlast : i + ws.length = last + 1) {l : Layout}
    (hl : Indented indent.length l.text) :
    let l' := (ws.zipIdx i).foldl (Layout.add separator indent columns last) l
    solid l'.text = solid l.text ++ Text.join (solid separator) (ws.map solid) ∧
      Indented indent.length l'.text := by
  -- on the words that are left: the place of the first moves on, that of the last does not
  induction ws generalizing i l with
  | nil => exact absurd rfl hws
  | cons word ws ih =>
    have hstep := hl.add hindent separator columns last word i
    have hsolid := l.solid_add separator indent columns last word i hindent
    rw [List.length_cons] at hlast
    rw [List.zipIdx_cons, List.foldl_cons, List.map_cons]
    by_cases hws : ws = []
    · subst hws
      have hi : i = last := by simpa using hlast
      rw [if_pos hi] at hsolid
      refine ⟨hsolid.trans ?_, hstep⟩
      simp [Text.join, solid]
    · have hpos := List.length_pos_iff.2 hws
      have hi : i ≠ last := by omega
      rw [if_neg hi] at hsolid
      obtain ⟨hrun, hindented⟩ := ih hws (i := i + 1) (by omega) hstep
      refine ⟨hrun.trans ?_, hindented⟩
      rw [hsolid, Text.join, Text.join, List.intercalate_cons_of_ne_nil (by simpa using hws),
        List.append_assoc, List.append_assoc, List.append_assoc]

theorem length_run_le {b : Nat} {ws : List Text} (hws : ∀ w ∈ ws, w.length ≤ b) (i last : Nat)
    (l : Layout) : ((ws.zipIdx i).foldl (Layout.add separator indent columns last) l).text.length ≤
      l.text.length + ws.length * (b + indent.length + separator.length + 1) := by
  induction ws generalizing i l with
  | nil => exact Nat.le_add_right _ _
  | cons word ws ih =>
    obtain ⟨hword, hws⟩ := List.forall_mem_cons.1 hws
    rw [List.zipIdx_cons, List.foldl_cons, List.length_cons, Nat.succ_mul]
    have hstep := l.length_add_le separator indent columns last word i
    have hrun := ih hws (i + 1) (l.add separator indent columns last (word, i))
    omega

end

theorem isBlank_of_mem_indentOf {opening : Nat} : ∀ c ∈ indentOf opening, isBlank c = true := by
  intro c hc
  rw [indentOf, Text.padLeft, List.append_nil] at hc
  exact isBlank_of_mem_spaces c hc

theorem length_indentOf (opening : Nat) : (indentOf opening).length = opening + 1 :=
  (length_padLeft _ _ _).trans (Nat.max_zero _)

section

variable (separator : Text) (opening columns : Nat)

theorem solid_laidOut (ws : List Text) :
    solid (laidOut separator opening columns ws).text =
        Text.join (solid separator) (ws.map solid) ∧
      Indented (indentOf opening).length (laidOut separator opening columns ws).text := by
  have hindent := @isBlank_of_mem_indentOf opening
  have hstart : Indented (indentOf opening).length (Layout.mk [] (indentOf opening)).text :=
    ⟨_, [], (List.append_nil _).symm, rfl, hindent⟩
  by_cases hws : ws = []
  · subst hws
    exact ⟨solid_eq_nil hindent, hstart⟩
  · have hpos := List.length_pos_iff.2 hws
    have hlast : 0 + ws.length = ws.length - 1 + 1 := by omega
    obtain ⟨hrun, hindented⟩ := solid_run separator
      (columns - max (dropTrailingSpaces separator).length 1) hindent hws hlast hstart
    refine ⟨hrun.trans ?_, hindented⟩
    exact congrArg (· ++ _) (solid_eq_nil hindent)

/-- **Apart from blanks, the words stand in brackets with the separators between them.** -/
theorem solid_layOut (ws : List Text) : solid (layOut separator opening columns ws) =
    Text.concat ["[", Text.join (solid separator) (ws.map solid), "]"] := by
  obtain ⟨hsolid, hindented⟩ := solid_laidOut separator opening columns ws
  rw [layOut_eq]
  simp only [Text.concat, List.flatten_cons, List.flatten_nil, List.append_nil, solid_append,
    hindented.solid_drop, hsolid]
  rfl

theorem length_layOut_le {b : Nat} {ws : List Text} (hws : ∀ w ∈ ws, w.length ≤ b) :
    (layOut separator opening columns ws).length ≤
      ws.length * (b + opening + separator.length + 2) + 2 := by
  have hrun : (laidOut separator opening columns ws).text.length ≤ (indentOf opening).length +
      ws.length * (b + (indentOf opening).length + separator.length + 1) :=
    length_run_le separator _ hws 0 (ws.length - 1) ⟨[], indentOf opening⟩
  have hcommon : b + (opening + 1) + separator.length + 1 = b + opening + separator.length + 2 := by
    omega
  rw [length_indentOf, hcommon] at hrun
  have hlength : (layOut separator opening columns ws).length =
      1 + ((laidOut separator opening columns ws).text.length - (opening + 1) + 1) := by
    rw [layOut_eq, length_indentOf]
    simp only [Text.concat, List.flatten_cons, List.flatten_nil, List.append_nil,
      List.length_append, List.length_drop]
    rfl
  omega

end

/-! ## Arrays of characters -/

theorem greatestOf_le {ns : List Nat} {b : Nat} (h : ∀ n ∈ ns, n ≤ b) : greatestOf ns ≤ b :=
  List.foldlRecOn ns max (motive := (· ≤ b)) (Nat.zero_le b)
    fun _ hle n hn => Nat.max_le.2 ⟨hle, h n hn⟩

/-- The numeral of a character's code. -/
def codeText (v : UInt16) : Text := Text.ofNat v.toNat

theorem length_codeText_le (v : UInt16) : (codeText v).length ≤ 5 :=
  length_ofNat_le (Nat.lt_trans v.toNat_lt (by decide))

/-- The words of characters are their codes, right-aligned in five columns or fewer. -/
theorem words_char (cs : List UInt16) : ∃ width ≤ 5, words .char (cs.map .char) =
    cs.map fun v => Text.padLeft ' ' width (codeText v) := by
  refine ⟨greatestOf ((cs.map codeText).map List.length), greatestOf_le ?_, ?_⟩
  · intro n hn
    rw [List.map_map] at hn
    obtain ⟨v, -, rfl⟩ := List.mem_map.1 hn
    exact length_codeText_le v
  · simp only [words, List.map_map]
    rfl

theorem length_words_char (cs : List UInt16) :
    (words .char (cs.map .char)).length = cs.length := by
  obtain ⟨width, -, hwords⟩ := words_char cs
  rw [hwords, List.length_map]

theorem length_le_of_mem_words_char {cs : List UInt16} {w : Text}
    (hw : w ∈ words .char (cs.map .char)) : w.length ≤ 5 := by
  obtain ⟨width, hwidth, hwords⟩ := words_char cs
  rw [hwords] at hw
  obtain ⟨v, -, rfl⟩ := List.mem_map.1 hw
  rw [length_padLeft]
  exact Nat.max_le.2 ⟨hwidth, length_codeText_le v⟩

theorem length_le_flatten_codes (cs : List UInt16) :
    cs.length ≤ (cs.map codeText).flatten.length := by
  induction cs with
  | nil => exact Nat.le_refl 0
  | cons v cs ih =>
    rw [List.map_cons, List.flatten_cons, List.length_append, List.length_cons]
    have hcode : 0 < (codeText v).length := length_ofNat_pos _
    omega

/-- Up to a thousand characters are written as their codes, apart from blanks. -/
theorem solid_display_char {cs : List UInt16} (hcs : cs.length ≤ maxItems) :
    solid (display .char (cs.map .char)) =
      Text.concat ["[", (cs.map codeText).flatten, "]"] := by
  rw [display, write]
  by_cases hnil : cs = []
  · subst hnil
    rfl
  have hshown : shown (cs.map Scalar.char) = (cs.map .char, false) := by
    rw [shown, List.length_map, if_neg (Nat.not_lt.2 hcs)]
  obtain ⟨width, -, hwords⟩ := words_char cs
  rw [if_neg (mt List.map_eq_nil_iff.1 hnil), hshown]
  dsimp only
  rw [if_neg Bool.false_ne_true, hwords, solid_layOut, List.map_map]
  have hparts : cs.map (solid ∘ fun v => Text.padLeft ' ' width (codeText v)) =
      cs.map codeText := by
    refine List.map_congr_left fun v _ => ?_
    exact (solid_padLeft _ _).trans (solid_ofNat _)
  have hseparator : solid " " = [] := rfl
  rw [hparts, hseparator, join_nil]

/-- More than a thousand characters are written as the first and the last three. -/
theorem length_display_char_le {cs : List UInt16} (hcs : maxItems < cs.length) :
    (display .char (cs.map .char)).length ≤ 58 := by
  let kept := cs.take edgeItems ++ cs.drop (cs.length - edgeItems)
  have hkept : kept.length = 6 := by
    rw [List.length_append, List.length_take, List.length_drop]
    unfold maxItems at hcs
    unfold edgeItems
    omega
  have hshown : shown (cs.map Scalar.char) = (kept.map .char, true) := by
    rw [shown, List.length_map, if_pos hcs, List.map_append, List.map_take, List.map_drop]
  have hnil : cs.map Scalar.char ≠ [] := fun h => by
    rw [List.map_eq_nil_iff.1 h] at hcs
    exact absurd hcs (by decide)
  let ws := words .char (kept.map .char)
  have hws : ∀ w ∈ ws, w.length ≤ 5 := fun w => length_le_of_mem_words_char
  have hall : ∀ w ∈ ws.take edgeItems ++ ("..." : Text) :: ws.drop edgeItems, w.length ≤ 5 := by
    intro w hw
    rcases List.mem_append.1 hw with hw | hw
    · exact hws w (List.mem_of_mem_take hw)
    · rcases List.mem_cons.1 hw with rfl | hw
      · decide
      · exact hws w (List.mem_of_mem_drop hw)
  have hlength : ws.length = 6 := (length_words_char kept).trans hkept
  have hcount : (ws.take edgeItems ++ ("..." : Text) :: ws.drop edgeItems).length = 7 := by
    rw [List.length_append, List.length_cons, List.length_take, List.length_drop, hlength]
    rfl
  have hlayout := length_layOut_le " " 0 (maxColumns - 0) hall
  rw [hcount] at hlayout
  rw [display, write, if_neg hnil, hshown]
  exact hlayout

/-- **A written array of characters is never as long as the array.** -/
theorem length_display_char_ne (cs : List UInt16) :
    (display .char (cs.map .char)).length ≠ cs.length := by
  rcases Nat.lt_or_ge maxItems cs.length with hlong | hshort
  · have hle := length_display_char_le hlong
    unfold maxItems at hlong
    omega
  · have hcodes := length_le_flatten_codes cs
    have hsolid := congrArg List.length (solid_display_char hshort)
    have hle : (solid (display .char (cs.map .char))).length ≤
        (display .char (cs.map .char)).length := List.length_filter_le _ _
    simp only [Text.concat, List.flatten_cons, List.flatten_nil, List.length_append] at hsolid
    have hbracket : ("[" : Text).length = 1 := rfl
    omega

end ArrayText

end HostCall
