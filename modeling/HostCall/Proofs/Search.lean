import HostCall.Text.Basic

/-!
# Searching a text

A place that a search returns is a way to write the text as two parts around what was found, and the
statements here are about the parts.  `findIdx?_eq_some_iff` treats the first code point of a class,
`cut?_eq_some_iff` the first place of a separator, and `join_splitOn` and `splitOn_join` all places
of one code point.
-/

namespace HostCall.Text

theorem beq_eq_false_of_notMem {c : CodePoint} {t : Text} (h : c ∉ t) :
    ∀ x ∈ t, (x == c) = false :=
  fun _ hx => beq_eq_false_iff_ne.2 fun heq => h (heq ▸ hx)

/-- The first code point of a class stands behind a part that has none. -/
theorem findIdx?_eq_some_iff {p : CodePoint → Bool} {t : Text} {i : Nat} :
    t.findIdx? p = some i ↔
      ∃ a c b, t = a ++ c :: b ∧ a.length = i ∧ p c = true ∧ ∀ x ∈ a, p x = false := by
  constructor
  · intro h
    obtain ⟨hi, hget, hbefore⟩ := List.findIdx?_eq_some_iff_getElem.1 h
    refine ⟨t.take i, t[i], t.drop (i + 1), ?_, List.length_take_of_le (Nat.le_of_lt hi), hget,
      fun x hx => ?_⟩
    · rw [← List.drop_eq_getElem_cons hi, List.take_append_drop]
    · obtain ⟨j, hj, rfl⟩ := List.getElem_of_mem hx
      rw [List.length_take_of_le (Nat.le_of_lt hi)] at hj
      rw [List.getElem_take]
      exact Bool.eq_false_iff.2 (hbefore j hj)
  · rintro ⟨a, c, b, rfl, rfl, hc, ha⟩
    rw [List.findIdx?_append, List.findIdx?_eq_none_iff.2 ha, List.findIdx?_cons, hc,
      if_pos rfl, Option.none_or, Option.map_some, Nat.zero_add]

/-- A separator of two different code points stands across no end of a part before it. -/
theorem not_prefix_drop {x y : CodePoint} (hxy : x ≠ y) {a b : Text} (ha : ¬ [x, y] <:+: a)
    {j : Nat} (hj : j < a.length) : ¬ [x, y] <+: (a ++ [x, y] ++ b).drop j := by
  intro hpre
  rw [List.append_assoc, List.drop_append_of_le_length (Nat.le_of_lt hj),
    List.drop_eq_getElem_cons hj] at hpre
  -- Either the last code point of the part is left, or two of them and more.
  cases htail : a.drop (j + 1) with
  | nil =>
    rw [htail] at hpre
    obtain ⟨-, hpre⟩ := List.cons_prefix_cons.1 hpre
    obtain ⟨heq, -⟩ := List.cons_prefix_cons.1 hpre
    exact hxy heq.symm
  | cons d rest =>
    rw [htail] at hpre
    obtain ⟨hx, hpre⟩ := List.cons_prefix_cons.1 hpre
    obtain ⟨hy, -⟩ := List.cons_prefix_cons.1 hpre
    refine ha ⟨a.take j, rest, ?_⟩
    rw [List.append_assoc, hx, hy, List.cons_append, List.cons_append, List.nil_append, ← htail,
      ← List.drop_eq_getElem_cons hj, List.take_append_drop]

/-- The first place of a separator of two different code points stands behind a part that has
none. -/
theorem cut?_eq_some_iff {x y : CodePoint} (hxy : x ≠ y) {t a b : Text} :
    cut? [x, y] t = some (a, b) ↔ t = a ++ [x, y] ++ b ∧ ¬ [x, y] <:+: a := by
  rw [cut?, Option.map_eq_some_iff]
  constructor
  · rintro ⟨i, hfind, hparts⟩
    cases hparts
    obtain ⟨hi, ⟨b, hb⟩, hbefore⟩ := find?_eq_some_iff.1 hfind
    refine ⟨?_, ?_⟩
    · rw [← List.drop_drop, ← hb, List.drop_left, List.append_assoc, hb, List.take_append_drop]
    · rintro ⟨u, v, huv⟩
      have hlen : u.length < i := by
        have := congrArg List.length huv
        rw [List.length_take_of_le hi, List.length_append, List.length_append] at this
        simp only [List.length_cons, List.length_nil] at this
        omega
      refine hbefore u.length hlen ⟨v ++ t.drop i, ?_⟩
      calc [x, y] ++ (v ++ t.drop i)
          = (u ++ [x, y] ++ v ++ t.drop i).drop u.length := by
            rw [List.append_assoc, List.append_assoc, List.drop_left]
        _ = t.drop u.length := by rw [huv, List.take_append_drop]
  · rintro ⟨rfl, ha⟩
    refine ⟨a.length, find?_eq_some_iff.2 ⟨?_, ?_, fun j hj => not_prefix_drop hxy ha hj⟩, ?_⟩
    · rw [List.append_assoc, List.length_append]
      exact Nat.le_add_right _ _
    · rw [List.append_assoc, List.drop_left]
      exact List.prefix_append _ _
    · rw [List.append_assoc, List.take_left, ← List.drop_drop, List.drop_left, List.drop_left]

/-! ## Pieces between separators -/

/-- The pieces are those of the core library. -/
theorem splitOn_eq (sep : CodePoint) (t : Text) : splitOn sep t = List.splitOn sep t := by
  induction t with
  | nil => rfl
  | cons c rest ih =>
    rw [splitOn, List.splitOn_cons_eq_if_modifyHead, ih]
    by_cases hc : c = sep
    · rw [if_pos hc, if_pos (beq_iff_eq.2 hc)]
    · rw [if_neg hc, if_neg (mt beq_iff_eq.1 hc)]
      cases hpieces : List.splitOn sep rest with
      | nil => exact absurd hpieces (List.splitOn_ne_nil _ _)
      | cons piece pieces => rfl

theorem notMem_of_mem_splitOn {sep : CodePoint} {t piece : Text} (h : piece ∈ splitOn sep t) :
    sep ∉ piece := by
  induction t generalizing piece with
  | nil =>
    rw [List.mem_singleton.1 h]
    exact List.not_mem_nil
  | cons c rest ih =>
    rw [splitOn] at h
    split at h
    · rcases List.mem_cons.1 h with rfl | h
      · exact List.not_mem_nil
      · exact ih h
    · rename_i hc
      split at h
      · rw [List.mem_singleton.1 h, List.mem_singleton]
        exact fun heq => hc heq.symm
      · rename_i first pieces hpieces
        rcases List.mem_cons.1 h with rfl | h
        · have hfirst : sep ∉ first := ih (hpieces ▸ List.mem_cons_self)
          intro hmem
          rcases List.mem_cons.1 hmem with heq | hmem
          · exact hc heq.symm
          · exact hfirst hmem
        · exact ih (hpieces ▸ List.mem_cons_of_mem _ h)

theorem join_splitOn (sep : CodePoint) (t : Text) : join [sep] (splitOn sep t) = t := by
  rw [join, splitOn_eq]
  exact List.intercalate_splitOn sep

theorem splitOn_join {sep : CodePoint} {pieces : List Text} (hne : pieces ≠ [])
    (h : ∀ p ∈ pieces, sep ∉ p) : splitOn sep (join [sep] pieces) = pieces := by
  rw [join, splitOn_eq]
  exact List.splitOn_intercalate sep h hne

theorem join_singleton (sep p : Text) : join sep [p] = p := List.intercalate_singleton

theorem join_cons (sep : CodePoint) (p : Text) {ps : List Text} (hps : ps ≠ []) :
    join [sep] (p :: ps) = p ++ sep :: join [sep] ps := by
  rw [join, List.intercalate_cons_of_ne_nil hps, List.append_assoc]
  rfl

theorem join_append (sep : CodePoint) {ps qs : List Text} (hps : ps ≠ []) (hqs : qs ≠ []) :
    join [sep] (ps ++ qs) = join [sep] ps ++ sep :: join [sep] qs := by
  induction ps with
  | nil => exact absurd rfl hps
  | cons p ps ih =>
    cases ps with
    | nil =>
      rw [List.singleton_append, join_cons sep p hqs, join_singleton]
    | cons p' ps =>
      have htail : (p' :: ps) ++ qs ≠ [] := List.cons_ne_nil p' _
      rw [List.cons_append, join_cons sep p htail, ih (List.cons_ne_nil p' ps),
        join_cons sep p (List.cons_ne_nil p' ps), List.append_assoc, List.cons_append]

theorem splitOn_ne_nil (sep : CodePoint) (t : Text) : splitOn sep t ≠ [] := by
  rw [splitOn_eq]
  exact List.splitOn_ne_nil sep t

/-- The pieces before and behind a separator are those of the two parts. -/
theorem splitOn_append (sep : CodePoint) (a b : Text) :
    splitOn sep (a ++ sep :: b) = splitOn sep a ++ splitOn sep b := by
  have hjoin : join [sep] (splitOn sep a ++ splitOn sep b) = a ++ sep :: b := by
    rw [join_append sep (splitOn_ne_nil sep a) (splitOn_ne_nil sep b), join_splitOn, join_splitOn]
  rw [← hjoin]
  refine splitOn_join (List.append_ne_nil_of_left_ne_nil (splitOn_ne_nil sep a) _) ?_
  intro p hp
  rcases List.mem_append.1 hp with hp | hp
  · exact notMem_of_mem_splitOn hp
  · exact notMem_of_mem_splitOn hp

/-- A text parts at its last separator. -/
theorem exists_append_of_mem {sep : CodePoint} {t : Text} (h : sep ∈ t) :
    ∃ a b, t = a ++ sep :: b ∧ sep ∉ b := by
  obtain ⟨b, a, hreverse, hb⟩ := List.eq_append_cons_of_mem (List.mem_reverse.2 h)
  refine ⟨a.reverse, b.reverse, ?_, fun hmem => hb (List.mem_reverse.1 hmem)⟩
  rw [← List.reverse_reverse t, hreverse, List.reverse_append, List.reverse_cons,
    List.append_assoc, List.singleton_append]

/-- A text parts at any separator into what its pieces before and behind make up. -/
theorem eq_join_take_append {sep : CodePoint} {t : Text} {n : Nat} (hpos : 0 < n)
    (hn : n < (splitOn sep t).length) :
    t = join [sep] ((splitOn sep t).take n) ++
      sep :: join [sep] ((splitOn sep t).drop n) := by
  have hfront : (splitOn sep t).take n ≠ [] := by
    intro hnil
    have hlen := congrArg List.length hnil
    rw [List.length_take, List.length_nil] at hlen
    omega
  have hback : (splitOn sep t).drop n ≠ [] := by
    intro hnil
    have hlen := congrArg List.length hnil
    rw [List.length_drop, List.length_nil] at hlen
    omega
  rw [← join_append sep hfront hback, List.take_append_drop, join_splitOn]

end HostCall.Text
