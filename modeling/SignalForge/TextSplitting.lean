import Mathlib.Data.List.Basic
import SignalForge.Text

/-! What a split leaves, and what joins it back. -/

set_option autoImplicit false

namespace SignalForge.Text

theorem find?_of_leftmost {pattern text : Str} {offset : Nat} (nonempty : pattern ≠ [])
    (leftmost : Framing.IsLeftmost pattern text offset) :
    Framing.find? pattern text = some offset := by
  rcases found : Framing.find? pattern text with _ | other
  · exact absurd leftmost.here (Framing.find?_eq_none nonempty found offset)
  · rw [leftmost.unique (Framing.find?_eq_some found)]

section

variable {separator : Char} {front back text : Str}

theorem find?_of_not_mem (absent : separator ∉ text) : Framing.find? [separator] text = none := by
  rcases found : Framing.find? [separator] text with _ | offset
  · rfl
  · have here := (Framing.find?_eq_some found).here
    have first : separator ∈ text.drop offset := here.subset (List.mem_singleton_self _)
    exact absurd (List.mem_of_mem_drop first) absent

theorem find?_append (absent : separator ∉ front) (back : Str) :
    Framing.find? [separator] (front ++ separator :: back) = some front.length := by
  refine find?_of_leftmost (List.cons_ne_nil _ _) ⟨?_, fun earlier before occurs => ?_⟩
  · rw [Framing.OccursAt, List.drop_left]
    exact List.prefix_append [separator] back
  · rw [Framing.OccursAt, List.drop_append_of_le_length (by omega),
      List.drop_eq_getElem_cons before] at occurs
    have same := (List.cons_prefix_cons.mp occurs).1
    exact absent (same ▸ List.getElem_mem before)

theorem drop_separator (front back : Str) (separator : Char) :
    (front ++ separator :: back).drop (front.length + [separator].length) = back := by
  rw [← List.drop_drop, List.drop_left]
  rfl

theorem splitOnce_of_not_mem (absent : separator ∉ text) : splitOnce [separator] text = none := by
  rw [splitOnce, find?_of_not_mem absent]
  rfl

theorem splitOnce_append (absent : separator ∉ front) (back : Str) :
    splitOnce [separator] (front ++ separator :: back) = some (front, back) := by
  rw [splitOnce, find?_append absent, Option.map_some, List.take_left]
  rw [drop_separator]

theorem splitTurns_eq_splitOn {turns : Nat} (enough : text.count separator ≤ turns) :
    splitTurns [separator] turns text = text.splitOn separator := by
  induction turns generalizing text with
  | zero =>
      have absent := List.count_eq_zero.mp (Nat.le_zero.mp enough)
      rw [splitTurns, List.splitOn_eq_singleton absent]
  | succ turns ih =>
      by_cases member : separator ∈ text
      · obtain ⟨front, back, rfl, absent⟩ := List.eq_append_cons_of_mem member
        rw [splitTurns, find?_append absent, List.splitOn_append_cons_self_of_not_mem absent]
        dsimp only
        rw [List.take_left, drop_separator, ih]
        rw [List.count_append, List.count_cons_self] at enough
        omega
      · rw [splitTurns, find?_of_not_mem member, List.splitOn_eq_singleton member]

theorem split_eq_splitOn (separator : Char) (text : Str) :
    split [separator] text = text.splitOn separator :=
  splitTurns_eq_splitOn List.count_le_length

/-- Every other character of a text stands in one of the parts. -/
theorem exists_mem_splitOn {c : Char} (member : c ∈ text) (apart : c ≠ separator) :
    ∃ part ∈ text.splitOn separator, c ∈ part := by
  have joined : ∀ parts : List Str, c ∈ [separator].intercalate parts → ∃ part ∈ parts, c ∈ part := by
    intro parts
    induction parts with
    | nil =>
        intro none
        cases none
    | cons part rest ih =>
        intro member
        cases rest with
        | nil =>
            rw [List.intercalate_singleton] at member
            exact ⟨part, List.mem_singleton_self _, member⟩
        | cons next rest =>
            rw [List.intercalate_cons_cons] at member
            rcases List.mem_append.mp member with first | later
            · rcases List.mem_append.mp first with here | between
              · exact ⟨part, List.mem_cons_self .., here⟩
              · exact absurd (List.mem_singleton.mp between) apart
            · obtain ⟨other, listed, here⟩ := ih later
              exact ⟨other, List.mem_cons_of_mem _ listed, here⟩
  exact joined _ (by rwa [List.intercalate_splitOn])

theorem mem_intercalate {c : Char} {part : Str} (member : c ∈ part) {parts : List Str}
    (listed : part ∈ parts) (glue : Str) : c ∈ glue.intercalate parts := by
  induction parts with
  | nil => cases listed
  | cons first rest ih =>
      cases rest with
      | nil =>
          rw [List.intercalate_singleton, ← List.mem_singleton.mp listed]
          exact member
      | cons next rest =>
          rw [List.intercalate_cons_cons]
          rcases List.mem_cons.mp listed with rfl | later
          · exact List.mem_append_left _ (List.mem_append_left _ member)
          · exact List.mem_append_right _ (ih later)

end

/-- What stands in front of the first separator, or the whole text. -/
def upTo (separator text : Str) : Str :=
  match Framing.find? separator text with
  | none => text
  | some offset => text.take offset

section

variable {separator : Str}

theorem find?_nil (nonempty : separator ≠ []) : Framing.find? separator [] = none := by
  rw [Framing.find?, if_neg nonempty]

theorem splitTurns_head (nonempty : separator ≠ []) {turns : Nat} {text : Str}
    (enough : text.length ≤ turns) :
    (splitTurns separator turns text)[0]? = some (upTo separator text) := by
  cases turns with
  | zero =>
      rw [List.eq_nil_of_length_eq_zero (Nat.le_zero.mp enough), upTo, find?_nil nonempty]
      rfl
  | succ turns =>
      rw [splitTurns, upTo]
      cases Framing.find? separator text <;> rfl

/-- The first part of a split. -/
theorem split_head (nonempty : separator ≠ []) (text : Str) :
    (split separator text)[0]? = some (upTo separator text) :=
  splitTurns_head nonempty (Nat.le_refl _)

/-- The second part of a split. -/
theorem split_second (nonempty : separator ≠ []) (text : Str) :
    (split separator text)[1]? = (Framing.find? separator text).map fun offset =>
      upTo separator (text.drop (offset + separator.length)) := by
  have positive := List.length_pos_iff.mpr nonempty
  cases text with
  | nil =>
      rw [find?_nil nonempty]
      rfl
  | cons c rest =>
      rw [split, List.length_cons, splitTurns]
      rcases Framing.find? separator (c :: rest) with _ | offset
      · rfl
      · rw [List.getElem?_cons_succ, Option.map_some]
        apply splitTurns_head nonempty
        rw [List.length_drop, List.length_cons]
        omega

theorem contains_eq_false (nonempty : separator ≠ []) {text : Str} :
    contains separator text = false ↔ ∀ offset, ¬ Framing.OccursAt separator text offset := by
  rw [contains, Option.isSome_eq_false_iff, Option.isNone_iff_eq_none]
  constructor
  · exact Framing.find?_eq_none nonempty
  · intro absent
    rcases found : Framing.find? separator text with _ | offset
    · rfl
    · exact absurd (Framing.find?_eq_some found).here (absent offset)

theorem contains_of_append {front back : Str} (nonempty : separator ≠ [])
    (absent : contains separator (front ++ back) = false) : contains separator front = false := by
  rw [contains_eq_false nonempty] at absent ⊢
  intro offset occurs
  have inside := occurs.end_le nonempty
  exact absent offset ((Framing.occursAt_append_iff inside back).mpr occurs)

theorem upTo_of_absent {text : Str} (absent : contains separator text = false) :
    upTo separator text = text := by
  rw [contains, Option.isSome_eq_false_iff, Option.isNone_iff_eq_none] at absent
  rw [upTo, absent]

/-- The whole text is there, or a separator follows. -/
theorem upTo_ends (separator text : Str) :
    ∃ more, text = upTo separator text ++ more ∧ (more = [] ∨ separator <+: more) := by
  rcases found : Framing.find? separator text with _ | offset
  · exact ⟨[], by rw [upTo, found, List.append_nil], Or.inl rfl⟩
  · exact ⟨text.drop offset, by rw [upTo, found, List.take_append_drop],
      Or.inr (Framing.find?_eq_some found).here⟩

theorem contains_upTo (nonempty : separator ≠ []) (text : Str) :
    contains separator (upTo separator text) = false := by
  rcases found : Framing.find? separator text with _ | offset
  · rw [upTo, found, contains, found]
    rfl
  · have leftmost := Framing.find?_eq_some found
    rw [upTo, found, contains_eq_false nonempty]
    dsimp only
    intro earlier occurs
    have inside := occurs.end_le nonempty
    have positive := List.length_pos_iff.mpr nonempty
    have short := List.length_take_le offset text
    refine leftmost.noEarlier earlier (by omega) ?_
    rw [← List.take_append_drop offset text]
    exact (Framing.occursAt_append_iff inside _).mpr occurs

end

section

variable {first : Char} {rest : Str}

theorem find?_of_once (once : first ∉ rest) {front : Str}
    (absent : contains (first :: rest) front = false) (back : Str) :
    Framing.find? (first :: rest) (front ++ first :: rest ++ back) = some front.length :=
  find?_of_leftmost (List.cons_ne_nil _ _) (Framing.isLeftmost_append once
    ((contains_eq_false (List.cons_ne_nil _ _)).mp absent) back)

/-- A separator whose first character does not come again in it ends the text in front of it. -/
theorem upTo_append (once : first ∉ rest) {front : Str}
    (absent : contains (first :: rest) front = false) (back : Str) :
    upTo (first :: rest) (front ++ first :: rest ++ back) = front := by
  rw [upTo, find?_of_once once absent]
  simp only [List.append_assoc, List.take_left]

theorem contains_singleton {c : Char} {text : Str} : contains [c] text = false ↔ c ∉ text := by
  constructor
  · intro absent member
    obtain ⟨front, back, rfl⟩ := List.append_of_mem member
    refine (contains_eq_false (List.cons_ne_nil _ _)).mp absent front.length ?_
    rw [Framing.OccursAt, List.drop_left]
    exact List.prefix_append [c] back
  · intro absent
    rw [contains, find?_of_not_mem absent]
    rfl

/-- A character that is not in the separator is passed over. -/
theorem upTo_past {c : Char} (apart : c ∉ first :: rest) {front : Str}
    (absent : contains (first :: rest) front = false) (back : Str) :
    ∃ more, upTo (first :: rest) (front ++ c :: back) = front ++ c :: more := by
  rw [contains_eq_false (List.cons_ne_nil _ _)] at absent
  rcases found : Framing.find? (first :: rest) (front ++ c :: back) with _ | offset
  · exact ⟨back, by rw [upTo, found]⟩
  · have here := (Framing.find?_eq_some found).here
    have past : front.length < offset := by
      by_contra within
      rcases Nat.lt_or_eq_of_le (Nat.le_of_not_lt within) with before | same
      · refine absent offset (here.in_front ?_ before)
        rintro _ ⟨⟩
        exact fun member => apart (List.mem_cons_of_mem _ member)
      · rw [Framing.OccursAt, same, List.drop_left] at here
        exact apart ((List.cons_prefix_cons.mp here).1 ▸ List.mem_cons_self)
    obtain ⟨further, rfl⟩ := Nat.exists_eq_add_of_lt past
    refine ⟨back.take further, ?_⟩
    rw [upTo, found]
    simp only [Nat.add_assoc, List.take_length_add_append, List.take_succ_cons]

/-- The first separator of a text stands behind what has none. -/
theorem find?_eq_some_iff (once : first ∉ rest) {text : Str} {offset : Nat} :
    Framing.find? (first :: rest) text = some offset ↔
      ∃ front back, text = front ++ first :: rest ++ back ∧
        contains (first :: rest) front = false ∧ front.length = offset := by
  have nonempty := List.cons_ne_nil first rest
  constructor
  · intro found
    have here := (Framing.find?_eq_some found).here
    have inside := here.end_le nonempty
    have front : upTo (first :: rest) text = text.take offset := by rw [upTo, found]
    obtain ⟨back, behind⟩ := here
    refine ⟨text.take offset, back, ?_, ?_, ?_⟩
    · rw [List.append_assoc, behind, List.take_append_drop]
    · rw [← front]
      exact contains_upTo nonempty text
    · rw [List.length_take]
      omega
  · rintro ⟨front, back, rfl, absent, rfl⟩
    exact find?_of_once once absent back

/-- Cut at the first separator and then at the first `c`, a text shows what holds neither and is
followed by one of them or by nothing. -/
theorem upTo_upTo_iff {c : Char} (once : first ∉ rest) (apart : c ∉ first :: rest)
    {text shown : Str} :
    upTo [c] (upTo (first :: rest) text) = shown ↔
      ∃ after, text = shown ++ after ∧ contains (first :: rest) shown = false ∧ c ∉ shown ∧
        (after = [] ∨ [c] <+: after ∨ (first :: rest) <+: after) := by
  have nonempty := List.cons_ne_nil first rest
  constructor
  · rintro rfl
    obtain ⟨fromSeparator, whole, stops⟩ := upTo_ends (first :: rest) text
    obtain ⟨fromChar, inner, stopsAtChar⟩ := upTo_ends [c] (upTo (first :: rest) text)
    have absent := contains_upTo nonempty text
    rw [inner] at absent
    refine ⟨fromChar ++ fromSeparator, ?_, contains_of_append nonempty absent,
      contains_singleton.mp (contains_upTo (List.cons_ne_nil _ _) _), ?_⟩
    · rw [← List.append_assoc, ← inner, ← whole]
    · rcases stopsAtChar with rfl | atChar
      · rw [List.nil_append]
        exact stops.imp_right Or.inr
      · exact Or.inr (Or.inl (atChar.trans (List.prefix_append _ _)))
  · rintro ⟨after, rfl, absent, noChar, stops⟩
    have absentChar := contains_singleton.mpr noChar
    rcases stops with rfl | ⟨more, rfl⟩ | ⟨more, rfl⟩
    · rw [List.append_nil, upTo_of_absent absent, upTo_of_absent absentChar]
    · obtain ⟨further, past⟩ := upTo_past apart absent more
      have atChar := upTo_append (List.not_mem_nil (a := c)) absentChar further
      rw [List.append_assoc] at atChar
      rw [List.singleton_append, past]
      exact atChar
    · have atSeparator := upTo_append once absent more
      rw [List.append_assoc] at atSeparator
      rw [atSeparator, upTo_of_absent absentChar]

end

section

variable {bar : Char} {first first' second second' third third' free free' : Str}

/-- Texts joined with a bar are told by the text made of them where at most one of them holds the
bar. -/
theorem joined_pair (clean : bar ∉ first) (clean' : bar ∉ first')
    (same : [bar].intercalate [first, free] = [bar].intercalate [first', free']) :
    first = first' ∧ free = free' := by
  simp only [List.intercalate_cons_cons, List.intercalate_singleton, List.append_assoc,
    List.singleton_append] at same
  exact split_first clean clean' same

theorem joined_triple (clean : bar ∉ first) (clean' : bar ∉ first') (cleanSecond : bar ∉ second)
    (cleanSecond' : bar ∉ second')
    (same : [bar].intercalate [first, second, free] = [bar].intercalate [first', second', free']) :
    first = first' ∧ second = second' ∧ free = free' := by
  rw [List.intercalate_cons_cons, List.intercalate_cons_cons, List.append_assoc, List.append_assoc,
    List.singleton_append, List.singleton_append] at same
  obtain ⟨firsts, joined⟩ := split_first clean clean' same
  exact ⟨firsts, joined_pair cleanSecond cleanSecond' joined⟩

theorem joined_inside (clean : bar ∉ first) (clean' : bar ∉ first') (cleanSecond : bar ∉ second)
    (cleanSecond' : bar ∉ second') (cleanThird : bar ∉ third) (cleanThird' : bar ∉ third')
    (same : [bar].intercalate [first, free, second, third] =
      [bar].intercalate [first', free', second', third']) :
    first = first' ∧ free = free' ∧ second = second' ∧ third = third' := by
  have ends (first free second third : Str) : [bar].intercalate [first, free, second, third] =
      (first ++ bar :: free ++ bar :: second) ++ bar :: third := by
    simp
  rw [ends, ends] at same
  obtain ⟨front, thirds⟩ := split_last cleanThird cleanThird' same
  obtain ⟨pair, seconds⟩ := split_last cleanSecond cleanSecond' front
  obtain ⟨firsts, texts⟩ := split_first clean clean' pair
  exact ⟨firsts, texts, seconds, thirds⟩

end

end SignalForge.Text
