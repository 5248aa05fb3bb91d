import Mathlib.Data.List.Basic
import SignalForge.DatetimeText

/-! The text of a datetime tells the datetime: its fields are digits between separators, and its
date gives back the day. -/

set_option autoImplicit false

namespace SignalForge.Datetime

section Fields

theorem padded_toList (width number : Nat) :
    (padded width number).toList =
      List.replicate (width - (toString number).length) '0' ++ Nat.toDigits 10 number := by
  rw [padded, String.toList_append, String.toList_ofList, Nat.toString_eq_repr, Nat.toList_repr]

/-- The digits read back. -/
theorem ofDigitChars_padded (width number : Nat) :
    Nat.ofDigitChars 10 (padded width number).toList 0 = number := by
  rw [padded_toList, Nat.ofDigitChars_append, Nat.ofDigitChars_replicate_zero, Nat.mul_zero,
    Nat.ofDigitChars_ten_toDigits]

theorem isDigit_padded {width number : Nat} {c : Char} (member : c ∈ (padded width number).toList) :
    c.isDigit = true := by
  rw [padded_toList] at member
  rcases List.mem_append.mp member with zero | digit
  · rw [List.eq_of_mem_replicate zero]
    decide
  · exact Nat.isDigit_of_mem_toDigits (by decide) (by decide) digit

/-- Two runs of digits, each before a character that is none, end at the same place. -/
theorem digits_before {left right leftRest rightRest : List Char} {leftEnd rightEnd : Char}
    (leftDigits : ∀ c ∈ left, c.isDigit = true) (rightDigits : ∀ c ∈ right, c.isDigit = true)
    (leftEnds : leftEnd.isDigit = false) (rightEnds : rightEnd.isDigit = false)
    (same : left ++ leftEnd :: leftRest = right ++ rightEnd :: rightRest) :
    left = right ∧ leftEnd = rightEnd ∧ leftRest = rightRest := by
  induction left generalizing right with
  | nil =>
      cases right with
      | nil => exact ⟨rfl, List.cons.inj same⟩
      | cons c right =>
          rw [(List.cons.inj same).1, rightDigits c List.mem_cons_self] at leftEnds
          cases leftEnds
  | cons c left ih =>
      cases right with
      | nil =>
          rw [← (List.cons.inj same).1, leftDigits c List.mem_cons_self] at rightEnds
          cases rightEnds
      | cons other right =>
          obtain ⟨rfl, others⟩ := List.cons.inj same
          obtain ⟨rfl, rest⟩ := ih (fun d member => leftDigits d (List.mem_cons_of_mem _ member))
            (fun d member => rightDigits d (List.mem_cons_of_mem _ member)) others
          exact ⟨rfl, rest⟩

/-- A padded number and what follows it are told apart by the text. -/
theorem padded_before {width left right : Nat} {leftRest rightRest : List Char}
    {leftEnd rightEnd : Char} (leftEnds : leftEnd.isDigit = false) (rightEnds : rightEnd.isDigit = false)
    (same : (padded width left).toList ++ leftEnd :: leftRest =
      (padded width right).toList ++ rightEnd :: rightRest) :
    left = right ∧ leftEnd = rightEnd ∧ leftRest = rightRest := by
  obtain ⟨digits, rest⟩ := digits_before (fun _ => isDigit_padded) (fun _ => isDigit_padded)
    leftEnds rightEnds same
  refine ⟨?_, rest⟩
  rw [← ofDigitChars_padded width left, digits, ofDigitChars_padded]

end Fields

section Calendar

/-- A day of an era is a day of a year of it: `365 * year + year / 4 - year / 100` days of the era
come before the year. -/
theorem dayOfEra_eq {day : Nat} (inside : day ≤ 146096) :
    ∃ year dayOfYear, (day - day / 1460 + day / 36524 - day / 146096) / 365 = year ∧ year < 400 ∧
      dayOfYear ≤ 365 ∧ day = 365 * year + year / 4 - year / 100 + dayOfYear := by
  by_cases last : day = 146096
  · subst last
    exact ⟨399, 365, by decide, by decide, by decide, by decide⟩
  · -- the century, the four years within it, and the day of those
    obtain ⟨century, four, rest, split, centuries, fours, days, within⟩ :
        ∃ century four rest, day = 36524 * century + 1461 * four + rest ∧ century < 4 ∧
          four ≤ 24 ∧ rest ≤ 1460 ∧ 1461 * four + rest < 36524 :=
      ⟨day / 36524, day % 36524 / 1461, day % 36524 % 1461, by omega, by omega, by omega, by omega,
        by omega⟩
    have leaps : day / 1460 = 25 * century + four ∨
        day / 1460 = 25 * century + four + 1 ∧ 1 ≤ rest := by omega
    have quotient : day / 36524 = century := by omega
    have notLast : day / 146096 = 0 := by omega
    rw [quotient, notLast, Nat.sub_zero]
    have yearOfFour : ∃ year, (day - day / 1460 + century) / 365 = 100 * century + 4 * four + year ∧
        year ≤ 3 ∧ 365 * year ≤ rest ∧ rest ≤ 365 * year + 365 := by
      rcases leaps with leaps | ⟨leaps, some⟩
      · exact ⟨rest / 365, by omega, by omega, by omega, by omega⟩
      · exact ⟨(rest - 1) / 365, by omega, by omega, by omega, by omega⟩
    obtain ⟨year, quotient, years, before, after⟩ := yearOfFour
    have quarters : (100 * century + 4 * four + year) / 4 = 25 * century + four := by omega
    have hundreds : (100 * century + 4 * four + year) / 100 = century := by omega
    exact ⟨_, rest - 365 * year, quotient, by omega, by omega, by omega⟩

/-- The date of a day of a year, both counted from March. -/
def civil (year dayOfYear : Nat) : Nat × Nat × Nat :=
  let monthFromMarch := (5 * dayOfYear + 2) / 153
  let month := if monthFromMarch < 10 then monthFromMarch + 3 else monthFromMarch - 9
  (if month ≤ 2 then year + 1 else year, month, dayOfYear - (153 * monthFromMarch + 2) / 5 + 1)

theorem civil_injective {year dayOfYear otherYear otherDay : Nat} (inYear : dayOfYear ≤ 365)
    (otherInYear : otherDay ≤ 365) (same : civil year dayOfYear = civil otherYear otherDay) :
    year = otherYear ∧ dayOfYear = otherDay := by
  simp only [civil, Prod.mk.injEq] at same
  obtain ⟨years, months, days⟩ := same
  have sameMonth : (5 * dayOfYear + 2) / 153 = (5 * otherDay + 2) / 153 := by
    split at months <;> split at months <;> omega
  rw [sameMonth] at years days
  refine ⟨?_, by omega⟩
  generalize (if (5 * otherDay + 2) / 153 < 10 then (5 * otherDay + 2) / 153 + 3
    else (5 * otherDay + 2) / 153 - 9) = month at years
  split at years <;> omega

theorem civilOfDays_eq {days : Int} (lower : -719468 ≤ days) :
    ∃ era year dayOfYear : Nat, year < 400 ∧ dayOfYear ≤ 365 ∧
      days + 719468 = era * 146097 + ((365 * year + year / 4 - year / 100 + dayOfYear : Nat) : Int) ∧
      civilOfDays days = civil (year + era * 400) dayOfYear := by
  obtain ⟨shifted, same⟩ := Int.eq_ofNat_of_zero_le (show 0 ≤ days + 719468 by omega)
  have quotient : (shifted : Int).fdiv 146097 = ((shifted / 146097 : Nat) : Int) := by
    rw [Int.fdiv_eq_ediv_of_nonneg _ (by decide), Int.natCast_ediv]
    rfl
  have rest : ((shifted : Int) - ((shifted / 146097 : Nat) : Int) * 146097).toNat = shifted % 146097 := by
    omega
  obtain ⟨year, dayOfYear, years, inEra, inYear, split⟩ :=
    dayOfEra_eq (show shifted % 146097 ≤ 146096 by omega)
  refine ⟨shifted / 146097, year, dayOfYear, inEra, inYear, by omega, ?_⟩
  have day : shifted % 146097 - (365 * year + year / 4 - year / 100) = dayOfYear := by omega
  have total : ((year : Int) + ((shifted / 146097 : Nat) : Int) * 400).toNat =
      year + shifted / 146097 * 400 := by omega
  simp only [civilOfDays, same, quotient, rest, years, day, total, civil]

theorem civilOfDays_injective {left right : Int} (leftLower : -719468 ≤ left)
    (rightLower : -719468 ≤ right) (same : civilOfDays left = civilOfDays right) : left = right := by
  obtain ⟨era, year, dayOfYear, inEra, inYear, days, date⟩ := civilOfDays_eq leftLower
  obtain ⟨otherEra, otherYear, otherDay, otherInEra, otherInYear, otherDays, otherDate⟩ :=
    civilOfDays_eq rightLower
  rw [date, otherDate] at same
  obtain ⟨years, sameDay⟩ := civil_injective inYear otherInYear same
  have sameEra : era = otherEra := by omega
  have sameYear : year = otherYear := by omega
  subst sameEra sameYear sameDay
  omega

end Calendar

theorem clockText_toList (micros : Nat) :
    (clockText micros).toList =
      (padded 2 (micros / 1000000 / 3600)).toList ++ ':' ::
        ((padded 2 (micros / 1000000 / 60 % 60)).toList ++ ':' ::
          ((padded 2 (micros / 1000000 % 60)).toList ++
            if micros % 1000000 = 0 then [] else '.' :: (padded 6 (micros % 1000000)).toList)) := by
  have colon : ":".toList = [':'] := rfl
  have point : ".".toList = ['.'] := rfl
  have fraction : (if micros % 1000000 = 0 then "" else "." ++ padded 6 (micros % 1000000)).toList =
      if micros % 1000000 = 0 then [] else '.' :: (padded 6 (micros % 1000000)).toList := by
    split
    · rfl
    · rw [String.toList_append, point, List.singleton_append]
  simp only [clockText, String.toList_append, List.append_assoc, colon, List.cons_append,
    List.nil_append, fraction]

/-- A time of day before a sign is told by its text. -/
theorem clockText_before {left right : Nat} {leftRest rightRest : List Char}
    (same : (clockText left).toList ++ '+' :: leftRest = (clockText right).toList ++ '+' :: rightRest) :
    left = right := by
  simp only [clockText_toList, List.append_assoc, List.cons_append] at same
  obtain ⟨hours, _, same⟩ := padded_before (by decide) (by decide) same
  obtain ⟨minutes, _, same⟩ := padded_before (by decide) (by decide) same
  have rest : left / 1000000 % 60 = right / 1000000 % 60 ∧ left % 1000000 = right % 1000000 := by
    split at same <;> split at same
    · rename_i leftWhole rightWhole
      obtain ⟨seconds, _⟩ := padded_before (by decide) (by decide) same
      exact ⟨seconds, leftWhole.trans rightWhole.symm⟩
    · obtain ⟨_, ends, _⟩ := padded_before (by decide) (by decide) same
      cases ends
    · obtain ⟨_, ends, _⟩ := padded_before (by decide) (by decide) same
      cases ends
    · obtain ⟨seconds, _, same⟩ := padded_before (by decide) (by decide) same
      obtain ⟨fraction, _⟩ := padded_before (by decide) (by decide) same
      exact ⟨seconds, fraction⟩
  omega

theorem isoformat_utc_toList (separator : Char) (instant : Instant) :
    (isoformat (String.singleton separator) (.utc instant)).toList =
      let date := civilOfDays (instant.micros.fdiv (24 * microsPerHour))
      (padded 4 date.1).toList ++ '-' :: ((padded 2 date.2.1).toList ++ '-' ::
        ((padded 2 date.2.2).toList ++ separator ::
          ((clockText (instant.micros.fmod (24 * microsPerHour)).toNat).toList ++
            "+00:00".toList))) := by
  have dash : "-".toList = ['-'] := rfl
  have zero : offsetText 0 = "+00:00" := by decide +kernel
  simp only [isoformat, utc_wall, utc_offset, String.toList_append, List.append_assoc, dash,
    String.toList_singleton, zero, List.cons_append, List.nil_append]

/-- The text of a datetime in UTC tells it, with any separator that is no digit. -/
theorem isoformat_utc_injective {separator : Char} (noDigit : separator.isDigit = false)
    {left right : Instant} (same : isoformat (String.singleton separator) (.utc left) =
      isoformat (String.singleton separator) (.utc right)) : left = right := by
  have same := congrArg String.toList same
  simp only [isoformat_utc_toList] at same
  obtain ⟨years, _, same⟩ := padded_before (by decide) (by decide) same
  obtain ⟨months, _, same⟩ := padded_before (by decide) (by decide) same
  obtain ⟨days, _, same⟩ := padded_before noDigit noDigit same
  have clocks := clockText_before same
  have lower (instant : Instant) : -719468 ≤ instant.micros.fdiv (24 * microsPerHour) := by
    have above := instant.min_le
    simp only [minMicros, microsPerHour, microsPerSecond] at above ⊢
    rw [Int.fdiv_eq_ediv_of_nonneg _ (by decide)]
    omega
  have dates := civilOfDays_injective (lower left) (lower right)
    (Prod.ext years (Prod.ext months days))
  have positive : (0 : Int) ≤ 24 * microsPerHour := by decide
  rw [Int.fdiv_eq_ediv_of_nonneg _ positive, Int.fdiv_eq_ediv_of_nonneg _ positive] at dates
  rw [Int.fmod_eq_emod_of_nonneg _ positive, Int.fmod_eq_emod_of_nonneg _ positive] at clocks
  simp only [microsPerHour, microsPerSecond] at dates clocks
  ext
  omega

/-- The text of a datetime in UTC holds digits and its separators only. -/
theorem not_mem_isoformat_utc {separator absent : Char} (noDigit : absent.isDigit = false)
    (noSeparator : absent ≠ separator) (noMark : absent ∉ ['-', ':', '.', '+'])
    (instant : Instant) :
    absent ∉ (isoformat (String.singleton separator) (.utc instant)).toList := by
  have number : ∀ width number, absent ∉ (padded width number).toList := by
    intro width number member
    rw [isDigit_padded member] at noDigit
    cases noDigit
  have fraction : ∀ micros : Nat, absent ∉
      (if micros % 1000000 = 0 then [] else '.' :: (padded 6 (micros % 1000000)).toList) := by
    intro micros
    split
    · exact List.not_mem_nil
    · intro member
      rcases List.mem_cons.mp member with rfl | digit
      · exact noMark (by decide)
      · exact number _ _ digit
  have offset : absent ∉ "+00:00".toList := by
    intro member
    have zone : "+00:00".toList = ['+', '0', '0', ':', '0', '0'] := rfl
    rw [zone] at member
    simp only [List.mem_cons, List.not_mem_nil, or_false] at member
    rcases member with rfl | rfl | rfl | rfl | rfl | rfl <;> simp_all
  rw [isoformat_utc_toList]
  simp only [clockText_toList, List.mem_append, List.mem_cons, number, fraction, offset,
    noSeparator, false_or, or_false, List.cons_append, List.append_assoc]
  simp only [List.mem_cons, List.not_mem_nil, or_false, not_or] at noMark
  simp only [noMark, or_self, not_false_eq_true]

theorem str_utc_injective {left right : Instant} (same : str (.utc left) = str (.utc right)) :
    left = right := isoformat_utc_injective (show ' '.isDigit = false by decide) same

end SignalForge.Datetime
