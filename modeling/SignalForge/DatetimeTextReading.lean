import Mathlib.Algebra.Group.Nat.Defs
import SignalForge.DatetimeTextInjectivity
import SignalForge.Text

/-! Datetimes read back from their text. -/

set_option autoImplicit false

namespace SignalForge.Datetime

/-- So many digits at the front of a text, and what follows them. -/
def readNumber (width : Nat) (text : Str) : Option (Nat × Str) :=
  let digits := text.take width
  if digits.length = width ∧ digits.all Char.isDigit then
    some (Nat.ofDigitChars 10 digits 0, text.drop width)
  else none

def readMark (mark : Char) : Str → Option Str
  | [] => none
  | c :: rest => if c = mark then some rest else none

/-- The days from the Unix epoch to a date. -/
def daysOfCivil (year month day : Nat) : Int :=
  let marchYear := if month ≤ 2 then year - 1 else year
  let yearOfEra := marchYear % 400
  let dayOfYear := (153 * ((month + 9) % 12) + 2) / 5 + day - 1
  let dayOfEra := 365 * yearOfEra + yearOfEra / 4 - yearOfEra / 100 + dayOfYear
  ((marchYear / 400 * 146097 + dayOfEra : Nat) : Int) - 719468

/-- `YYYY-MM-DD`, where the calendar has that day. -/
def readDate (text : Str) : Option (Int × Str) := do
  let (year, rest) ← readNumber 4 text
  let rest ← readMark '-' rest
  let (month, rest) ← readNumber 2 rest
  let rest ← readMark '-' rest
  let (day, rest) ← readNumber 2 rest
  let days := daysOfCivil year month day
  if civilOfDays days = (year, month, day) then some (days, rest) else none

/-- `HH:MM:SS`, and the microseconds where there are any. -/
def readClock (text : Str) : Option (Nat × Str) := do
  let (hours, rest) ← readNumber 2 text
  let rest ← readMark ':' rest
  let (minutes, rest) ← readNumber 2 rest
  let rest ← readMark ':' rest
  let (seconds, rest) ← readNumber 2 rest
  if hours < 24 ∧ minutes < 60 ∧ seconds < 60 then
    let whole := (hours * 3600 + minutes * 60 + seconds) * 1000000
    match readMark '.' rest with
    | none => some (whole, rest)
    | some rest => do
        let (fraction, rest) ← readNumber 6 rest
        some (whole + fraction, rest)
  else none

/-- `HH:MM` and nothing behind it, or a clock. -/
def readMagnitude (text : Str) : Option Nat :=
  match readClock text with
  | some (micros, []) => some micros
  | some _ => none
  | none => do
      let (hours, rest) ← readNumber 2 text
      let rest ← readMark ':' rest
      let (minutes, rest) ← readNumber 2 rest
      if hours < 24 ∧ minutes < 60 ∧ rest = [] then some ((hours * 60 + minutes) * 60000000) else none

def readOffset : Str → Option Int
  | '+' :: rest => (readMagnitude rest).map fun micros => (micros : Int)
  | '-' :: rest => (readMagnitude rest).map fun micros => -(micros : Int)
  | _ => none

/-- The wall clock and the offset a text spells, with any character between date and time. -/
def readText (text : Str) : Option (Int × Int) := do
  let (days, rest) ← readDate text
  let (clock, rest) ← readClock rest.tail
  let offset ← readOffset rest
  some (days * (24 * microsPerHour) + clock, offset)

/-- `datetime.fromisoformat(text)` on what `isoformat` writes of an aware datetime. Other spellings of
ISO 8601, and times without an offset, are refused here. -/
def fromisoformat (text : Str) : Except Raised Datetime :=
  match readText text with
  | none => .error (.valueError "Invalid isoformat string")
  | some (wall, offset) =>
      if lower : minMicros ≤ wall then
        if upper : wall ≤ maxMicros then .ok ⟨wall, offset, lower, upper⟩
        else .error (.valueError "year is out of range")
      else .error (.valueError "year is out of range")

theorem length_padded {width number : Nat} (positive : 0 < width) (short : number < 10 ^ width) :
    (padded width number).toList.length = width := by
  have digits : (Nat.toDigits 10 number).length ≤ width :=
    (Nat.length_toDigits_le_iff (by decide) positive).mpr short
  have text : (toString number).length = (Nat.toDigits 10 number).length := by
    rw [Nat.toString_eq_repr, ← String.length_toList, Nat.toList_repr]
  rw [padded_toList, List.length_append, List.length_replicate, text]
  omega

theorem readNumber_padded {width number : Nat} (positive : 0 < width)
    (short : number < 10 ^ width) (rest : Str) :
    readNumber width ((padded width number).toList ++ rest) = some (number, rest) := by
  have length := length_padded positive short
  have taken : ((padded width number).toList ++ rest).take width = (padded width number).toList :=
    List.take_left' length
  have digits : (padded width number).toList.all Char.isDigit = true :=
    List.all_eq_true.mpr fun _ => isDigit_padded
  rw [readNumber]
  simp only [taken, length, digits, and_self, ↓reduceIte, ofDigitChars_padded, List.drop_left' length]

theorem readMark_self (mark : Char) (rest : Str) : readMark mark (mark :: rest) = some rest :=
  if_pos rfl

/-- The days of the years that have four digits. -/
theorem civilOfDays_inverse {days : Int} (lower : -719162 ≤ days) (upper : days ≤ 2932896) :
    (civilOfDays days).1 < 10000 ∧ (civilOfDays days).2.1 < 100 ∧ (civilOfDays days).2.2 < 100 ∧
      daysOfCivil (civilOfDays days).1 (civilOfDays days).2.1 (civilOfDays days).2.2 = days := by
  obtain ⟨era, year, dayOfYear, inEra, inYear, split, date⟩ :=
    civilOfDays_eq (show -719468 ≤ days by omega)
  have eras : (year + era * 400) / 400 = era := by omega
  have years : (year + era * 400) % 400 = year := by omega
  rw [date]
  simp only [civil, daysOfCivil]
  by_cases early : (5 * dayOfYear + 2) / 153 < 10
  · have late : ¬ (5 * dayOfYear + 2) / 153 + 3 ≤ 2 := by omega
    have month : ((5 * dayOfYear + 2) / 153 + 3 + 9) % 12 = (5 * dayOfYear + 2) / 153 := by omega
    simp only [early, late, ↓reduceIte, eras, years, month]
    refine ⟨by omega, by omega, by omega, by omega⟩
  · have first : (5 * dayOfYear + 2) / 153 - 9 ≤ 2 := by omega
    have month : ((5 * dayOfYear + 2) / 153 - 9 + 9) % 12 = (5 * dayOfYear + 2) / 153 := by omega
    simp only [early, first, ↓reduceIte, Nat.add_sub_cancel, eras, years, month]
    refine ⟨by omega, by omega, by omega, by omega⟩

theorem readDate_padded {days : Int} (lower : -719162 ≤ days) (upper : days ≤ 2932896)
    (rest : Str) :
    readDate ((padded 4 (civilOfDays days).1).toList ++ '-' ::
      ((padded 2 (civilOfDays days).2.1).toList ++ '-' ::
        ((padded 2 (civilOfDays days).2.2).toList ++ rest))) = some (days, rest) := by
  obtain ⟨year, month, day, inverse⟩ := civilOfDays_inverse lower upper
  unfold readDate
  refine Option.bind_eq_some_iff.mpr ⟨_, readNumber_padded (by decide) year _, ?_⟩
  refine Option.bind_eq_some_iff.mpr ⟨_, readMark_self '-' _, ?_⟩
  refine Option.bind_eq_some_iff.mpr ⟨_, readNumber_padded (by decide) month _, ?_⟩
  refine Option.bind_eq_some_iff.mpr ⟨_, readMark_self '-' _, ?_⟩
  refine Option.bind_eq_some_iff.mpr ⟨_, readNumber_padded (by decide) day _, ?_⟩
  simp only [inverse, ↓reduceIte]

/-- A time of day before a sign is read back. -/
theorem readClock_clockText {micros : Nat} (inDay : micros < 86400000000) (rest : Str) :
    readClock ((clockText micros).toList ++ '+' :: rest) = some (micros, '+' :: rest) := by
  have hours : micros / 1000000 / 3600 < 10 ^ 2 := by omega
  have minutes : micros / 1000000 / 60 % 60 < 10 ^ 2 := by omega
  have seconds : micros / 1000000 % 60 < 10 ^ 2 := by omega
  have inside : micros / 1000000 / 3600 < 24 ∧ micros / 1000000 / 60 % 60 < 60 ∧
      micros / 1000000 % 60 < 60 := by omega
  simp only [readClock, clockText_toList, List.append_assoc, List.cons_append,
    readNumber_padded (by decide : 0 < 2) hours, readNumber_padded (by decide : 0 < 2) minutes,
    readNumber_padded (by decide : 0 < 2) seconds, readMark_self, Option.bind_eq_bind,
    Option.bind_some, inside, and_self, ↓reduceIte]
  by_cases whole : micros % 1000000 = 0
  · simp only [whole, ↓reduceIte, List.nil_append, readMark]
    have differs : ¬ '+' = '.' := by decide
    simp only [differs, ↓reduceIte, Option.some.injEq, Prod.mk.injEq, and_true]
    omega
  · have fraction : micros % 1000000 < 10 ^ 6 := by omega
    simp only [whole, ↓reduceIte, List.cons_append, readMark_self,
      readNumber_padded (by decide : 0 < 6) fraction, Option.bind_some, Option.some.injEq,
      Prod.mk.injEq, and_true]
    omega

theorem readOffset_utc : readOffset "+00:00".toList = some 0 := by decide +kernel

/-- A datetime in UTC is read back from its text. -/
theorem fromisoformat_isoformat (separator : Char) (instant : Instant) :
    fromisoformat (isoformat (String.singleton separator) (.utc instant)).toList =
      .ok (.utc instant) := by
  have lower := instant.min_le
  have upper := instant.le_max
  have positive : (0 : Int) ≤ 24 * microsPerHour := by decide
  have days : -719162 ≤ instant.micros.fdiv (24 * microsPerHour) ∧
      instant.micros.fdiv (24 * microsPerHour) ≤ 2932896 := by
    rw [Int.fdiv_eq_ediv_of_nonneg _ positive]
    simp only [minMicros, maxMicros, microsPerHour, microsPerSecond] at *
    omega
  have clock : (instant.micros.fmod (24 * microsPerHour)).toNat < 86400000000 := by
    rw [Int.fmod_eq_emod_of_nonneg _ positive]
    simp only [microsPerHour, microsPerSecond]
    omega
  have wall : instant.micros.fdiv (24 * microsPerHour) * (24 * microsPerHour) +
      ((instant.micros.fmod (24 * microsPerHour)).toNat : Int) = instant.micros := by
    rw [Int.fdiv_eq_ediv_of_nonneg _ positive, Int.fmod_eq_emod_of_nonneg _ positive]
    simp only [microsPerHour, microsPerSecond]
    omega
  have zone : "+00:00".toList = '+' :: "00:00".toList := rfl
  have read : readText (isoformat (String.singleton separator) (.utc instant)).toList =
      some (instant.micros, 0) := by
    have offset : readOffset ('+' :: "00:00".toList) = some 0 := readOffset_utc
    rw [isoformat_utc_toList, zone]
    simp only [readText, readDate_padded days.1 days.2, Option.bind_eq_bind, Option.bind_some,
      List.tail_cons, readClock_clockText clock, offset, wall]
  rw [fromisoformat, read]
  simp only [lower, upper, ↓reduceDIte]
  rfl

example : readText "2026-05-29T08:29:59.000001-05:30".toList =
    some (1780043399000001, -19800000000) := by decide +kernel

end SignalForge.Datetime
