import SignalForge.Datetime

/-! The ISO 8601 text of a datetime. -/

set_option autoImplicit false

namespace SignalForge.Datetime

/-- `%0{width}d`. -/
def padded (width : Nat) (number : Nat) : String :=
  let digits := toString number
  String.ofList (List.replicate (width - digits.length) '0') ++ digits

/-- Year, month and day of a day counted from the Unix epoch, in the proleptic Gregorian
calendar. Years are counted from March, so the leap day is a year's last. -/
def civilOfDays (days : Int) : Nat × Nat × Nat :=
  let shifted := days + 719468
  let era := shifted.fdiv 146097
  let dayOfEra := (shifted - era * 146097).toNat
  let yearOfEra := (dayOfEra - dayOfEra / 1460 + dayOfEra / 36524 - dayOfEra / 146096) / 365
  let dayOfYear := dayOfEra - (365 * yearOfEra + yearOfEra / 4 - yearOfEra / 100)
  let monthFromMarch := (5 * dayOfYear + 2) / 153
  let day := dayOfYear - (153 * monthFromMarch + 2) / 5 + 1
  let month := if monthFromMarch < 10 then monthFromMarch + 3 else monthFromMarch - 9
  let year := (yearOfEra + era * 400).toNat
  (if month ≤ 2 then year + 1 else year, month, day)

/-- `HH:MM:SS`, with the microseconds where there are any. -/
def clockText (micros : Nat) : String :=
  let seconds := micros / 1000000
  let fraction := micros % 1000000
  padded 2 (seconds / 3600) ++ ":" ++ padded 2 (seconds / 60 % 60) ++ ":" ++
    padded 2 (seconds % 60) ++ (if fraction = 0 then "" else "." ++ padded 6 fraction)

/-- `±HH:MM`, with the seconds and microseconds where there are any. -/
def offsetText (offset : Int) : String :=
  let magnitude := offset.natAbs
  let sign := if offset < 0 then "-" else "+"
  let seconds := magnitude / 1000000
  if magnitude % 60000000 = 0 then
    sign ++ padded 2 (seconds / 3600) ++ ":" ++ padded 2 (seconds / 60 % 60)
  else sign ++ clockText magnitude

/-- `t.isoformat(sep)`. -/
def isoformat (separator : String) (t : Datetime) : String :=
  let microsPerDay := 24 * microsPerHour
  let date := civilOfDays (t.wall.fdiv microsPerDay)
  padded 4 date.1 ++ "-" ++ padded 2 date.2.1 ++ "-" ++ padded 2 date.2.2 ++ separator ++
    clockText (t.wall.fmod microsPerDay).toNat ++ offsetText t.offset

/-- `str(t)`. -/
def str (t : Datetime) : String := isoformat " " t

example : str (.utc .baseline) = "0001-01-01 00:00:00+00:00" := by decide +kernel

example : isoformat "T" ⟨1780043399000001, -19800000000, by decide, by decide⟩ =
    "2026-05-29T08:29:59.000001-05:30" := by decide +kernel

end SignalForge.Datetime
