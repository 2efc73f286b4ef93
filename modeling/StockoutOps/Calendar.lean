import StockoutOps.Foundation.Delimiters
import StockoutOps.Sql

/-!
Contract: the fields of a Python `datetime`, and its text.

Owns: the proleptic Gregorian calendar with the fields of an instant in UTC,
aware datetimes with any offset, and `isoformat` with what it tells.

Does not own: time zones; an offset is given.
-/

namespace StockoutOps

open StockoutOps.Foundation.Delimiters
open StockoutOps.Sql

/-- The fields of a `datetime` without its offset. -/
structure CivilTime where
  year : Nat
  month : Nat
  day : Nat
  hour : Nat
  minute : Nat
  second : Nat
  microsecond : Nat
deriving DecidableEq, Repr

namespace CivilTime

/-! ## Days -/

def isLeap (year : Nat) : Bool := year % 4 == 0 && (year % 100 != 0 || year % 400 == 0)

/-- The days before January 1st. -/
def daysBeforeYear (year : Nat) : Nat :=
  (year - 1) * 365 + (year - 1) / 4 - (year - 1) / 100 + (year - 1) / 400

/-- `_DAYS_BEFORE_MONTH`, with the leap day. -/
def daysBeforeMonth (leap : Bool) (month : Nat) : Nat :=
  [0, 31, 59, 90, 120, 151, 181, 212, 243, 273, 304, 334, 365].getD (month - 1) 0 +
    if leap && 2 < month then 1 else 0

/-- The year of a day and the days before it in that year, counted from 0001-01-01. -/
def yearOfDay (day : Nat) : Nat × Nat :=
  let inCycle := day % 146097
  let centuries := min 3 (inCycle / 36524)
  let inCentury := inCycle - centuries * 36524
  let inFour := inCentury % 1461
  let years := min 3 (inFour / 365)
  (400 * (day / 146097) + 100 * centuries + 4 * (inCentury / 1461) + years + 1,
    inFour - years * 365)

/-- The month that a day of the year falls into. -/
def monthOfDay (leap : Bool) (day : Nat) : Nat :=
  ([12, 11, 10, 9, 8, 7, 6, 5, 4, 3, 2].find? fun month => daysBeforeMonth leap month ≤ day).getD 1

theorem isLeap_iff (year : Nat) :
    isLeap year = true ↔ year % 4 = 0 ∧ (year % 100 ≠ 0 ∨ year % 400 = 0) := by
  simp [isLeap]

theorem yearOfDay_spec (day : Nat) : 0 < (yearOfDay day).1 ∧
    daysBeforeYear (yearOfDay day).1 + (yearOfDay day).2 = day ∧
      (yearOfDay day).2 < 365 + (isLeap (yearOfDay day).1).toNat := by
  have whole := Nat.div_add_mod day 146097
  have inCycle_lt : day % 146097 < 146097 := Nat.mod_lt _ (by decide)
  simp only [yearOfDay]
  generalize day / 146097 = cycles at *
  generalize day % 146097 = inCycle at *
  -- the last day of a cycle belongs to its fourth century
  have century : min 3 (inCycle / 36524) ≤ 3 ∧ min 3 (inCycle / 36524) * 36524 ≤ inCycle ∧
      (inCycle - min 3 (inCycle / 36524) * 36524 < 36524 ∨
        min 3 (inCycle / 36524) = 3 ∧ inCycle - min 3 (inCycle / 36524) * 36524 = 36524) := by
    omega
  generalize min 3 (inCycle / 36524) = centuries at *
  obtain ⟨inCentury, sum⟩ := Nat.exists_eq_add_of_le' century.2.1
  have left : inCycle - centuries * 36524 = inCentury := by omega
  rw [left] at century ⊢
  have four := Nat.div_add_mod inCentury 1461
  have inFour_lt : inCentury % 1461 < 1461 := Nat.mod_lt _ (by decide)
  generalize inCentury / 1461 = fours at *
  generalize inCentury % 1461 = inFour at *
  -- so does the last day of four years
  have year : min 3 (inFour / 365) ≤ 3 ∧ min 3 (inFour / 365) * 365 ≤ inFour ∧
      (inFour - min 3 (inFour / 365) * 365 < 365 ∨
        min 3 (inFour / 365) = 3 ∧ inFour = 1460) := by
    omega
  generalize min 3 (inFour / 365) = years at *
  have fourth : (400 * cycles + 100 * centuries + 4 * fours + years) / 4 =
      100 * cycles + 25 * centuries + fours := by omega
  have hundredth : (400 * cycles + 100 * centuries + 4 * fours + years) / 100 =
      4 * cycles + centuries := by omega
  have fourHundredth : (400 * cycles + 100 * centuries + 4 * fours + years) / 400 = cycles := by
    omega
  refine ⟨by omega, ?_, ?_⟩
  · rw [daysBeforeYear, Nat.add_sub_cancel, fourth, hundredth, fourHundredth]
    omega
  · cases leap : isLeap (400 * cycles + 100 * centuries + 4 * fours + years + 1) with
    | true =>
        rw [Bool.toNat_true]
        omega
    | false =>
        have common := mt (isLeap_iff _).mpr (Bool.eq_false_iff.mp leap)
        rw [Bool.toNat_false]
        omega

theorem monthOfDay_spec (leap : Bool) {day : Nat} (inYear : day < 365 + leap.toNat) :
    1 ≤ monthOfDay leap day ∧ monthOfDay leap day ≤ 12 ∧
      daysBeforeMonth leap (monthOfDay leap day) ≤ day ∧
        day < daysBeforeMonth leap (monthOfDay leap day) + 31 := by
  have all : ∀ leap : Bool, ∀ day < 365 + leap.toNat, 1 ≤ monthOfDay leap day ∧
      monthOfDay leap day ≤ 12 ∧ daysBeforeMonth leap (monthOfDay leap day) ≤ day ∧
        day < daysBeforeMonth leap (monthOfDay leap day) + 31 := by
    decide +kernel
  exact all leap day inYear

/-! ## Instants -/

/-- Days since 0001-01-01. -/
def days (civil : CivilTime) : Nat :=
  daysBeforeYear civil.year + daysBeforeMonth (isLeap civil.year) civil.month + (civil.day - 1)

def secondOfDay (civil : CivilTime) : Nat :=
  civil.hour * 3600 + civil.minute * 60 + civil.second

/-- The instant of the fields in UTC; the epoch is day 719162. -/
def instant (civil : CivilTime) : Timestamp :=
  (((civil.days : Int) - 719162) * 86400 + (civil.secondOfDay : Int)) * 1000000 +
    (civil.microsecond : Int)

/-- The fields of a readable instant in UTC. -/
def ofInstant (instant : Timestamp) : CivilTime :=
  let microseconds := (instant + 719162 * 86400 * 1000000).toNat
  let seconds := microseconds / 1000000
  let position := yearOfDay (seconds / 86400)
  let month := monthOfDay (isLeap position.1) position.2
  { year := position.1
    month := month
    day := position.2 - daysBeforeMonth (isLeap position.1) month + 1
    hour := seconds % 86400 / 3600
    minute := seconds % 3600 / 60
    second := seconds % 60
    microsecond := microseconds % 1000000 }

/-- The widths of the fields. -/
structure Fits (civil : CivilTime) : Prop where
  year : civil.year < 10 ^ 4
  month : civil.month < 10 ^ 2
  day : civil.day < 10 ^ 2
  hour : civil.hour < 10 ^ 2
  minute : civil.minute < 10 ^ 2
  second : civil.second < 10 ^ 2
  microsecond : civil.microsecond < 10 ^ 6

theorem readable_bounds {instant : Int} (readable : readableInstant instant = true) :
    -62135596800000000 ≤ instant ∧ instant < 253402300800000000 := by
  simp only [readableInstant, Bool.and_eq_true] at readable
  exact ⟨of_decide_eq_true readable.1, of_decide_eq_true readable.2⟩

theorem instant_ofInstant {instant : Int} (readable : readableInstant instant = true) :
    (ofInstant instant).instant = instant := by
  obtain ⟨early, -⟩ := readable_bounds readable
  have clock : ((instant + 719162 * 86400 * 1000000).toNat : Int) =
      instant + 719162 * 86400 * 1000000 := by
    omega
  simp only [ofInstant, CivilTime.instant, days, secondOfDay, Nat.add_sub_cancel]
  generalize (instant + 719162 * 86400 * 1000000).toNat = microseconds at *
  have split := Nat.div_add_mod microseconds 1000000
  generalize microseconds % 1000000 = microsecond at *
  generalize microseconds / 1000000 = seconds at *
  obtain ⟨-, sum, inYear⟩ := yearOfDay_spec (seconds / 86400)
  obtain ⟨-, -, before, -⟩ := monthOfDay_spec _ inYear
  have time : seconds % 86400 / 3600 * 3600 + seconds % 3600 / 60 * 60 + seconds % 60 =
      seconds % 86400 := by omega
  have date := Nat.add_sub_cancel' before
  rw [time, Nat.add_assoc, date, sum]
  change @Eq Int _ _
  omega

theorem fits_ofInstant {instant : Int} (readable : readableInstant instant = true) :
    (ofInstant instant).Fits := by
  obtain ⟨early, late⟩ := readable_bounds readable
  have clock : (instant + 719162 * 86400 * 1000000).toNat < 315537897600000000 := by omega
  simp only [ofInstant]
  generalize (instant + 719162 * 86400 * 1000000).toNat = microseconds at *
  generalize seconds_eq : microseconds / 1000000 = seconds
  obtain ⟨-, -, inYear⟩ := yearOfDay_spec (seconds / 86400)
  obtain ⟨-, december, before, within⟩ := monthOfDay_spec _ inYear
  constructor
  · simp only [yearOfDay]
    omega
  · show monthOfDay _ _ < _
    omega
  · show _ - _ + 1 < _
    omega
  · show seconds % 86400 / 3600 < _
    omega
  · show seconds % 3600 / 60 < _
    omega
  · show seconds % 60 < _
    omega
  · show microseconds % 1000000 < _
    omega

/-! ## Text -/

/-- `YYYY-MM-DD` -/
def date (civil : CivilTime) : List Char :=
  padded 4 civil.year ++ ('-' :: (padded 2 civil.month ++ ('-' :: padded 2 civil.day)))

/-- `HH:MM:SS`, and the microseconds unless there are none. -/
def time (civil : CivilTime) : List Char :=
  padded 2 civil.hour ++ (':' :: (padded 2 civil.minute ++ (':' :: (padded 2 civil.second ++
    if civil.microsecond = 0 then [] else '.' :: padded 6 civil.microsecond))))

/-- The `isoformat` of a naive `datetime`. -/
def text (civil : CivilTime) : List Char := civil.date ++ ('T' :: civil.time)

@[simp] theorem length_date (civil : CivilTime) : civil.date.length = 10 := by simp [date]

theorem notMem_padded {width number : Nat} {char : Char} (other : char.isDigit = false) :
    char ∉ padded width number := by
  intro member
  rw [isDigit_of_mem_padded member] at other
  cases other

/-- The hour starts where the only letter of the text is. -/
theorem letter_notMem_time (civil : CivilTime) : 'T' ∉ civil.time := by
  have digits : ∀ width number, 'T' ∉ padded width number := fun _ _ => notMem_padded (by decide)
  unfold time
  split <;> simp [digits]

variable {left right : CivilTime}

theorem date_inj (leftFits : left.Fits) (rightFits : right.Fits) (same : left.date = right.date) :
    left.year = right.year ∧ left.month = right.month ∧ left.day = right.day := by
  obtain ⟨years, rest⟩ := List.append_inj same (by simp)
  obtain ⟨months, days⟩ := List.append_inj (List.cons.inj rest).2 (by simp)
  exact ⟨padded_inj leftFits.year rightFits.year years,
    padded_inj leftFits.month rightFits.month months,
    padded_inj leftFits.day rightFits.day (List.cons.inj days).2⟩

theorem time_inj (leftFits : left.Fits) (rightFits : right.Fits) (same : left.time = right.time) :
    left.hour = right.hour ∧ left.minute = right.minute ∧ left.second = right.second ∧
      left.microsecond = right.microsecond := by
  obtain ⟨hours, rest⟩ := List.append_inj same (by simp)
  obtain ⟨minutes, rest⟩ := List.append_inj (List.cons.inj rest).2 (by simp)
  obtain ⟨seconds, fractions⟩ := List.append_inj (List.cons.inj rest).2 (by simp)
  refine ⟨padded_inj leftFits.hour rightFits.hour hours,
    padded_inj leftFits.minute rightFits.minute minutes,
    padded_inj leftFits.second rightFits.second seconds, ?_⟩
  split at fractions
  · rename_i leftNone
    split at fractions
    · rename_i rightNone
      exact leftNone.trans rightNone.symm
    · cases fractions
  · split at fractions
    · cases fractions
    · exact padded_inj leftFits.microsecond rightFits.microsecond (List.cons.inj fractions).2

/-- Different fields have different texts. -/
theorem text_inj (leftFits : left.Fits) (rightFits : right.Fits) (same : left.text = right.text) :
    left = right := by
  obtain ⟨dates, times⟩ := List.append_inj same (by simp)
  obtain ⟨year, month, day⟩ := date_inj leftFits rightFits dates
  obtain ⟨hour, minute, second_, microsecond⟩ :=
    time_inj leftFits rightFits (List.cons.inj times).2
  cases left
  cases right
  simp only at year month day hour minute second_ microsecond
  rw [year, month, day, hour, minute, second_, microsecond]

end CivilTime

/-! ## Instants in UTC -/

/-- `value.astimezone(UTC).isoformat().replace("+00:00", "Z")` -/
def isoUtcText (instant : Timestamp) : String :=
  String.ofList ((CivilTime.ofInstant instant).text ++ ['Z'])

/-- Readable instants are told apart by their texts in UTC. -/
theorem isoUtcText_inj {left right : Timestamp} (leftReadable : readableInstant left = true)
    (rightReadable : readableInstant right = true) (same : isoUtcText left = isoUtcText right) :
    left = right := by
  have texts := List.append_cancel_right (String.ofList_injective same)
  have civil := CivilTime.text_inj (CivilTime.fits_ofInstant leftReadable)
    (CivilTime.fits_ofInstant rightReadable) texts
  rw [← CivilTime.instant_ofInstant leftReadable, civil,
    CivilTime.instant_ofInstant rightReadable]

/-! ## Aware datetimes -/

/-- An aware `datetime`: its fields and its `utcoffset()`. -/
structure ZonedDatetime where
  civil : CivilTime
  offset : Int
  fits : civil.Fits
  offset_lt : offset.natAbs < 24 * 3600 * 1000000

namespace ZonedDatetime

def instant (value : ZonedDatetime) : Timestamp := value.civil.instant - value.offset

def zoneSign (offset : Int) : Char := if offset < 0 then '-' else '+'

/-- `±HH:MM`, with seconds and microseconds unless there are none. -/
def offsetText (value : ZonedDatetime) : List Char :=
  let seconds := value.offset.natAbs / 1000000
  let microsecond := value.offset.natAbs % 1000000
  zoneSign value.offset :: (padded 2 (seconds / 3600) ++
    (':' :: (padded 2 (seconds % 3600 / 60) ++
      if seconds % 60 = 0 ∧ microsecond = 0 then []
      else ':' :: (padded 2 (seconds % 60) ++
        if microsecond = 0 then [] else '.' :: padded 6 microsecond))))

/-- `value.isoformat()` -/
def isoformat (value : ZonedDatetime) : String :=
  String.ofList (value.civil.text ++ value.offsetText)

theorem letter_notMem_offsetText (value : ZonedDatetime) : 'T' ∉ value.offsetText := by
  have digits : ∀ width number, 'T' ∉ padded width number :=
    fun _ _ => CivilTime.notMem_padded (by decide)
  simp only [offsetText, zoneSign, List.mem_cons, List.mem_append, not_or]
  refine ⟨?_, digits _ _, by decide, digits _ _, ?_⟩
  · split <;> decide
  · split
    · exact List.not_mem_nil
    · simp only [List.mem_cons, List.mem_append, not_or]
      refine ⟨by decide, digits _ _, ?_⟩
      split
      · exact List.not_mem_nil
      · simp [digits]

/-- Ten characters of a date, the letter, and a rest without it. -/
theorem isoformat_shape (value : ZonedDatetime) : ∃ rest : List Char, 'T' ∉ rest ∧
    value.isoformat.toList = value.civil.date ++ ('T' :: rest) := by
  refine ⟨value.civil.time ++ value.offsetText, ?_, ?_⟩
  · simp only [List.mem_append, not_or]
    exact ⟨value.civil.letter_notMem_time, value.letter_notMem_offsetText⟩
  · simp [isoformat, CivilTime.text]

section Utc

variable {instant other : Timestamp}

/-- A readable instant in UTC. -/
def utc (instant : Timestamp) (readable : readableInstant instant = true) : ZonedDatetime where
  civil := .ofInstant instant
  offset := 0
  fits := CivilTime.fits_ofInstant readable
  offset_lt := by decide

@[simp] theorem instant_utc (readable : readableInstant instant = true) :
    (utc instant readable).instant = instant := by
  rw [ZonedDatetime.instant, utc, CivilTime.instant_ofInstant readable, Int.sub_zero]

theorem offsetText_utc (readable : readableInstant instant = true) :
    (utc instant readable).offsetText = "+00:00".toList := by
  have digits : padded 2 0 = ['0', '0'] := by decide +kernel
  simp [offsetText, utc, zoneSign, digits]

theorem isoformat_utc (readable : readableInstant instant = true) :
    (utc instant readable).isoformat =
      String.ofList ((CivilTime.ofInstant instant).text ++ "+00:00".toList) := by
  rw [isoformat, offsetText_utc, utc]

theorem isoformat_utc_inj (readable : readableInstant instant = true)
    (otherReadable : readableInstant other = true) :
    (utc instant readable).isoformat = (utc other otherReadable).isoformat ↔ instant = other := by
  constructor
  · intro same
    rw [isoformat_utc, isoformat_utc] at same
    have civil := CivilTime.text_inj (CivilTime.fits_ofInstant readable)
      (CivilTime.fits_ofInstant otherReadable)
      (List.append_cancel_right (String.ofList_injective same))
    rw [← CivilTime.instant_ofInstant readable, civil, CivilTime.instant_ofInstant otherReadable]
  · rintro rfl
    rfl

end Utc

end ZonedDatetime

end StockoutOps
