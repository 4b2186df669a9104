import GridGooseSV.Common.Text
import GridGooseSV.Foundation.Calendar
import GridGooseSV.Foundation.Decimal

/-!
# Generalized times

After `conversions.cc`. A time in milliseconds is written as a text of the calendar and read back.
-/

namespace GridGooseSV

namespace StringUtils

/-- `StringUtils_digitToInt`. -/
def digitToInt (digit : UInt8) : Int := if isDigit digit then digit.toNat - 48 else -1

/-- The loop of `StringUtils_digitsToInt`. -/
def digitsLoop : (digits : List UInt8) → (count : Nat) → (value : Int) → Option Int
  | _, 0, value => some value
  -- the NUL is no digit
  | [], _ + 1, value => do
    let _ ← checkedInt (value * 10)
    some (-1)
  | digit :: digits, count + 1, value => do
    let value ← checkedInt (value * 10)
    let digitValue := digitToInt digit
    if digitValue = -1 then some (-1)
    else do
      let value ← checkedInt (value + digitValue)
      digitsLoop digits count value

/-- `StringUtils_digitsToInt`; `none` for digits that stand for no `int`. -/
def digitsToInt (digits : List UInt8) (count : Nat) : Option Int := digitsLoop digits count 0

end StringUtils

namespace Conversions

open StringUtils

/-- `struct tm`, as far as it is filled in. -/
structure Tm where
  tm_year : Int
  tm_mon : Int
  tm_mday : Int
  tm_hour : Int
  tm_min : Int
  tm_sec : Int
  deriving DecidableEq, Repr

/-- `days_from_civil`, which rounds down in the years before the first, as the library of the
language does. -/
def daysFromCivil (y m d : Int) : Int :=
  let y := if m ≤ 2 then y - 1 else y
  let era := y / 400
  let yoe := y - era * 400
  let doy := (153 * (m + if m > 2 then -3 else 9) + 2) / 5 + d - 1
  let doe := yoe * 365 + yoe / 4 - yoe / 100 + doy
  era * 146097 + doe - 719468

/-- `timegm`: months that a year does not have belong to other years. -/
def timegm (t : Tm) : Int :=
  let year := t.tm_year + 1900 + t.tm_mon / 12
  let month := t.tm_mon % 12
  60 * (60 * (24 * daysFromCivil year (month + 1) t.tm_mday + t.tm_hour) + t.tm_min) + t.tm_sec

/-- `getSecondsOffset`. -/
def getSecondsOffset (offsetString : List UInt8) : Option Int := do
  let hourOffset ← digitsToInt offsetString 2
  if hourOffset < 0 then return -1
  let minOffset ← digitsToInt (offsetString.drop 2) 2
  if minOffset < 0 then return -1
  return hourOffset * (60 * 60) + minOffset * 60

/-- The digits of a fraction, counted, and the power of ten that they are parts of. -/
def fractionLoop : List UInt8 → (fractionOfSecondLen : Nat) → (secondValue : Int) →
    Option (Nat × Int)
  | [], fractionOfSecondLen, secondValue => some (fractionOfSecondLen, secondValue)
  | character :: rest, fractionOfSecondLen, secondValue =>
    if isDigit character then do
      let secondValue ← checkedInt (secondValue * 10)
      fractionLoop rest (fractionOfSecondLen + 1) secondValue
    else some (fractionOfSecondLen, secondValue)

/-- The optional fraction of a second, in milliseconds, and what stands behind it. -/
def fraction : (parsePos : List UInt8) → Option (Int × List UInt8)
  | 0x2e :: fractionOfSecondStart => do
    let (fractionOfSecondLen, secondValue) ← fractionLoop fractionOfSecondStart 0 1
    if 0 < fractionOfSecondLen then do
      let fractionOfSecond ← digitsToInt fractionOfSecondStart fractionOfSecondLen
      let scaled ← checkedInt (fractionOfSecond * 1000)
      return (scaled.tdiv secondValue, fractionOfSecondStart.drop fractionOfSecondLen)
    else return (0, fractionOfSecondStart)
  | parsePos => some (0, parsePos)

/-- `Conversions_generalizedTimeToMsTime`. A time without a zone is a local one, which the library
of the language knows; `none` where an `int` overflows. -/
def generalizedTimeToMsTime (mktime : Tm → Int) (gtString : CString) : Option UInt64 := do
  let gt := gtString.val
  if gt.length < 14 then return -1
  let year ← digitsToInt gt 4
  if year < 0 then return -1
  let month ← digitsToInt (gt.drop 4) 2
  if month < 0 then return -1
  let day ← digitsToInt (gt.drop 6) 2
  if day < 0 then return -1
  let hour ← digitsToInt (gt.drop 8) 2
  if hour < 0 then return -1
  let min ← digitsToInt (gt.drop 10) 2
  if min < 0 then return -1
  let seconds ← digitsToInt (gt.drop 12) 2
  if seconds < 0 then return -1
  let tmTime : Tm :=
    { tm_year := year - 1900
      tm_mon := month - 1
      tm_mday := day
      tm_hour := hour
      tm_min := min
      tm_sec := seconds }
  let (msOffset, parsePos) ← fraction (gt.drop 14)
  let msTime (t : Int) : UInt64 := UInt64.ofInt t * 1000 + UInt64.ofInt msOffset
  match parsePos with
  | [] => return msTime (mktime tmTime)
  | 0x5a :: _ => return msTime (timegm tmTime)
  | 0x2b :: offset => do
    let secondsOffset ← getSecondsOffset offset
    return msTime (timegm tmTime - secondsOffset)
  | 0x2d :: offset => do
    let secondsOffset ← getSecondsOffset offset
    return msTime (timegm tmTime + secondsOffset)
  | _ => return -1

section Digits

variable {number digits value : Nat}

theorem length_intToStringBuffer (number digits : Nat) :
    (intToStringBuffer number digits).length = digits := by
  induction digits generalizing number with
  | zero => rfl
  | succ digits ih => simp [intToStringBuffer, ih]

theorem toNat_digit (small : number < 10) : (UInt8.ofNat (number + 48)).toNat = number + 48 := by
  rw [UInt8.toNat_ofNat']
  omega

theorem isDigit_digit (small : number < 10) : isDigit (UInt8.ofNat (number + 48)) = true := by
  simp only [isDigit, decide_eq_true_eq, UInt8.le_iff_toNat_le, toNat_digit small,
    UInt8.reduceToNat]
  omega

theorem digitToInt_digit (small : number < 10) :
    digitToInt (UInt8.ofNat (number + 48)) = number := by
  rw [digitToInt, if_pos (isDigit_digit small), toNat_digit small]
  omega

theorem leading_lt (fits : number < 10 ^ (digits + 1)) : number / 10 ^ digits < 10 := by
  apply Nat.div_lt_of_lt_mul
  rwa [← Nat.pow_succ]

/-- The digits of a number are read back behind others. -/
theorem digitsLoop_intToStringBuffer (fits : number < 10 ^ digits)
    (small : value * 10 ^ digits + number < 2 ^ 31) (rest : List UInt8) :
    digitsLoop (intToStringBuffer number digits ++ rest) digits value =
      some ((value * 10 ^ digits + number : Nat) : Int) := by
  induction digits generalizing number value with
  | zero =>
      obtain rfl : number = 0 := by omega
      simp [digitsLoop]
  | succ digits ih =>
      have leading := leading_lt fits
      have whole := Nat.div_add_mod number (10 ^ digits)
      have positive : 0 < 10 ^ digits := Nat.pow_pos (by decide)
      have later := Nat.mod_lt number positive
      have shifted : (value * 10 + number / 10 ^ digits) * 10 ^ digits + number % 10 ^ digits =
          value * 10 ^ (digits + 1) + number := by
        rw [Nat.pow_succ, Nat.add_mul, Nat.mul_comm (number / 10 ^ digits), Nat.add_assoc, whole]
        ring
      have bounded : value * 10 + number / 10 ^ digits < 2 ^ 31 := by
        have smaller := Nat.le_mul_of_pos_right (value * 10 + number / 10 ^ digits) positive
        omega
      have first : checkedInt ((value : Int) * 10) = some ((value * 10 : Nat) : Int) :=
        checkedInt_natCast (Nat.lt_of_le_of_lt (Nat.le_add_right _ _) bounded)
      have second : checkedInt (((value * 10 : Nat) : Int) + (number / 10 ^ digits : Nat)) =
          some ((value * 10 + number / 10 ^ digits : Nat) : Int) := checkedInt_natCast bounded
      have digit : ((number / 10 ^ digits : Nat) : Int) ≠ -1 := fun negative => by
        have positive := Int.natCast_nonneg (number / 10 ^ digits)
        rw [negative] at positive
        contradiction
      rw [intToStringBuffer, List.cons_append, digitsLoop, first]
      simp only [Option.bind_eq_bind, Option.bind_some, digitToInt_digit leading, if_neg digit,
        second]
      rw [ih later (by rwa [shifted]), shifted]

/-- The digits of a number are read back. -/
theorem digitsToInt_intToStringBuffer (fits : number < 10 ^ digits) (small : number < 2 ^ 31)
    (rest : List UInt8) :
    digitsToInt (intToStringBuffer number digits ++ rest) digits = some (number : Int) := by
  have read := @digitsLoop_intToStringBuffer number digits 0 fits (by omega) rest
  rw [Nat.zero_mul, Nat.zero_add] at read
  exact read

/-- Different numbers have different digits. -/
theorem intToStringBuffer_inj {other : Nat} (fits : number < 10 ^ digits)
    (otherFits : other < 10 ^ digits) (few : digits ≤ 9)
    (same : intToStringBuffer number digits = intToStringBuffer other digits) :
    number = other := by
  have bound : 10 ^ digits ≤ 10 ^ 9 := Nat.pow_le_pow_right (by decide) few
  have one := @digitsToInt_intToStringBuffer number digits fits (by omega) []
  have two := @digitsToInt_intToStringBuffer other digits otherFits (by omega) []
  rw [same, two] at one
  exact (Int.ofNat.inj (Option.some.inj one)).symm

/-- The digits of a fraction are counted up to what is no digit. -/
theorem fractionLoop_intToStringBuffer (fits : number < 10 ^ digits)
    (small : value * 10 ^ digits < 2 ^ 31) {stop : UInt8} (ends : isDigit stop = false)
    (rest : List UInt8) (counted : Nat) :
    fractionLoop (intToStringBuffer number digits ++ stop :: rest) counted value =
      some (counted + digits, ((value * 10 ^ digits : Nat) : Int)) := by
  induction digits generalizing number value counted with
  | zero => simp [intToStringBuffer, fractionLoop, ends]
  | succ digits ih =>
      have positive : 0 < 10 ^ digits := Nat.pow_pos (by decide)
      have later := Nat.mod_lt number positive
      have shifted : value * 10 * 10 ^ digits = value * 10 ^ (digits + 1) := by
        rw [Nat.pow_succ]
        ring
      have bounded : value * 10 < 2 ^ 31 := by
        have smaller := Nat.le_mul_of_pos_right (value * 10) positive
        omega
      have next : checkedInt ((value : Int) * 10) = some ((value * 10 : Nat) : Int) :=
        checkedInt_natCast bounded
      rw [intToStringBuffer, List.cons_append, fractionLoop,
        if_pos (isDigit_digit (leading_lt fits)),
        next]
      simp only [Option.bind_eq_bind, Option.bind_some]
      rw [ih later (by rwa [shifted]), shifted]
      congr 2
      omega

end Digits

/-! ## The text of a time -/

/-- The text of a date and a time of the day. -/
def calendarText (date : Date) (hour min sec ms : Nat) : List UInt8 :=
  intToStringBuffer date.year 4 ++ (intToStringBuffer date.month 2 ++
    (intToStringBuffer date.day 2 ++ (intToStringBuffer hour 2 ++ (intToStringBuffer min 2 ++
      (intToStringBuffer sec 2 ++ 0x2e :: (intToStringBuffer ms 3 ++ [0x5a]))))))

theorem msTimeToGeneralizedTime_eq (msTime : Nat) :
    msTimeToGeneralizedTime msTime =
      calendarText (dateOfDays (msTime / 1000 / 86400)) (msTime / 1000 / 3600 % 24)
        (msTime / 1000 / 60 % 60) (msTime / 1000 % 60) (msTime % 1000) ++ [0] := by
  simp only [msTimeToGeneralizedTime, calendarText, List.append_assoc, List.cons_append,
    List.nil_append]

/-- Every number has room for its digits. -/
structure Written (date : Date) (hour min sec ms : Nat) : Prop where
  year : date.year < 10000
  month : date.month < 100
  day : date.day < 100
  hour : hour < 100
  min : min < 100
  sec : sec < 100
  ms : ms < 1000

/-- A date and a time of the day, as they are filled in. -/
def tmOf (date : Date) (hour min sec : Nat) : Tm :=
  { tm_year := date.year - 1900
    tm_mon := date.month - 1
    tm_mday := date.day
    tm_hour := hour
    tm_min := min
    tm_sec := sec }

section Reading

variable {date : Date} {hour min sec ms : Nat}

theorem fraction_intToStringBuffer (fits : ms < 1000) :
    fraction (0x2e :: (intToStringBuffer ms 3 ++ [0x5a])) = some ((ms : Int), [0x5a]) := by
  have counted := @fractionLoop_intToStringBuffer ms 3 1 fits (by decide) 0x5a (by decide) [] 0
  have read := @digitsToInt_intToStringBuffer ms 3 fits (by omega) [0x5a]
  have scaled : checkedInt ((ms : Int) * 1000) = some ((ms * 1000 : Nat) : Int) :=
    checkedInt_natCast (show ms * 1000 < 2 ^ 31 by omega)
  have rest : (intToStringBuffer ms 3 ++ [0x5a]).drop 3 = [0x5a] :=
    List.drop_left' (length_intToStringBuffer ms 3)
  have share : ((ms * 1000 : Nat) : Int).tdiv 1000 = ms := by
    rw [Int.tdiv_eq_ediv_of_nonneg (by omega)]
    omega
  simp only [fraction]
  rw [show ((1 : Nat) : Int) = 1 from rfl] at counted
  simp only [counted, Option.bind_eq_bind, Option.bind_some, Nat.zero_add, read, scaled, rest,
    show 0 < 3 by decide, ↓reduceIte, show 1 * 10 ^ 3 = 1000 by decide, Option.pure_def]
  rw [show ((1000 : Nat) : Int) = 1000 from rfl, share]

/-- What stands behind digits of a text. -/
theorem drop_digits {text rest : List UInt8} {number digits start stop : Nat}
    (found : text.drop start = intToStringBuffer number digits ++ rest)
    (behind : start + digits = stop) : text.drop stop = rest := by
  rw [← behind, ← List.drop_drop, found]
  exact List.drop_left' (length_intToStringBuffer number digits)

/-- What is read of a text with all its digits. -/
theorem generalizedTimeToMsTime_calendarText (mktime : Tm → Int) {text : CString}
    (shape : text.val = calendarText date hour min sec ms)
    (written : Written date hour min sec ms) :
    generalizedTimeToMsTime mktime text =
      some (UInt64.ofInt (timegm (tmOf date hour min sec)) * 1000 + UInt64.ofInt ms) := by
  obtain ⟨year, month, day, hours, mins, secs, milliseconds⟩ := written
  have whole : text.val.drop 0 = calendarText date hour min sec ms := shape
  have second := drop_digits whole (show 0 + 4 = 4 from rfl)
  have third := drop_digits second (show 4 + 2 = 6 from rfl)
  have fourth := drop_digits third (show 6 + 2 = 8 from rfl)
  have fifth := drop_digits fourth (show 8 + 2 = 10 from rfl)
  have sixth := drop_digits fifth (show 10 + 2 = 12 from rfl)
  have seventh := drop_digits sixth (show 12 + 2 = 14 from rfl)
  have first : digitsToInt text.val 4 = some (date.year : Int) := by
    rw [shape]
    exact digitsToInt_intToStringBuffer year (by omega) _
  have long : ¬ text.val.length < 14 := by
    rw [shape, calendarText]
    simp only [List.length_append, length_intToStringBuffer, List.length_cons]
    omega
  have pair : ∀ {number : Nat}, number < 100 → ∀ rest,
      digitsToInt (intToStringBuffer number 2 ++ rest) 2 = some (number : Int) :=
    fun small => digitsToInt_intToStringBuffer small (by omega)
  unfold generalizedTimeToMsTime
  simp only [if_neg long, first, second, third, fourth, fifth, sixth, seventh, pair month, pair day,
    pair hours, pair mins, pair secs, fraction_intToStringBuffer milliseconds,
    Option.bind_eq_bind, Option.bind_some, Option.pure_def,
    if_neg (Int.not_lt.mpr (Int.natCast_nonneg _))]
  rfl

end Reading

/-! ## The dates of the calendar -/

/-- A date that the calendar has. -/
structure Date.Valid (date : Date) : Prop where
  month : 1 ≤ date.month ∧ date.month ≤ 12
  day : 1 ≤ date.day ∧ date.day ≤ daysInMonth date.year date.month

/-- The date of a day of a month of a year of an era, each counted from zero and from March on. -/
def dateIn (era year month day : Nat) : Date where
  year := year + era * 400 + if calendarMonth month ≤ 2 then 1 else 0
  month := calendarMonth month
  day := day + 1

/-- The days before it, since the first era. -/
def eraDays (era year month day : Nat) : Nat :=
  era * 146097 + (daysBeforeYear year + (daysBeforeMonth month + day))

/-- An era has the day. -/
structure Falls (year month day : Nat) : Prop where
  inEra : year < 400
  inYear : month < 12
  inMonth : day < daysInMonth (if month < 10 then year else year + 1) (calendarMonth month)

section Dates

variable {era year month day days : Nat} {date : Date}

/-- The day lies in its month and in its year. -/
theorem Falls.inside (falls : Falls year month day) :
    daysBeforeMonth month + day < daysBeforeMonth (month + 1) ∧
      daysBeforeMonth month + day < daysInYear year := by
  have ends := daysInMonth_eq year falls.inYear
  have early := falls.inMonth
  omega

theorem calendarMonth_le_two (inside : month < 12) : calendarMonth month ≤ 2 ↔ ¬ month < 10 := by
  unfold calendarMonth
  split <;> omega

theorem dateIn_of_lt (before : month < 10) :
    dateIn era year month day = ⟨year + era * 400, month + 3, day + 1⟩ := by
  have second := calendarMonth_le_two (Nat.lt_trans before (by decide))
  rw [dateIn, if_neg (by tauto), calendarMonth, if_pos before, Nat.add_zero]

theorem dateIn_of_not_lt (inside : month < 12) (before : ¬ month < 10) :
    dateIn era year month day = ⟨year + era * 400 + 1, month - 9, day + 1⟩ := by
  rw [dateIn, if_pos ((calendarMonth_le_two inside).mpr before), calendarMonth, if_neg before]

/-- Leap years come again with every era. -/
theorem daysInMonth_add_era (era year month : Nat) :
    daysInMonth (year + era * 400) month = daysInMonth year month := by
  have leap : IsLeap (year + era * 400) ↔ IsLeap year := by
    unfold IsLeap
    omega
  simp only [daysInMonth, leap]

/-- The date that is found for a day. -/
theorem dateOfDays_eq (falls : Falls year month day)
    (same : days + 719468 = eraDays era year month day) :
    dateOfDays days = dateIn era year month day := by
  obtain ⟨inMonth, inYear⟩ := falls.inside
  have inEra := daysBeforeYear_le falls.inEra
  unfold eraDays at same
  have eras : (days + 719468) / 146097 = era := by omega
  have rest : (days + 719468) % 146097 =
      daysBeforeYear year + (daysBeforeMonth month + day) := by omega
  have inItsYear : yearOfDay (daysBeforeYear year + (daysBeforeMonth month + day)) = year :=
    yearOfDay_eq falls.inEra (Nat.le_add_right _ _) (by omega)
  have inItsMonth : monthOfDay (daysBeforeMonth month + day) = month :=
    monthOfDay_eq (Nat.le_add_right _ _) inMonth
  have unfolded : dateOfDays days =
      let dayOfEra := (days + 719468) % 146097
      let dayOfYear := dayOfEra - daysBeforeYear (yearOfDay dayOfEra)
      { year := yearOfDay dayOfEra + (days + 719468) / 146097 * 400 +
          if calendarMonth (monthOfDay dayOfYear) ≤ 2 then 1 else 0
        month := calendarMonth (monthOfDay dayOfYear)
        day := dayOfYear - daysBeforeMonth (monthOfDay dayOfYear) + 1 } := rfl
  rw [unfolded, eras, rest]
  dsimp only
  rw [inItsYear, Nat.add_sub_cancel_left, inItsMonth, Nat.add_sub_cancel_left]
  rfl

/-- Every day has its place in an era. -/
theorem exists_falls (days : Nat) :
    ∃ era year month day, Falls year month day ∧
      days + 719468 = eraDays era year month day := by
  obtain ⟨inside, started, notOver⟩ :=
    @yearOfDay_spec ((days + 719468) % 146097) (Nat.mod_lt _ (by decide))
  generalize yearOfDay ((days + 719468) % 146097) = year at *
  obtain ⟨begun, left⟩ :=
    monthOfDay_spec ((days + 719468) % 146097 - daysBeforeYear year)
  have early : monthOfDay ((days + 719468) % 146097 - daysBeforeYear year) < 12 := by
    have long : daysInYear year ≤ 366 := by
      rcases daysInYear_cases year with ⟨_, days⟩ | ⟨_, days⟩ <;> omega
    unfold monthOfDay
    omega
  generalize monthOfDay ((days + 719468) % 146097 - daysBeforeYear year) = month at *
  have ends := daysInMonth_eq year early
  refine ⟨(days + 719468) / 146097, year, month,
    (days + 719468) % 146097 - daysBeforeYear year - daysBeforeMonth month,
    ⟨inside, early, ?_⟩, ?_⟩
  · omega
  · unfold eraDays
    omega

/-- The days that are counted for a date. -/
theorem daysFromCivil_dateIn (falls : Falls year month day) :
    daysFromCivil (dateIn era year month day).year (dateIn era year month day).month
      (dateIn era year month day).day = eraDays era year month day - 719468 := by
  obtain ⟨inside, early, _⟩ := falls
  unfold eraDays daysBeforeYear daysBeforeMonth
  by_cases before : month < 10
  · have spring : ¬ ((month + 3 : Nat) : Int) ≤ 2 := by omega
    have later : ((month + 3 : Nat) : Int) > 2 := by omega
    rw [dateIn_of_lt before]
    simp only [daysFromCivil, if_neg spring, if_pos later]
    omega
  · have spring : ((month - 9 : Nat) : Int) ≤ 2 := by omega
    have later : ¬ ((month - 9 : Nat) : Int) > 2 := by omega
    rw [dateIn_of_not_lt early before]
    simp only [daysFromCivil, if_pos spring, if_neg later]
    omega

/-- The calendar has every date of an era. -/
theorem valid_dateIn (falls : Falls year month day) : (dateIn era year month day).Valid := by
  obtain ⟨_, early, inMonth⟩ := falls
  have range : 1 ≤ calendarMonth month ∧ calendarMonth month ≤ 12 := by
    unfold calendarMonth
    split <;> omega
  refine ⟨range, Nat.succ_le_succ (Nat.zero_le day), ?_⟩
  have same : daysInMonth (dateIn era year month day).year (calendarMonth month) =
      daysInMonth (if month < 10 then year else year + 1) (calendarMonth month) := by
    by_cases before : month < 10
    · rw [dateIn_of_lt before, if_pos before]
      exact daysInMonth_add_era _ _ _
    · rw [dateIn_of_not_lt early before, if_neg before, ← daysInMonth_add_era era (year + 1),
        Nat.add_right_comm]
  exact same ▸ inMonth

/-- Every date of the calendar has its place in an era. -/
theorem Date.Valid.exists_falls (valid : date.Valid) (positive : 1 ≤ date.year) :
    ∃ era year month day, Falls year month day ∧ date = dateIn era year month day := by
  obtain ⟨⟨first, last⟩, start, stop⟩ := valid
  by_cases spring : date.month ≤ 2
  · have month : calendarMonth (date.month + 9) = date.month := by
      unfold calendarMonth
      split <;> omega
    refine ⟨(date.year - 1) / 400, (date.year - 1) % 400, date.month + 9, date.day - 1,
      ⟨Nat.mod_lt _ (by decide), by omega, ?_⟩, ?_⟩
    · rw [if_neg (by omega), month, ← daysInMonth_add_era ((date.year - 1) / 400),
        show (date.year - 1) % 400 + 1 + (date.year - 1) / 400 * 400 = date.year by omega]
      omega
    · rw [dateIn, month, if_pos spring]
      obtain ⟨year, _, day⟩ := date
      simp only [Date.mk.injEq, true_and]
      dsimp only at positive start
      omega
  · have month : calendarMonth (date.month - 3) = date.month := by
      unfold calendarMonth
      split <;> omega
    refine ⟨date.year / 400, date.year % 400, date.month - 3, date.day - 1,
      ⟨Nat.mod_lt _ (by decide), by omega, ?_⟩, ?_⟩
    · rw [if_pos (by omega), month, ← daysInMonth_add_era (date.year / 400),
        show date.year % 400 + date.year / 400 * 400 = date.year by omega]
      omega
    · rw [dateIn, month, if_neg spring]
      obtain ⟨year, _, day⟩ := date
      simp only [Date.mk.injEq, true_and]
      dsimp only at start
      omega

end Dates

/-! ## There and back -/

section Times

variable {days hour min sec ms : Nat} {date : Date}

theorem timegm_tmOf (month : 1 ≤ date.month ∧ date.month ≤ 12) (hour min sec : Nat) :
    timegm (tmOf date hour min sec) =
      60 * (60 * (24 * daysFromCivil date.year date.month date.day + hour) + min) + sec := by
  have same : ((date.month : Int) - 1) / 12 = 0 ∧
      ((date.month : Int) - 1) % 12 + 1 = date.month := by omega
  have year : (date.year : Int) - 1900 + 1900 + 0 = date.year := by omega
  simp only [timegm, tmOf, same.1, same.2, year]

theorem daysFromCivil_bounds {y m d : Int} (year : -1 ≤ y ∧ y ≤ 10007) (month : 1 ≤ m ∧ m ≤ 12)
    (day : 0 ≤ d ∧ d < 100) : -721000 ≤ daysFromCivil y m d ∧ daysFromCivil y m d ≤ 2936000 := by
  unfold daysFromCivil
  by_cases spring : m ≤ 2
  · simp only [if_pos spring, if_neg (show ¬ m > 2 by omega)]
    omega
  · simp only [if_neg spring, if_pos (show m > 2 by omega)]
    omega

/-- Whatever the digits, the time is not far from the years that they can write. -/
theorem timegm_bounds (written : Written date hour min sec ms) :
    -63000000000 ≤ timegm (tmOf date hour min sec) ∧
      timegm (tmOf date hour min sec) ≤ 254000000000 := by
  obtain ⟨year, month, day, hours, mins, secs, _⟩ := written
  have days := @daysFromCivil_bounds (date.year - 1900 + 1900 + ((date.month : Int) - 1) / 12)
    (((date.month : Int) - 1) % 12 + 1) date.day (by omega) (by omega) (by omega)
  simp only [timegm, tmOf]
  omega

/-- The years of four digits end with a day. -/
theorem year_dateOfDays_lt_iff (days : Nat) : (dateOfDays days).year < 10000 ↔ days < 2932897 := by
  obtain ⟨era, year, month, day, falls, same⟩ := exists_falls days
  obtain ⟨inMonth, inYear⟩ := falls.inside
  have inEra := daysBeforeYear_le falls.inEra
  have early := falls.inEra
  have many := falls.inYear
  have long : daysInYear year ≤ 366 := by
    rcases daysInYear_cases year with ⟨_, days⟩ | ⟨_, days⟩ <;> omega
  rw [dateOfDays_eq falls same]
  unfold eraDays at same
  unfold daysBeforeYear at same inEra
  unfold daysBeforeMonth at same inMonth inYear
  have eras : era < 24 ∨ era = 24 ∨ 24 < era := by omega
  by_cases before : month < 10
  · rw [dateIn_of_lt before]
    dsimp only
    rcases eras with former | rfl | later <;> omega
  · rw [dateIn_of_not_lt many before]
    dsimp only
    rcases eras with former | rfl | later <;> omega

/-- The year of a date is near to its era. -/
theorem year_dateOfDays_bounds (days : Nat) :
    (days + 719468) / 146097 * 400 ≤ (dateOfDays days).year ∧
      (dateOfDays days).year ≤ (days + 719468) / 146097 * 400 + 400 := by
  obtain ⟨era, year, month, day, falls, same⟩ := exists_falls days
  have inYear := falls.inside.2
  have inEra := daysBeforeYear_le falls.inEra
  have early := falls.inEra
  have eras : (days + 719468) / 146097 = era := by
    unfold eraDays at same
    omega
  rw [dateOfDays_eq falls same, eras, dateIn]
  dsimp only
  split <;> omega

/-- What is read of digits names no year whose text starts with a digit, unless it has four. -/
theorem isDigit_leading {days : Nat} (late : ¬ (dateOfDays days).year < 10000)
    (read : days < 2940000 ∨ 213503250000 ≤ days ∧ days ≤ 213503982334) :
    isDigit (UInt8.ofNat ((dateOfDays days).year / 1000 + 48)) = false := by
  obtain ⟨lower, upper⟩ := year_dateOfDays_bounds days
  have thousands : (dateOfDays days).year / 1000 = 10 ∨
      584552 ≤ (dateOfDays days).year / 1000 ∧ (dateOfDays days).year / 1000 ≤ 584556 := by
    rcases read with soon | ⟨far, last⟩
    · left
      have eras : (days + 719468) / 146097 ≤ 25 := by omega
      omega
    · right
      have eras : 1461380 ≤ (days + 719468) / 146097 ∧ (days + 719468) / 146097 ≤ 1461390 := by
        omega
      omega
  have apart : ∀ thousand, thousand = 10 ∨ 584552 ≤ thousand ∧ thousand ≤ 584556 →
      ¬ (48 ≤ (thousand + 48) % 2 ^ 8 ∧ (thousand + 48) % 2 ^ 8 ≤ 57) := by
    rintro thousand (rfl | ⟨least, most⟩)
    · decide
    · interval_cases thousand <;> decide
  simp only [isDigit, decide_eq_false_iff_not, UInt8.le_iff_toNat_le, UInt8.toNat_ofNat',
    UInt8.reduceToNat]
  exact apart _ thousands

theorem toNat_msTime {t : Int} (range : -63000000000 ≤ t ∧ t ≤ 254000000000) (fits : ms < 1000) :
    (UInt64.ofInt t * 1000 + UInt64.ofInt ms).toNat =
      if 0 ≤ t then t.toNat * 1000 + ms else 2 ^ 64 - (-t).toNat * 1000 + ms := by
  have thousand : (1000 : UInt64).toNat = 1000 := rfl
  rw [UInt64.toNat_add, UInt64.toNat_mul, UInt64.ofInt, UInt64.ofInt, UInt64.toNat_ofNat',
    UInt64.toNat_ofNat', thousand]
  split <;> omega

/-- A text that does not start with a digit is not read. -/
theorem generalizedTimeToMsTime_of_not_isDigit (mktime : Tm → Int) {text : CString}
    (wrong : ∀ first ∈ text.val.head?, isDigit first = false) :
    generalizedTimeToMsTime mktime text = some (-1) := by
  unfold generalizedTimeToMsTime
  by_cases short : text.val.length < 14
  · rw [if_pos short]
    rfl
  · obtain ⟨octets, absent⟩ := text
    cases octets with
    | nil => exact absurd short (by simp)
    | cons first rest =>
        have unread : digitsToInt (first :: rest) 4 = some (-1) := by
          have none := wrong first rfl
          simp [digitsToInt, digitsLoop, checkedInt, digitToInt, none]
        rw [if_neg short]
        change (digitsToInt (first :: rest) 4).bind _ = some (-1)
        rw [unread]
        rfl

theorem zero_notMem_intToStringBuffer {number digits : Nat} (fits : number < 10 ^ digits) :
    0 ∉ intToStringBuffer number digits := by
  induction digits generalizing number with
  | zero => exact List.not_mem_nil
  | succ digits ih =>
      intro member
      rcases List.mem_cons.mp member with first | later
      · have digit := isDigit_digit (leading_lt fits)
        rw [← first] at digit
        contradiction
      · exact ih (Nat.mod_lt _ (Nat.pow_pos (by decide))) later

/-- The text has no NUL behind its first character. -/
theorem zero_notMem_tail (month : date.month < 100) (day : date.day < 100) (hours : hour < 100)
    (mins : min < 100) (secs : sec < 100) (fits : ms < 1000) :
    0 ∉ (calendarText date hour min sec ms).tail := by
  have pair : ∀ {number : Nat}, number < 100 → 0 ∉ intToStringBuffer number 2 :=
    fun small => zero_notMem_intToStringBuffer small
  have year : 0 ∉ intToStringBuffer (date.year % 1000) 3 :=
    zero_notMem_intToStringBuffer (Nat.mod_lt _ (by decide))
  have milliseconds : 0 ∉ intToStringBuffer ms 3 := zero_notMem_intToStringBuffer fits
  change 0 ∉ intToStringBuffer (date.year % 1000) 3 ++ _
  simp [year, pair month, pair day, pair hours, pair mins, pair secs, milliseconds]

/-- A date and a time of the day, as they are found. -/
theorem dateOfDays_small (days : Nat) :
    (dateOfDays days).Valid ∧ (dateOfDays days).month < 100 ∧ (dateOfDays days).day < 100 := by
  obtain ⟨era, year, month, day, falls, same⟩ := exists_falls days
  have valid := @valid_dateIn era year month day falls
  rw [dateOfDays_eq falls same]
  obtain ⟨⟨_, few⟩, _, last⟩ := valid
  have short : ∀ year month, daysInMonth year month ≤ 31 := by
    intro year month
    unfold daysInMonth
    split
    · split <;> decide
    · split <;> decide
  exact ⟨valid_dateIn falls, by omega, Nat.lt_of_le_of_lt (last.trans (short _ _)) (by decide)⟩

/-- The days that are counted for the date of a day. -/
theorem daysFromCivil_dateOfDays (days : Nat) :
    daysFromCivil (dateOfDays days).year (dateOfDays days).month (dateOfDays days).day = days := by
  obtain ⟨era, year, month, day, falls, same⟩ := exists_falls days
  rw [dateOfDays_eq falls same, daysFromCivil_dateIn falls, ← same]
  omega

/-- The date whose year is written with four digits like another one. -/
def Date.shown (date : Date) : Date :=
  { date with year := ((date.year / 1000 + 48) % 256 - 48) * 1000 + date.year % 1000 }

theorem Date.shown_of_lt (early : date.year < 10000) : date.shown = date := by
  obtain ⟨year, month, day⟩ := date
  dsimp only at early
  simp only [Date.shown, Date.mk.injEq, and_true]
  omega

/-- A text that starts with a digit is that of a year with four digits. -/
theorem calendarText_shown
    (digit : isDigit (UInt8.ofNat (date.year / 1000 + 48)) = true) :
    calendarText date hour min sec ms = calendarText date.shown hour min sec ms ∧
      date.shown.year < 10000 := by
  simp only [isDigit, decide_eq_true_eq, UInt8.le_iff_toNat_le, UInt8.toNat_ofNat',
    UInt8.reduceToNat] at digit
  have thousand : date.shown.year / 1000 = (date.year / 1000 + 48) % 256 - 48 := by
    dsimp only [Date.shown]
    omega
  have rest : date.shown.year % 1000 = date.year % 1000 := by
    dsimp only [Date.shown]
    omega
  have first : UInt8.ofNat (date.shown.year / 1000 + 48) = UInt8.ofNat (date.year / 1000 + 48) := by
    rw [← UInt8.toNat_inj, UInt8.toNat_ofNat', UInt8.toNat_ofNat', thousand]
    omega
  refine ⟨?_, by omega⟩
  have text : ∀ date : Date, calendarText date hour min sec ms =
      UInt8.ofNat (date.year / 1000 + 48) :: (intToStringBuffer (date.year % 1000) 3 ++
        (calendarText date hour min sec ms).drop 4) := fun _ => rfl
  rw [text date, text date.shown, first, rest]
  rfl

/-- What is read of the text of a time. -/
theorem generalizedTimeToMsTime_msTimeToGeneralizedTime (mktime : Tm → Int) (msTime : Nat)
    (digit : isDigit (UInt8.ofNat ((dateOfDays (msTime / 1000 / 86400)).year / 1000 + 48)) =
      true) :
    Written (dateOfDays (msTime / 1000 / 86400)).shown (msTime / 1000 / 3600 % 24)
        (msTime / 1000 / 60 % 60) (msTime / 1000 % 60) (msTime % 1000) ∧
      generalizedTimeToMsTime mktime (.ofStorage (msTimeToGeneralizedTime msTime)) =
        some (UInt64.ofInt (timegm (tmOf (dateOfDays (msTime / 1000 / 86400)).shown
          (msTime / 1000 / 3600 % 24) (msTime / 1000 / 60 % 60) (msTime / 1000 % 60))) * 1000 +
            UInt64.ofInt (msTime % 1000 : Nat)) := by
  obtain ⟨_, month, day⟩ := dateOfDays_small (msTime / 1000 / 86400)
  obtain ⟨same, year⟩ := @calendarText_shown (msTime / 1000 / 3600 % 24)
    (msTime / 1000 / 60 % 60) (msTime / 1000 % 60) (msTime % 1000) _ digit
  have written : Written (dateOfDays (msTime / 1000 / 86400)).shown (msTime / 1000 / 3600 % 24)
      (msTime / 1000 / 60 % 60) (msTime / 1000 % 60) (msTime % 1000) :=
    ⟨year, month, day, by omega, by omega, by omega, by omega⟩
  refine ⟨written, generalizedTimeToMsTime_calendarText mktime ?_ written⟩
  rw [← same]
  have absent := @zero_notMem_tail (msTime / 1000 / 3600 % 24) (msTime / 1000 / 60 % 60)
    (msTime / 1000 % 60) (msTime % 1000) _ month day (by omega) (by omega) (by omega) (by omega)
  change cString _ = _
  rw [msTimeToGeneralizedTime_eq, cString_append_zero]
  apply cString_eq_self
  intro member
  rcases List.mem_cons.mp member with first | later
  · have terminator :
        UInt8.ofNat ((dateOfDays (msTime / 1000 / 86400)).year / 1000 + 48) = 0 := first.symm
    rw [terminator] at digit
    contradiction
  · exact absent later

/-- A text that does not start with a digit. -/
theorem generalizedTimeToMsTime_of_late (mktime : Tm → Int) (msTime : Nat)
    (wrong : isDigit (UInt8.ofNat ((dateOfDays (msTime / 1000 / 86400)).year / 1000 + 48)) =
      false) :
    generalizedTimeToMsTime mktime (.ofStorage (msTimeToGeneralizedTime msTime)) =
      some (-1) := by
  apply generalizedTimeToMsTime_of_not_isDigit
  intro first found
  have head : first ∈ (msTimeToGeneralizedTime msTime).head? := by
    change first ∈ (cString (msTimeToGeneralizedTime msTime)).head? at found
    rw [cString, List.head?_takeWhile] at found
    exact (Option.mem_filter_iff.mp found).1
  rw [msTimeToGeneralizedTime_eq] at head
  obtain rfl := Option.some.inj head
  exact wrong

/-- A time makes the round trip through its text exactly if its year has four digits, or if it is
the last time of all, which is the answer for a text that cannot be read. -/
theorem generalizedTime_roundTrip_iff (mktime : Tm → Int) (msTime : UInt64) :
    generalizedTimeToMsTime mktime (.ofStorage (msTimeToGeneralizedTime msTime.toNat)) =
        some msTime ↔
      msTime.toNat < 253402300800000 ∨ msTime = -1 := by
  have bounded := msTime.toNat_lt
  have fourDigits := year_dateOfDays_lt_iff (msTime.toNat / 1000 / 86400)
  have civil := daysFromCivil_dateOfDays (msTime.toNat / 1000 / 86400)
  have month := (dateOfDays_small (msTime.toNat / 1000 / 86400)).1.month
  have read := generalizedTimeToMsTime_msTimeToGeneralizedTime mktime msTime.toNat
  have unread := generalizedTimeToMsTime_of_late mktime msTime.toNat
  have leading := @isDigit_leading (msTime.toNat / 1000 / 86400)
  by_cases early : (dateOfDays (msTime.toNat / 1000 / 86400)).year < 10000
  · have digit := isDigit_digit (show (dateOfDays (msTime.toNat / 1000 / 86400)).year / 1000 < 10 by
      omega)
    obtain ⟨written, same⟩ := read digit
    rw [Date.shown_of_lt early] at written same
    have time := timegm_tmOf month (msTime.toNat / 1000 / 3600 % 24)
      (msTime.toNat / 1000 / 60 % 60) (msTime.toNat / 1000 % 60)
    rw [civil] at time
    have back := toNat_msTime (timegm_bounds written) written.ms
    have small := fourDigits.mp early
    refine iff_of_true ?_ (.inl (by omega))
    rw [same]
    congr 1
    rw [← UInt64.toNat_inj, back, time, if_pos (by omega)]
    omega
  · have late : ¬ msTime.toNat < 253402300800000 := by omega
    cases digit : isDigit
        (UInt8.ofNat ((dateOfDays (msTime.toNat / 1000 / 86400)).year / 1000 + 48)) with
    | false => simp [unread digit, late, eq_comm]
    | true =>
        obtain ⟨written, same⟩ := read digit
        have range := timegm_bounds written
        have back := toNat_msTime range written.ms
        refine iff_of_false (fun returned => ?_) (not_or.mpr ⟨late, ?_⟩)
        · have equal := Option.some.inj (same.symm.trans returned)
          rw [equal] at back
          rw [leading early (by split at back <;> omega)] at digit
          contradiction
        · rintro rfl
          rw [leading early (by decide)] at digit
          contradiction

/-- Texts with the same characters have the same digits everywhere. -/
theorem calendarText_inj {other : Date} {otherHour otherMin otherSec otherMs : Nat}
    (written : Written date hour min sec ms)
    (otherWritten : Written other otherHour otherMin otherSec otherMs)
    (same : calendarText date hour min sec ms =
      calendarText other otherHour otherMin otherSec otherMs) :
    date = other ∧ hour = otherHour ∧ min = otherMin ∧ sec = otherSec := by
  have pair : ∀ {number other : Nat} {rest otherRest : List UInt8}, number < 100 → other < 100 →
      intToStringBuffer number 2 ++ rest = intToStringBuffer other 2 ++ otherRest →
      number = other ∧ rest = otherRest := by
    intro number other rest otherRest small otherSmall equal
    obtain ⟨digits, behind⟩ := List.append_inj equal (by simp only [length_intToStringBuffer])
    exact ⟨intToStringBuffer_inj small otherSmall (by decide) digits, behind⟩
  obtain ⟨digits, behind⟩ := List.append_inj same (by simp only [length_intToStringBuffer])
  have years := intToStringBuffer_inj written.year otherWritten.year (by decide) digits
  obtain ⟨months, behind⟩ := pair written.month otherWritten.month behind
  obtain ⟨days, behind⟩ := pair written.day otherWritten.day behind
  obtain ⟨hours, behind⟩ := pair written.hour otherWritten.hour behind
  obtain ⟨mins, behind⟩ := pair written.min otherWritten.min behind
  obtain ⟨secs, _⟩ := pair written.sec otherWritten.sec behind
  obtain ⟨_, _, _⟩ := date
  obtain ⟨_, _, _⟩ := other
  dsimp only at years months days
  exact ⟨by rw [years, months, days], hours, mins, secs⟩

/-- The epoch is the start of its year. -/
theorem year_dateIn_ge_iff {era year month day : Nat} (falls : Falls year month day) :
    1970 ≤ (dateIn era year month day).year ↔ 719468 ≤ eraDays era year month day := by
  obtain ⟨inMonth, inYear⟩ := falls.inside
  have inEra := daysBeforeYear_le falls.inEra
  have early := falls.inEra
  have many := falls.inYear
  have long : daysInYear year ≤ 366 := by
    rcases daysInYear_cases year with ⟨_, days⟩ | ⟨_, days⟩ <;> omega
  unfold eraDays
  unfold daysBeforeYear at inEra ⊢
  unfold daysBeforeMonth at inMonth inYear ⊢
  have eras : era < 4 ∨ era = 4 ∨ 4 < era := by omega
  have centuries : year / 100 ≤ 3 := by omega
  by_cases before : month < 10
  · rw [dateIn_of_lt before]
    dsimp only
    rcases eras with former | rfl | later <;> omega
  · rw [dateIn_of_not_lt many before]
    dsimp only
    rcases eras with former | rfl | later <;> omega

/-- A date is found again for its days. -/
theorem dateOfDays_daysFromCivil (valid : date.Valid) (since : 1970 ≤ date.year) :
    ∃ days : Nat, daysFromCivil date.year date.month date.day = days ∧ dateOfDays days = date := by
  obtain ⟨era, year, month, day, falls, rfl⟩ := valid.exists_falls (by omega)
  have counted := @daysFromCivil_dateIn era year month day falls
  have late := (year_dateIn_ge_iff falls).mp since
  exact ⟨eraDays era year month day - 719468, by omega, dateOfDays_eq falls (by omega)⟩

/-- The years of the dates that are found start with the epoch. -/
theorem le_year_dateOfDays (days : Nat) : 1970 ≤ (dateOfDays days).year := by
  obtain ⟨era, year, month, day, falls, same⟩ := exists_falls days
  rw [dateOfDays_eq falls same]
  exact (year_dateIn_ge_iff falls).mpr (by omega)

/-- A text of seventeen digits with a point before the last three and a `Z` behind them comes back
from the time that is read of it exactly if it is that of a day of the calendar since the epoch and
of a time of the day. -/
theorem calendarText_returns_iff (mktime : Tm → Int) {text : CString}
    (shape : text.val = calendarText date hour min sec ms)
    (written : Written date hour min sec ms) :
    (∃ msTime, generalizedTimeToMsTime mktime text = some msTime ∧
        msTimeToGeneralizedTime msTime.toNat = text.val ++ [0]) ↔
      date.Valid ∧ 1970 ≤ date.year ∧ hour < 24 ∧ min < 60 ∧ sec < 60 := by
  have read := generalizedTimeToMsTime_calendarText mktime shape written
  have range := timegm_bounds written
  have time := toNat_msTime range written.ms
  rw [shape, read]
  simp only [Option.some.injEq, exists_eq_left']
  rw [msTimeToGeneralizedTime_eq, List.append_cancel_right_eq]
  constructor
  · intro same
    generalize msTime_eq : (UInt64.ofInt (timegm (tmOf date hour min sec)) * 1000 +
      UInt64.ofInt ms).toNat = msTime at same time
    obtain ⟨valid, month, day⟩ := dateOfDays_small (msTime / 1000 / 86400)
    have since := le_year_dateOfDays (msTime / 1000 / 86400)
    have digit : isDigit (UInt8.ofNat ((dateOfDays (msTime / 1000 / 86400)).year / 1000 + 48)) =
        true := by
      have first := Option.some.inj (congrArg List.head? same)
      have few := written.year
      exact (congrArg isDigit first).trans (isDigit_digit (show date.year / 1000 < 10 by omega))
    have early : (dateOfDays (msTime / 1000 / 86400)).year < 10000 := by
      by_contra late
      have few := written.ms
      have read : msTime / 1000 / 86400 < 2940000 ∨
          213503250000 ≤ msTime / 1000 / 86400 ∧ msTime / 1000 / 86400 ≤ 213503982334 := by
        split at time <;> omega
      rw [isDigit_leading late read] at digit
      contradiction
    obtain ⟨rfl, rfl, rfl, rfl⟩ := calendarText_inj
      ⟨early, month, day, by omega, by omega, by omega, by omega⟩ written same
    exact ⟨valid, since, by omega, by omega, by omega⟩
  · rintro ⟨valid, since, hours, mins, secs⟩
    obtain ⟨days, counted, found⟩ := dateOfDays_daysFromCivil valid since
    have filled := timegm_tmOf valid.month hour min sec
    rw [counted] at filled
    have fits := written.ms
    have total : (UInt64.ofInt (timegm (tmOf date hour min sec)) * 1000 + UInt64.ofInt ms).toNat =
        (86400 * days + 3600 * hour + 60 * min + sec) * 1000 + ms := by
      rw [filled, if_pos (by omega)] at time
      rw [filled, time]
      omega
    generalize (UInt64.ofInt (timegm (tmOf date hour min sec)) * 1000 +
      UInt64.ofInt ms).toNat = msTime at total
    obtain ⟨one, two, three, four, five⟩ : msTime / 1000 / 86400 = days ∧
        msTime / 1000 / 3600 % 24 = hour ∧ msTime / 1000 / 60 % 60 = min ∧
        msTime / 1000 % 60 = sec ∧ msTime % 1000 = ms := by omega
    rw [one, two, three, four, five, found]

/-- The last millisecond of a leap day comes back. -/
theorem calendarText_returns_iff_leapDay :
    ∃ text : CString, text.val = calendarText ⟨2024, 2, 29⟩ 23 59 59 999 ∧
      ((∃ msTime, generalizedTimeToMsTime (fun _ => 0) text = some msTime ∧
          msTimeToGeneralizedTime msTime.toNat = text.val ++ [0]) ↔
        Date.Valid ⟨2024, 2, 29⟩ ∧ 1970 ≤ 2024 ∧ 23 < 24 ∧ 59 < 60 ∧ 59 < 60) :=
  ⟨⟨calendarText ⟨2024, 2, 29⟩ 23 59 59 999, by decide⟩, rfl,
    calendarText_returns_iff (fun _ => 0) rfl
      ⟨by decide, by decide, by decide, by decide, by decide, by decide, by decide⟩⟩

end Times

end Conversions

end GridGooseSV
