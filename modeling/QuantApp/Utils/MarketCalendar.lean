import Mathlib.Data.Finset.Card
import Mathlib.Data.Prod.Lex
import QuantApp.Verified.BoundedScan

/-!
# The exchange calendar

`utils/market_calendar.py` on New York wall-clock times, a date being its day number since
1970-01-01: the recurring closures, the session a time belongs to and the next regular open.
A date that does not exist raises, so the calendar is total only while the next year has a date.
No thirty-nine days in a row are closed: there are
five whole weeks in them, and two years have no more than twenty-two closures.
-/

namespace QuantApp.Utils
open Verified

/-! ## Dates -/

def minDate : Int := -719162
def maxDate : Int := 2932896

/-- The first of January of a year. -/
def newYear (year : Int) : Int :=
  (year - 1) * 365 + (year - 1) / 4 - (year - 1) / 100 + (year - 1) / 400 + minDate

/-- `date.year`. -/
def dateYear (day : Int) : Int :=
  let year := (day - minDate) * 400 / 146097 + 1
  if day < newYear year then year - 1 else if newYear (year + 1) ≤ day then year + 1 else year

/-- `date.weekday()`: Monday is 0. -/
def weekday (day : Int) : Int := (day + 3) % 7

def isLeap (year : Int) : Bool := year % 4 = 0 ∧ (year % 100 ≠ 0 ∨ year % 400 = 0)

def daysInMonth (year month : Int) : Int :=
  if month = 2 then (if isLeap year then 29 else 28)
  else if month = 4 ∨ month = 6 ∨ month = 9 ∨ month = 11 then 30 else 31

def daysBeforeMonth (year month : Int) : Int :=
  (367 * month - 362) / 12 - (if month ≤ 2 then 0 else if isLeap year then 1 else 2)

/-- `dt.date(year, month, day)`; `none` is the `ValueError` of a date that does not exist. -/
def dateOf (year month day : Int) : Option Int :=
  if 1 ≤ year ∧ year ≤ 9999 ∧ 1 ≤ month ∧ month ≤ 12 ∧ 1 ≤ day ∧ day ≤ daysInMonth year month then
    some (newYear year + daysBeforeMonth year month + day - 1)
  else none

/-! ## The closures of a year

No sum of a date and a `timedelta` that is made here leaves the range of dates: the first year
begins on a Monday, and the last has no next New Year's Day. -/

def nearestWeekday (day : Int) : Int :=
  if weekday day = 5 then day - 1 else if weekday day = 6 then day + 1 else day

/-- What `_easter_sunday` divides by 31 for the month and the day. -/
def easterCount (year : Int) : Int :=
  let a := year % 19
  let b := year / 100
  let c := year % 100
  let d := b / 4
  let e := b % 4
  let f := (b + 8) / 25
  let g := (b - f + 1) / 3
  let h := (19 * a + b - d - g + 15) % 30
  let i := c / 4
  let k := c % 4
  let correction := (32 + 2 * e + 2 * i - h - k) % 7
  let m := (a + 11 * h + 22 * correction) / 451
  114 + h + correction - 7 * m

def easterSunday (year : Int) : Option Int :=
  dateOf year (easterCount year / 31) (easterCount year % 31 + 1)

def nthWeekday (year month day n : Int) : Option Int := do
  let first ← dateOf year month 1
  pure (first + ((day - weekday first) % 7 + 7 * (n - 1)))

def lastWeekday (year month day : Int) : Option Int := do
  let nextMonth ← if month = 12 then dateOf (year + 1) 1 1 else dateOf year (month + 1) 1
  let last := nextMonth - 1
  pure (last - (weekday last - day) % 7)

def nyseHolidays (year : Int) : Option (List Int) := do
  let newYearObserved := nearestWeekday (← dateOf year 1 1)
  let kingDay ← nthWeekday year 1 0 3
  let presidentsDay ← nthWeekday year 2 0 3
  let goodFriday := (← easterSunday year) - 2
  let memorialDay ← lastWeekday year 5 0
  let juneteenth := nearestWeekday (← dateOf year 6 19)
  let independenceDay := nearestWeekday (← dateOf year 7 4)
  let labourDay ← nthWeekday year 9 0 1
  let thanksgiving ← nthWeekday year 11 3 4
  let christmas := nearestWeekday (← dateOf year 12 25)
  let holidays := [newYearObserved, kingDay, presidentsDay, goodFriday, memorialDay, juneteenth,
    independenceDay, labourDay, thanksgiving, christmas]
  -- the next New Year's Day may be observed on the last day of this year
  let nextNewYearObserved := nearestWeekday (← dateOf (year + 1) 1 1)
  let holidays := if dateYear nextNewYearObserved = year then holidays ++ [nextNewYearObserved]
    else holidays
  pure (holidays.filter (fun day => dateYear day = year))

/-- `is_nyse_trading_day`; `none` also stands for a day past the last date, on which the sum
that leads there raises. -/
def isNyseTradingDay (day : Int) : Option Bool :=
  if day < minDate ∨ maxDate < day then none
  else if weekday day < 5 then do
    let holidays ← nyseHolidays (dateYear day)
    pure (day ∉ holidays)
  else some false

/-! ## Sessions -/

/-- A New York wall-clock time: its date and the microseconds of its day. -/
abbrev WallClock := Int ×ₗ Int

abbrev WallClock.date (moment : WallClock) : Int := (ofLex moment).1
abbrev WallClock.time (moment : WallClock) : Int := (ofLex moment).2

/-- `dt.time(hour, minute)`. -/
def timeOfDay (hour minute : Int) : Int := (hour * 60 + minute) * 60000000

def usMarketOpenTime : Int := timeOfDay 9 30
def usMarketCloseTime : Int := timeOfDay 16 0
def usMarketEarlyCloseTime : Int := timeOfDay 13 0

def nyseRegularSessionCloseTime (day : Int) : Option Int := do
  let year := dateYear day
  let thanksgiving ← nthWeekday year 11 3 4
  let dayAfterThanksgiving := thanksgiving + 1
  let christmasEve ← dateOf year 12 24
  let julyThird ← dateOf year 7 3
  let earlyClose := day = dayAfterThanksgiving ∨ (day = christmasEve ∧ weekday day < 5)
  let earlyClose ← if earlyClose then pure true
    else if day = julyThird ∧ weekday day < 5 then do
      let holidays ← nyseHolidays year
      pure (decide (day ∉ holidays))
    else pure false
  pure (if earlyClose then usMarketEarlyCloseTime else usMarketCloseTime)

/-- A trading day at a time before its close. -/
def beforeClose (moment : WallClock) : Option Bool := do
  if ← isNyseTradingDay moment.date then
    let close ← nyseRegularSessionCloseTime moment.date
    pure (decide (moment.time < close))
  else pure false

def isRegularSessionOpen (moment : WallClock) : Option Bool := do
  if ← isNyseTradingDay moment.date then
    if usMarketOpenTime ≤ moment.time then
      let close ← nyseRegularSessionCloseTime moment.date
      pure (decide (moment.time < close))
    else pure false
  else pure false

/-- `next_nyse_trading_day`, by no more than so many days; `none` is also a loop still going. -/
def nextNyseTradingDay (fuel : Nat) (day : Int) : Option Int := scan isNyseTradingDay fuel day

def currentOrNextNyseSessionDate (fuel : Nat) (moment : WallClock) : Option Int := do
  if ← beforeClose moment then pure moment.date else nextNyseTradingDay fuel (moment.date + 1)

/-- Whether a candidate of `next_nyse_regular_session_open` is taken. -/
def opensAfter (moment : WallClock) (candidate : Int) : Option Bool := do
  let trading ← isNyseTradingDay candidate
  pure (trading && decide (moment < toLex (candidate, usMarketOpenTime)))

/-- `next_nyse_regular_session_open`; past its last candidate it raises. -/
def nextNyseRegularSessionOpen (moment : WallClock) : Option WallClock := do
  let candidate ← scan (opensAfter moment) 370 moment.date
  pure (toLex (candidate, usMarketOpenTime))

/-! ## The calendar is total -/

theorem dateYear_bounds (day : Int) :
    newYear (dateYear day) ≤ day ∧ day < newYear (dateYear day + 1) := by
  unfold dateYear
  generalize hYear : (day - minDate) * 400 / 146097 + 1 = year
  dsimp only
  split_ifs with hBefore hAfter
  · refine ⟨?_, by rwa [sub_add_cancel]⟩
    simp only [newYear, minDate] at *
    omega
  · refine ⟨hAfter, ?_⟩
    simp only [newYear, minDate] at *
    omega
  · exact ⟨not_lt.mp hBefore, not_le.mp hAfter⟩

theorem newYear_gap {year later : Int} (h : year < later) : newYear year + 365 ≤ newYear later := by
  simp only [newYear]
  omega

section Constructed

variable {year month day n : Int}

theorem le_daysInMonth (h : day ≤ 28) : day ≤ daysInMonth year month := by
  unfold daysInMonth
  split_ifs <;> omega

theorem dateOf_ok (year month day : Int)
    (hDate : 1 ≤ year ∧ year ≤ 9999 ∧ 1 ≤ month ∧ month ≤ 12 ∧ 1 ≤ day)
    (hDay : day ≤ daysInMonth year month) : ∃ date, dateOf year month day = some date :=
  ⟨_, if_pos ⟨hDate.1, hDate.2.1, hDate.2.2.1, hDate.2.2.2.1, hDate.2.2.2.2, hDay⟩⟩

theorem early_ok (year month day : Int) (hYear : 1 ≤ year ∧ year ≤ 9999)
    (hDate : 1 ≤ month ∧ month ≤ 12 ∧ 1 ≤ day ∧ day ≤ 28) :
    ∃ date, dateOf year month day = some date :=
  dateOf_ok year month day ⟨hYear.1, hYear.2, hDate.1, hDate.2.1, hDate.2.2.1⟩
    (le_daysInMonth hDate.2.2.2)

theorem easterCount_bounds (year : Int) : 107 ≤ easterCount year ∧ easterCount year ≤ 149 := by
  unfold easterCount
  dsimp only
  omega

variable (hYear : 1 ≤ year ∧ year ≤ 9998)
include hYear

theorem nthWeekday_ok (month day n : Int) (hMonth : 1 ≤ month ∧ month ≤ 12) :
    ∃ date, nthWeekday year month day n = some date := by
  obtain ⟨first, hFirst⟩ := early_ok year month 1 (by omega) ⟨hMonth.1, hMonth.2, by decide⟩
  exact ⟨_, by rw [nthWeekday, hFirst]; rfl⟩

theorem memorialDay_ok : ∃ date, lastWeekday year 5 0 = some date := by
  obtain ⟨june, hJune⟩ := early_ok year 6 1 (by omega) (by decide)
  exact ⟨june - 1 - (weekday (june - 1) - 0) % 7, by simp [lastWeekday, hJune]⟩

theorem easterSunday_ok : ∃ date, easterSunday year = some date := by
  have hCount := easterCount_bounds year
  refine dateOf_ok year _ _ (by omega) ?_
  unfold daysInMonth
  split_ifs <;> omega

theorem nyseHolidays_ok : ∃ holidays, nyseHolidays year = some holidays ∧ holidays.length ≤ 11 := by
  have hRange : 1 ≤ year ∧ year ≤ 9999 := by omega
  obtain ⟨_, hFirst⟩ := early_ok year 1 1 hRange (by decide)
  obtain ⟨_, hKing⟩ := nthWeekday_ok hYear 1 0 3 (by decide)
  obtain ⟨_, hPresidents⟩ := nthWeekday_ok hYear 2 0 3 (by decide)
  obtain ⟨_, hEaster⟩ := easterSunday_ok hYear
  obtain ⟨_, hMemorial⟩ := memorialDay_ok hYear
  obtain ⟨_, hJune⟩ := early_ok year 6 19 hRange (by decide)
  obtain ⟨_, hJuly⟩ := early_ok year 7 4 hRange (by decide)
  obtain ⟨_, hLabour⟩ := nthWeekday_ok hYear 9 0 1 (by decide)
  obtain ⟨_, hThanksgiving⟩ := nthWeekday_ok hYear 11 3 4 (by decide)
  obtain ⟨_, hDecember⟩ := early_ok year 12 25 hRange (by decide)
  obtain ⟨_, hNext⟩ := early_ok (year + 1) 1 1 (by omega) (by decide)
  simp only [nyseHolidays, hFirst, hKing, hPresidents, hEaster, hMemorial, hJune, hJuly, hLabour,
    hThanksgiving, hDecember, hNext, Option.bind_eq_bind, Option.bind_some, Option.pure_def]
  refine ⟨_, rfl, (List.length_filter_le _ _).trans ?_⟩
  split_ifs <;> simp

end Constructed

variable {day start : Int} {moment : WallClock}

theorem dateYear_mono {later : Int} (h : day ≤ later) : dateYear day ≤ dateYear later := by
  by_contra hBefore
  have hDay := dateYear_bounds day
  have hLater := dateYear_bounds later
  obtain hEq | hLt := (by omega : dateYear later + 1 ≤ dateYear day).eq_or_lt
  · rw [hEq] at hLater
    omega
  · have hGap := newYear_gap hLt
    omega

theorem dateYear_range (h : minDate ≤ day ∧ day < newYear 9999) :
    1 ≤ dateYear day ∧ dateYear day ≤ 9998 :=
  ⟨dateYear_mono h.1, dateYear_mono (Int.le_sub_one_of_lt h.2)⟩

theorem isNyseTradingDay_ok (h : minDate ≤ day ∧ day < newYear 9999) :
    ∃ trading, isNyseTradingDay day = some trading := by
  obtain ⟨holidays, hHolidays, -⟩ := nyseHolidays_ok (dateYear_range h)
  have hMax : newYear 9999 ≤ maxDate := by decide
  simp only [isNyseTradingDay, if_neg (by omega : ¬(day < minDate ∨ maxDate < day)), hHolidays]
  split_ifs <;> exact ⟨_, rfl⟩

theorem nyseRegularSessionCloseTime_ok (h : minDate ≤ day ∧ day < newYear 9999) :
    ∃ close, nyseRegularSessionCloseTime day = some close := by
  have hYear := dateYear_range h
  obtain ⟨_, hThanksgiving⟩ := nthWeekday_ok hYear 11 3 4 (by decide)
  obtain ⟨_, hEve⟩ := early_ok (dateYear day) 12 24 (by omega) (by decide)
  obtain ⟨_, hThird⟩ := early_ok (dateYear day) 7 3 (by omega) (by decide)
  obtain ⟨_, hHolidays, -⟩ := nyseHolidays_ok hYear
  simp only [nyseRegularSessionCloseTime, hThanksgiving, hEve, hThird, hHolidays,
    Option.bind_eq_bind, Option.bind_some, Option.pure_def]
  split_ifs <;> exact ⟨_, rfl⟩

/-! ## No run of closed days is long -/

/-- `nyse_holidays` where it does not raise. -/
def closures (year : Int) : List Int := (nyseHolidays year).getD []

theorem closures_length {year : Int} (hYear : 1 ≤ year ∧ year ≤ 9999) :
    (closures year).length ≤ 11 := by
  obtain hLast | rfl := hYear.2.lt_or_eq
  · obtain ⟨holidays, hHolidays, hLength⟩ := nyseHolidays_ok ⟨hYear.1, Int.le_sub_one_of_lt hLast⟩
    rwa [closures, hHolidays]
  · decide +kernel

theorem mem_closures (hClosed : isNyseTradingDay day = some false) (hWeekday : weekday day < 5) :
    day ∈ closures (dateYear day) := by
  rw [isNyseTradingDay, if_pos hWeekday] at hClosed
  split at hClosed
  · cases hClosed
  · obtain ⟨holidays, hHolidays, hDay⟩ := Option.bind_eq_some_iff.mp hClosed
    rw [closures, hHolidays]
    simpa using hDay

theorem dateYear_near {later : Int} (h : day ≤ later) (hNear : later < day + 366) :
    dateYear later = dateYear day ∨ dateYear later = dateYear day + 1 := by
  by_contra hFar
  have hMono := dateYear_mono h
  have hGap := newYear_gap (by omega : dateYear day + 1 < dateYear later)
  have hDay := dateYear_bounds day
  have hLater := dateYear_bounds later
  omega

/-- The five whole weeks within thirty-nine days have twenty-five weekdays. -/
theorem twentyfive_le_length {closed : List Int}
    (hClosed : ∀ day, start ≤ day → day < start + 39 → weekday day < 5 → day ∈ closed) :
    25 ≤ closed.length := by
  have hInto : ∀ n ∈ Finset.range 25,
      start + (-(start + 3)) % 7 + 7 * (n / 5 : Nat) + (n % 5 : Nat) ∈ closed.toFinset := by
    intro n hN
    have hBound : n < 25 := Finset.mem_range.mp hN
    exact List.mem_toFinset.mpr (hClosed _ (by omega) (by omega) (by unfold weekday; omega))
  have hCard := Finset.card_le_card_of_injOn _ hInto (fun n _ m _ hEq => by omega)
  rw [Finset.card_range] at hCard
  exact hCard.trans (List.toFinset_card_le _)

theorem exists_trading_day (h : minDate ≤ start ∧ start < newYear 9999) :
    ∃ day, start ≤ day ∧ day < start + 39 ∧ day < newYear 9999 ∧
      isNyseTradingDay day = some true := by
  by_cases hEnd : newYear 9999 < start + 40
  · exact ⟨newYear 9999 - 1, by omega, by omega, by omega, by decide +kernel⟩
  by_contra hNone
  have hYear := dateYear_range h
  have hCard : 25 ≤ (closures (dateYear start) ++ closures (dateYear start + 1)).length := by
    refine @twentyfive_le_length start _ (fun day hStart hStop hWeekday => ?_)
    obtain ⟨trading, hTrading⟩ := @isNyseTradingDay_ok day (by omega)
    cases trading with
    | true => exact absurd ⟨day, hStart, hStop, by omega, hTrading⟩ hNone
    | false =>
      have hMem := mem_closures hTrading hWeekday
      obtain hSame | hNext := dateYear_near hStart (by omega)
      · exact List.mem_append_left _ (hSame ▸ hMem)
      · exact List.mem_append_right _ (hNext ▸ hMem)
  have hThis := @closures_length (dateYear start) (by omega)
  have hNext := @closures_length (dateYear start + 1) (by omega)
  rw [List.length_append] at hCard
  omega

/-! ## Session dates and session opens -/

/-- The trading days whose regular close is after a time. -/
def laterCloses (moment : WallClock) : Set Int :=
  {day | isNyseTradingDay day = some true ∧
    ∃ close, nyseRegularSessionCloseTime day = some close ∧ moment < toLex (day, close)}

/-- The trading days whose open is after a time. -/
def laterOpens (moment : WallClock) : Set Int :=
  {day | isNyseTradingDay day = some true ∧ moment < toLex (day, usMarketOpenTime)}

section Sessions

theorem date_le_of_lt {time : Int} (h : moment < toLex (day, time)) : moment.date ≤ day :=
  (Prod.Lex.lt_iff.mp h).elim le_of_lt (fun hSame => hSame.1.le)

theorem lt_of_date_lt {time : Int} (h : moment.date + 1 ≤ day) : moment < toLex (day, time) :=
  Prod.Lex.lt_iff.mpr (.inl h)

variable (hDate : minDate ≤ moment.date ∧ moment.date + 1 < newYear 9999)
include hDate

theorem session_isLeast :
    ∃ session, IsLeast (laterCloses moment) session ∧
      ∀ fuel ≥ 39, currentOrNextNyseSessionDate fuel moment = some session := by
  obtain ⟨before, hBefore, hToday⟩ : ∃ before, beforeClose moment = some before ∧
      (before = true ↔ moment.date ∈ laterCloses moment) := by
    obtain ⟨trading, hTrading⟩ := @isNyseTradingDay_ok moment.date (by omega)
    obtain ⟨close, hClose⟩ := @nyseRegularSessionCloseTime_ok moment.date (by omega)
    cases trading <;> simp [beforeClose, laterCloses, hTrading, hClose, Prod.Lex.lt_iff]
  cases before with
  | true =>
    refine ⟨moment.date, ⟨hToday.mp rfl, fun day hDay => ?_⟩, fun fuel _ => ?_⟩
    · obtain ⟨-, close, -, hLater⟩ := hDay
      exact date_le_of_lt hLater
    · simp [currentOrNextNyseSessionDate, hBefore]
  | false =>
    obtain ⟨day, hStart, hNear, hEnd, hTrading⟩ := @exists_trading_day (moment.date + 1) (by omega)
    obtain ⟨session, hLeast⟩ := exists_isLeast_passing hStart hTrading
    have hBound := hLeast.2 ⟨hStart, hTrading⟩
    have hAfter := hLeast.1.1
    refine ⟨session, ⟨⟨hLeast.1.2, ?_⟩, fun other hOther => ?_⟩, fun fuel hFuel => ?_⟩
    · obtain ⟨close, hClose⟩ := @nyseRegularSessionCloseTime_ok session (by omega)
      exact ⟨close, hClose, lt_of_date_lt hAfter⟩
    · have hNotToday : other ≠ moment.date := by
        rintro rfl
        exact Bool.false_ne_true (hToday.mpr hOther)
      obtain ⟨hTrades, close, -, hLater⟩ := hOther
      exact hLeast.2 ⟨lt_of_le_of_ne (date_le_of_lt hLater) hNotToday.symm, hTrades⟩
    · simp only [currentOrNextNyseSessionDate, hBefore, Option.bind_eq_bind, Option.bind_some]
      exact scan_of_isLeast hLeast (fun place _ _ => isNyseTradingDay_ok (by omega)) (by omega)

theorem opens_isLeast :
    ∃ opens, IsLeast (laterOpens moment) opens ∧
      nextNyseRegularSessionOpen moment = some (toLex (opens, usMarketOpenTime)) := by
  obtain ⟨day, hStart, hNear, hEnd, hTrading⟩ := @exists_trading_day (moment.date + 1) (by omega)
  have hPasses : ∀ day, opensAfter moment day = some true ↔ day ∈ laterOpens moment := by
    simp [opensAfter, laterOpens, Option.bind_eq_some_iff]
  have hDay : opensAfter moment day = some true :=
    (hPasses day).mpr ⟨hTrading, lt_of_date_lt hStart⟩
  obtain ⟨opens, hLeast⟩ := exists_isLeast_passing (by omega : moment.date ≤ day) hDay
  have hBound := hLeast.2 ⟨by omega, hDay⟩
  refine ⟨opens, ⟨(hPasses _).mp hLeast.1.2, fun other hOther =>
    hLeast.2 ⟨date_le_of_lt hOther.2, (hPasses _).mpr hOther⟩⟩, ?_⟩
  rw [nextNyseRegularSessionOpen, scan_of_isLeast hLeast (fun place _ _ => ?_) (by omega)]
  · rfl
  · obtain ⟨trading, hTrades⟩ := @isNyseTradingDay_ok place (by omega)
    cases trading <;> simp [opensAfter, hTrades]

theorem isRegularSessionOpen_iff {session : Int} (hLeast : IsLeast (laterCloses moment) session) :
    ∃ isOpen, isRegularSessionOpen moment = some isOpen ∧
      (isOpen = true ↔ session = moment.date ∧ usMarketOpenTime ≤ moment.time) := by
  have hToday : session = moment.date ↔ moment.date ∈ laterCloses moment := by
    refine ⟨fun h => h ▸ hLeast.1, fun h => le_antisymm (hLeast.2 h) ?_⟩
    obtain ⟨-, close, -, hLater⟩ := hLeast.1
    exact date_le_of_lt hLater
  obtain ⟨trading, hTrading⟩ := @isNyseTradingDay_ok moment.date (by omega)
  obtain ⟨close, hClose⟩ := @nyseRegularSessionCloseTime_ok moment.date (by omega)
  rw [hToday]
  by_cases hOpen : usMarketOpenTime ≤ moment.time <;> cases trading <;>
    simp [isRegularSessionOpen, laterCloses, hTrading, hClose, hOpen, Prod.Lex.lt_iff]

end Sessions

/-- For a time more than a year before the last date, the session date is the earliest trading
day that closes later, whatever the bound of its loop from thirty-nine on; the session is open
exactly where that is the day of the time and the time is not before the open; the next open is
that of the earliest trading day that opens later; and neither goes back as time goes on. -/
theorem session_dates_coherent (hFirst : minDate ≤ moment.date)
    (hLast : moment.date + 365 < maxDate) :
    ∃ session opens,
      (∀ fuel ≥ 39, currentOrNextNyseSessionDate fuel moment = some session) ∧
      IsLeast (laterCloses moment) session ∧
      (∃ isOpen, isRegularSessionOpen moment = some isOpen ∧
        (isOpen = true ↔ session = moment.date ∧ usMarketOpenTime ≤ moment.time)) ∧
      nextNyseRegularSessionOpen moment = some (toLex (opens, usMarketOpenTime)) ∧
      IsLeast (laterOpens moment) opens ∧
      ∀ later laterSession laterOpen, moment ≤ later → later.date + 365 < maxDate →
        currentOrNextNyseSessionDate 39 later = some laterSession →
        nextNyseRegularSessionOpen later = some laterOpen →
        session ≤ laterSession ∧ toLex (opens, usMarketOpenTime) ≤ laterOpen := by
  have hYear : maxDate = newYear 9999 + 364 := by decide
  have hDate : minDate ≤ moment.date ∧ moment.date + 1 < newYear 9999 := by omega
  obtain ⟨session, hSession, hFound⟩ := session_isLeast hDate
  obtain ⟨opens, hOpens, hNext⟩ := opens_isLeast hDate
  refine ⟨session, opens, hFound, hSession, isRegularSessionOpen_iff hDate hSession, hNext, hOpens,
    fun later laterSession laterOpen hLater hLaterLast hLaterFound hLaterNext => ?_⟩
  have hMono : moment.date ≤ later.date :=
    (Prod.Lex.le_iff.mp hLater).elim le_of_lt (fun h => h.1.le)
  obtain ⟨other, hOther, hOtherFound⟩ := @session_isLeast later (by omega)
  obtain ⟨otherOpens, hOtherOpens, hOtherNext⟩ := @opens_isLeast later (by omega)
  cases hLaterFound.symm.trans (hOtherFound 39 le_rfl)
  cases hLaterNext.symm.trans hOtherNext
  obtain ⟨hTrades, close, hClose, hAfter⟩ := hOther.1
  have hOpensLe := hOpens.2 ⟨hOtherOpens.1.1, hLater.trans_lt hOtherOpens.1.2⟩
  refine ⟨hSession.2 ⟨hTrades, close, hClose, hLater.trans_lt hAfter⟩, ?_⟩
  exact Prod.Lex.le_iff.mpr (hOpensLe.lt_or_eq.imp_right (fun h => ⟨h, le_rfl⟩))

theorem session_dates_at_new_year :
    ∃ session opens,
      currentOrNextNyseSessionDate 39 (toLex (20454, 0)) = some session ∧
      IsLeast (laterOpens (toLex (20454, 0))) opens := by
  obtain ⟨session, opens, hDate, -, -, -, hOpens, -⟩ :=
    @session_dates_coherent (toLex (20454, 0)) (by decide) (by decide)
  exact ⟨session, opens, hDate 39 le_rfl, hOpens⟩

end QuantApp.Utils
