import QuantApp.Utils.MarketCalendar

/-!
# The recurring closures against the exchange rule

The rule is stated by what each holiday is: a day of the month with the weekday it is observed on,
a weekday counted from one end of a month, or the Friday before the first Sunday after the
paschal full moon. `nyse_holidays` keeps to it except on the last day of a year before a Saturday
New Year's Day.
-/

namespace QuantApp.Utils

/-! ## The rule -/

/-- The day number of a day of a month. -/
def dayOf (year month day : Int) : Int := newYear year + daysBeforeMonth year month + day - 1

/-- A fixed holiday moves from Saturday to Friday and from Sunday to Monday. -/
def ObservedOn (holiday day : Int) : Prop :=
  (weekday holiday < 5 ∧ day = holiday) ∨ (weekday holiday = 5 ∧ day + 1 = holiday) ∨
    (weekday holiday = 6 ∧ day = holiday + 1)

/-- The `n`-th such weekday from a day on. -/
def IsNth (first target n day : Int) : Prop :=
  weekday day = target ∧ first + 7 * (n - 1) ≤ day ∧ day < first + 7 * n

/-- The age of the moon on New Year's Day by the tables of the Gregorian calendar. -/
def epact (year : Int) : Int :=
  let golden := year % 19 + 1
  let century := year / 100 + 1
  let age := (11 * golden + 20 + ((8 * century + 5) / 25 - 5) - (3 * century / 4 - 12)) % 30
  if age = 24 ∨ (age = 25 ∧ 11 < golden) then age + 1 else age

/-- The paschal full moon, the first one from March 21 on. -/
def paschalMoon (year : Int) : Int :=
  dayOf year 3 (if epact year ≤ 23 then 44 - epact year else 74 - epact year)

/-- The Sunday after the paschal full moon. -/
def IsEaster (year day : Int) : Prop := IsNth (paschalMoon year + 1) 6 1 day

/-- The weekdays on which the rule closes the market. -/
def RuleCloses (year day : Int) : Prop :=
  (weekday (dayOf year 1 1) ≠ 5 ∧ ObservedOn (dayOf year 1 1) day) ∨
  IsNth (dayOf year 1 1) 0 3 day ∨ IsNth (dayOf year 2 1) 0 3 day ∨
  IsEaster year (day + 2) ∨
  IsNth (dayOf year 6 1 - 7) 0 1 day ∨
  ObservedOn (dayOf year 6 19) day ∨ ObservedOn (dayOf year 7 4) day ∨
  IsNth (dayOf year 9 1) 0 1 day ∨ IsNth (dayOf year 11 1) 3 4 day ∨
  ObservedOn (dayOf year 12 25) day

/-- `nyse_holidays` returns exactly these days. -/
def FollowsRule (year : Int) : Prop :=
  ∃ holidays, nyseHolidays year = some holidays ∧ ∀ day, day ∈ holidays ↔ RuleCloses year day

/-! ## The rule of each holiday has one day -/

theorem observedOn_iff {holiday day : Int} :
    ObservedOn holiday day ↔ day = nearestWeekday holiday := by
  unfold ObservedOn nearestWeekday weekday
  split_ifs <;> omega

theorem isNth_iff {first target n day : Int} (h : 0 ≤ target ∧ target < 7) :
    IsNth first target n day ↔ day = first + ((target - weekday first) % 7 + 7 * (n - 1)) := by
  unfold IsNth weekday
  omega

/-- The first of March: the leap day lies before it. -/
theorem dayOf_march (year day : Int) :
    dayOf year 3 day = year * 365 + year / 4 - year / 100 + year / 400 - 719469 + day := by
  simp only [dayOf, newYear, daysBeforeMonth, minDate, isLeap, decide_eq_true_eq]
  split_ifs <;> omega

/-- The two counts of the moon's age from March 21 agree: the tables put the moon a day earlier
where `h` is 29, and where it is 28 in the second half of the cycle. -/
theorem paschalMoon_eq (year : Int) :
    let a := year % 19
    let b := year / 100
    let h := (19 * a + b - b / 4 - (b - (b + 8) / 25 + 1) / 3 + 15) % 30
    paschalMoon year = dayOf year 3 (if h = 29 ∨ (h = 28 ∧ 11 ≤ a) then 20 + h else 21 + h) := by
  have hSolar (b : Int) : 3 * (b + 1) / 4 = b - b / 4 := by omega
  have hLunar (b : Int) : (8 * (b + 1) + 5) / 25 = (b - (b + 8) / 25 + 1) / 3 := by omega
  unfold paschalMoon epact
  simp only [hSolar, hLunar]
  have hA : 0 ≤ year % 19 ∧ year % 19 < 19 := by omega
  congr 1
  generalize (_ - (_ + 8) / 25 + 1) / 3 = g
  generalize year / 100 / 4 = d
  generalize year % 19 = a at *
  omega

/-- A Sunday one week after the moon of the other count is the moon's own day. -/
theorem isEaster_iff {year day : Int} :
    IsEaster year day ↔ day = dayOf year 3 (easterCount year - 92) := by
  rw [IsEaster, paschalMoon_eq, isNth_iff (by decide), weekday]
  unfold easterCount
  simp only [dayOf_march]
  generalize hH : (19 * (year % 19) + _ - _ - _ + 15) % 30 = h
  have hA : 0 ≤ year % 19 ∧ year % 19 < 19 := by omega
  generalize year % 19 = a at *
  generalize hCorrection : (32 + _ + _ - h - _) % 7 = correction
  have hBound : 0 ≤ h ∧ h < 30 := by omega
  clear hH
  have hWeek : (year * 365 + year / 4 - year / 100 + year / 400 - 719469 + 22 + h + correction +
    3) % 7 = 6 := by
    have : year / 4 = year / 100 * 25 + year % 100 / 4 := by omega
    have : year / 400 = year / 100 / 4 := by omega
    omega
  have hCorrectionBound : 0 ≤ correction ∧ correction < 7 := by omega
  clear hCorrection
  generalize year * 365 + year / 4 - year / 100 + year / 400 - 719469 = start at *
  have hBack : (a + 11 * h + 22 * correction) / 451 =
      if correction = 6 ∧ (h = 29 ∨ (h = 28 ∧ 11 ≤ a)) then 1 else 0 := by
    split_ifs <;> omega
  obtain ⟨weeks, rfl⟩ : ∃ weeks, start = 7 * weeks + 2 - h - correction :=
    ⟨(start + h + correction) / 7, by omega⟩
  rw [hBack]
  split_ifs <;> omega

/-! ## The code's closures -/

variable {year : Int}

theorem dateYear_eq_iff {day : Int} :
    dateYear day = year ↔ newYear year ≤ day ∧ day < newYear (year + 1) := by
  have hDay := dateYear_bounds day
  have hMono (earlier later : Int) (h : earlier ≤ later) : newYear earlier ≤ newYear later := by
    simp only [newYear]
    omega
  refine ⟨fun h => h ▸ hDay, fun h => ?_⟩
  obtain hBefore | hSame | hAfter := lt_trichotomy (dateYear day) year
  · have := hMono _ _ (Int.add_one_le_of_lt hBefore)
    omega
  · exact hSame
  · have := hMono _ _ (Int.add_one_le_of_lt hAfter)
    omega

theorem dateOf_early {month day : Int} (hYear : 1 ≤ year ∧ year ≤ 9999)
    (hDate : 1 ≤ month ∧ month ≤ 12 ∧ 1 ≤ day ∧ day ≤ 28) :
    dateOf year month day = some (dayOf year month day) :=
  if_pos ⟨hYear.1, hYear.2, hDate.1, hDate.2.1, hDate.2.2.1, le_daysInMonth hDate.2.2.2⟩

theorem easterSunday_eq (hYear : 1 ≤ year ∧ year ≤ 9999) :
    easterSunday year = some (dayOf year 3 (easterCount year - 92)) := by
  have hCount := easterCount_bounds year
  obtain hMonth | hMonth : easterCount year / 31 = 3 ∨ easterCount year / 31 = 4 := by omega
  all_goals
    rw [easterSunday, hMonth, dateOf, if_pos (by simp [daysInMonth]; omega), Option.some_inj]
    simp only [dayOf, daysBeforeMonth]
    split_ifs <;> omega

/-- The code's closures are the rule's and the Friday before a Saturday New Year's Day. -/
theorem mem_nyseHolidays (hYear : 1 ≤ year ∧ year ≤ 9998) :
    ∃ holidays, nyseHolidays year = some holidays ∧ ∀ day,
      (day ∈ holidays ↔ RuleCloses year day ∨
        (weekday (newYear (year + 1)) = 5 ∧ day = newYear (year + 1) - 1)) ∧
      (RuleCloses year day → day < newYear (year + 1) - 1) := by
  have hRange : 1 ≤ year ∧ year ≤ 9999 := by omega
  have hNext : dayOf (year + 1) 1 1 = newYear (year + 1) := by simp [dayOf, daysBeforeMonth]
  have hMemorial : lastWeekday year 5 0 =
      some (dayOf year 6 1 - 7 + ((0 - weekday (dayOf year 6 1 - 7)) % 7 + 7 * (1 - 1))) := by
    simp only [lastWeekday, Int.reduceEq, if_false, Int.reduceAdd, Option.bind_eq_bind,
      @dateOf_early year 6 1 hRange (by decide), Option.bind_some, Option.pure_def, weekday]
    congr 1
    omega
  simp only [nyseHolidays, nthWeekday, hMemorial, easterSunday_eq hRange,
    @dateOf_early year 1 1 hRange (by decide), @dateOf_early year 2 1 hRange (by decide),
    @dateOf_early year 6 19 hRange (by decide), @dateOf_early year 7 4 hRange (by decide),
    @dateOf_early year 9 1 hRange (by decide), @dateOf_early year 11 1 hRange (by decide),
    @dateOf_early year 12 25 hRange (by decide), hNext, Option.bind_eq_bind, Option.bind_some,
    @dateOf_early (year + 1) 1 1 (by omega) (by decide), Option.pure_def]
  refine ⟨_, rfl, fun day => ?_⟩
  simp only [RuleCloses, observedOn_iff, isEaster_iff, @isNth_iff _ 0 _ _ (by decide),
    @isNth_iff _ 3 _ _ (by decide), List.mem_filter, decide_eq_true_eq, dateYear_eq_iff]
  have hNear (holiday : Int) : holiday - 1 ≤ nearestWeekday holiday ∧
      nearestWeekday holiday ≤ holiday + 1 ∧
      (weekday holiday = 5 ↔ nearestWeekday holiday < holiday) := by
    unfold nearestWeekday
    split_ifs <;> omega
  have hFirst := hNear (dayOf year 1 1)
  have hJune := hNear (dayOf year 6 19)
  have hJuly := hNear (dayOf year 7 4)
  have hDecember := hNear (dayOf year 12 25)
  have hLast := hNear (newYear (year + 1))
  have hLength := newYear_gap (lt_add_one year)
  have hCount := easterCount_bounds year
  have hSplit : (newYear year ≤ nearestWeekday (newYear (year + 1)) ∧
      nearestWeekday (newYear (year + 1)) < newYear (year + 1)) ↔
      weekday (newYear (year + 1)) = 5 := by omega
  have hMonth (month day : Int) : newYear year + (367 * month - 362) / 12 - 3 + day ≤
      dayOf year month day ∧ dayOf year month day ≤
        newYear year + (367 * month - 362) / 12 - 1 + day := by
    simp only [dayOf, daysBeforeMonth]
    split_ifs <;> omega
  have hStart : dayOf year 1 1 = newYear year := by simp [dayOf, daysBeforeMonth]
  have hDates := And.intro (hMonth 2 1) (And.intro (hMonth 6 1) (And.intro (hMonth 6 19)
    (And.intro (hMonth 7 4) (And.intro (hMonth 9 1) (And.intro (hMonth 11 1) (hMonth 12 25))))))
  have hEaster := hMonth 3 (easterCount year - 92)
  simp only [hSplit]
  split_ifs with hSaturday
  · simp only [hSaturday, List.mem_append, List.mem_cons, List.not_mem_nil, or_false, true_and]
    refine ⟨⟨?_, ?_⟩, ?_⟩ <;> omega
  · simp only [hSaturday, List.mem_cons, List.not_mem_nil, or_false, false_and]
    refine ⟨⟨?_, ?_⟩, ?_⟩ <;> omega

end QuantApp.Utils
