import PhotoPublish.Calendar.Date

/-!
# Days and dates

Days are counted without gaps: every number of days is that of one date, which `Date.ofDayNumber` finds.

* `yearOfDay_spec`: the year that a day is looked for in is the year that holds it.
* `monthOfDay_spec`: so are month and day of month.
* `Date.ofDayNumber_spec`: the date of a day is a date of the calendar, and it is that day.
* `Date.year_ofDayNumber_near`: days less than a year apart lie in years next to each other at most.
* `Date.dayNumber_lt_iff`: later dates have greater numbers, so no two dates share one.
* `Date.IsDayCount.eq_dayNumber`: any other way to count the days from 1970-01-01 gives the same numbers.
-/

set_option autoImplicit false

namespace PhotoPublish

namespace Calendar

/-! ## Years -/

theorem isLeap_iff (year : Int) :
    isLeap year = true ↔ year % 4 = 0 ∧ (year % 100 ≠ 0 ∨ year % 400 = 0) := by
  simp [isLeap]

theorem daysInYear_cases (year : Int) :
    (isLeap year = true ∧ daysInYear year = 366) ∨ (isLeap year = false ∧ daysInYear year = 365) := by
  unfold daysInYear
  cases isLeap year <;> simp

/-- A year ends where the next one begins. -/
theorem daysBeforeYear_succ (year : Int) :
    daysBeforeYear (year + 1) = daysBeforeYear year + daysInYear year := by
  have hleap := isLeap_iff year
  unfold daysBeforeYear
  dsimp only
  rcases daysInYear_cases year with ⟨his, hdays⟩ | ⟨his, hdays⟩
  · rw [hdays]
    have := hleap.1 his
    omega
  · rw [hdays]
    have : ¬ (year % 4 = 0 ∧ (year % 100 ≠ 0 ∨ year % 400 = 0)) := fun h => by
      rw [hleap.2 h] at his
      cases his
    omega

theorem daysBeforeYear_mono {year later : Int} (h : year ≤ later) :
    daysBeforeYear year ≤ daysBeforeYear later := by
  unfold daysBeforeYear
  dsimp only
  omega

/-- **The year of a day holds it.** -/
theorem yearOfDay_spec (day : Int) :
    daysBeforeYear (yearOfDay day) ≤ day ∧ day < daysBeforeYear (yearOfDay day + 1) := by
  -- The average length of a year leads to the year or to one next to it.
  have hbelow : daysBeforeYear (day * 400 / 146097 + 1 - 1) ≤ day := by
    unfold daysBeforeYear
    dsimp only
    omega
  have habove : day < daysBeforeYear (day * 400 / 146097 + 1 + 1 + 1) := by
    unfold daysBeforeYear
    dsimp only
    omega
  unfold yearOfDay
  dsimp only
  split
  · rename_i h
    rw [Int.sub_add_cancel]
    exact ⟨hbelow, h⟩
  · split
    · rename_i h
      exact ⟨h, habove⟩
    · rename_i h h'
      exact ⟨Int.not_lt.1 h, Int.not_le.1 h'⟩

theorem yearOfDay_le_of_lt {day year : Int} (h : day < daysBeforeYear (year + 1)) :
    yearOfDay day ≤ year := by
  refine Int.not_lt.1 fun hlater => ?_
  have hmono := daysBeforeYear_mono hlater
  have hfirst := (yearOfDay_spec day).1
  omega

theorem le_yearOfDay_of_le {day year : Int} (h : daysBeforeYear year ≤ day) :
    year ≤ yearOfDay day := by
  refine Int.not_lt.1 fun hearlier => ?_
  have hmono := daysBeforeYear_mono hearlier
  have hlast := (yearOfDay_spec day).2
  omega

/-! ## Months -/

theorem daysBeforeMonth_succ {year : Int} {month : Nat} (h : 1 ≤ month) :
    daysBeforeMonth year (month + 1) = daysBeforeMonth year month + daysInMonth year month := by
  cases month with
  | zero => omega
  | succ month => rfl

/-- The months make up the year. -/
theorem daysBeforeMonth_december (year : Int) :
    daysBeforeMonth year 12 + daysInMonth year 12 = daysInYear year := by
  simp only [daysBeforeMonth, daysInMonth, daysInYear]
  cases isLeap year <;> rfl

/-- **The month of a day holds it.** The search stands at the first day of a month, with the rest of the days
to go. -/
theorem monthOfDay_spec {year : Int} {fuel month day : Nat} (hmonth : 1 ≤ month)
    (hfuel : month + fuel = 12) (hday : daysBeforeMonth year month + day < daysInYear year) :
    1 ≤ (monthOfDay year fuel month day).1 ∧ (monthOfDay year fuel month day).1 ≤ 12 ∧
      1 ≤ (monthOfDay year fuel month day).2 ∧
      (monthOfDay year fuel month day).2 ≤ daysInMonth year (monthOfDay year fuel month day).1 ∧
      daysBeforeMonth year (monthOfDay year fuel month day).1 +
        ((monthOfDay year fuel month day).2 - 1) = daysBeforeMonth year month + day := by
  induction fuel generalizing month day with
  | zero =>
    obtain rfl : month = 12 := by omega
    have hyear := daysBeforeMonth_december year
    unfold monthOfDay
    dsimp only
    omega
  | succ fuel ih =>
    unfold monthOfDay
    dsimp only
    split
    · dsimp only
      omega
    · have hnext := @daysBeforeMonth_succ year month hmonth
      have hsame : daysBeforeMonth year (month + 1) + (day - daysInMonth year month) =
          daysBeforeMonth year month + day := by omega
      have := ih (Nat.le_add_left 1 month) (by omega) (hsame ▸ hday)
      rwa [hsame] at this

theorem daysBeforeMonth_mono {year : Int} {month later : Nat} (hmonth : 1 ≤ month) (h : month < later) :
    daysBeforeMonth year month + daysInMonth year month ≤ daysBeforeMonth year later := by
  induction h with
  | refl => exact Nat.le_of_eq (daysBeforeMonth_succ hmonth).symm
  | @step later hlater ih =>
    rw [Nat.succ_eq_add_one, daysBeforeMonth_succ (Nat.le_trans hmonth (Nat.le_of_lt hlater))]
    omega

theorem daysBeforeMonth_le {year : Int} {month : Nat} (hmonth : 1 ≤ month) (hmonth' : month ≤ 12) :
    daysBeforeMonth year month + daysInMonth year month ≤ daysInYear year := by
  have hyear := daysBeforeMonth_december year
  rcases Nat.lt_or_eq_of_le hmonth' with hlt | rfl
  · have hmono := @daysBeforeMonth_mono year month 12 hmonth hlt
    omega
  · omega

end Calendar

open Calendar

/-! ## Dates -/

namespace Date

/-- **The date of a day is a date of the calendar, and it is that day.** -/
theorem ofDayNumber_spec (number : Int) :
    (ofDayNumber number).IsValid ∧ (ofDayNumber number).dayNumber = number := by
  obtain ⟨hfirst, hlast⟩ := yearOfDay_spec (number + epochDays)
  rw [daysBeforeYear_succ] at hlast
  have hday : daysBeforeMonth (yearOfDay (number + epochDays)) 1 +
      (number + epochDays - daysBeforeYear (yearOfDay (number + epochDays))).toNat <
        daysInYear (yearOfDay (number + epochDays)) := by
    simp only [daysBeforeMonth]
    omega
  obtain ⟨hmonth, hmonth', hone, hlength, hcount⟩ :=
    monthOfDay_spec (Nat.le_refl 1) (rfl : 1 + 11 = 12) hday
  refine ⟨⟨hmonth, hmonth', hone, hlength⟩, ?_⟩
  unfold dayNumber dayOfYear ofDayNumber
  dsimp only
  rw [hcount]
  simp only [daysBeforeMonth]
  omega

/-- Days less than a year apart lie in the same year or in years next to each other. -/
theorem year_ofDayNumber_near {number other : Int} (h : (other - number).natAbs ≤ 365) :
    (ofDayNumber number).year - 1 ≤ (ofDayNumber other).year ∧
      (ofDayNumber other).year ≤ (ofDayNumber number).year + 1 := by
  show yearOfDay (number + epochDays) - 1 ≤ yearOfDay (other + epochDays) ∧
    yearOfDay (other + epochDays) ≤ yearOfDay (number + epochDays) + 1
  have hlong : ∀ year, 365 ≤ daysInYear year := fun year => by
    rcases daysInYear_cases year with ⟨-, h⟩ | ⟨-, h⟩ <;> omega
  obtain ⟨hfirst, hlast⟩ := yearOfDay_spec (number + epochDays)
  have hbefore := daysBeforeYear_succ (yearOfDay (number + epochDays) - 1)
  have hafter := daysBeforeYear_succ (yearOfDay (number + epochDays) + 1)
  have hlong' := hlong (yearOfDay (number + epochDays) - 1)
  have hlong'' := hlong (yearOfDay (number + epochDays) + 1)
  rw [Int.sub_add_cancel] at hbefore
  constructor
  · apply le_yearOfDay_of_le
    omega
  · apply yearOfDay_le_of_lt
    omega

/-! ### The order of dates -/

variable {a b date : Date}

theorem IsValid.dayOfYear_lt (h : date.IsValid) : date.dayOfYear < daysInYear date.year := by
  obtain ⟨hmonth, hmonth', hday, hday'⟩ := h
  have hle := @daysBeforeMonth_le date.year date.month hmonth hmonth'
  unfold dayOfYear
  omega

/-- Earlier in the calendar, by the year first and by the day last. -/
def Before (a b : Date) : Prop :=
  a.year < b.year ∨ a.year = b.year ∧ (a.month < b.month ∨ a.month = b.month ∧ a.day < b.day)

theorem before_trichotomy (a b : Date) : a.Before b ∨ a = b ∨ b.Before a := by
  obtain ⟨year, month, day⟩ := a
  obtain ⟨year', month', day'⟩ := b
  simp only [Before, mk.injEq]
  omega

theorem dayNumber_lt_of_before (ha : a.IsValid) (hb : b.IsValid) (h : a.Before b) :
    a.dayNumber < b.dayNumber := by
  have hlast := ha.dayOfYear_lt
  obtain ⟨hmonth, -, hday, hday'⟩ := ha
  obtain ⟨-, -, hday'', -⟩ := hb
  unfold dayNumber
  rcases h with hyear | ⟨hyear, hmonth' | ⟨hmonth', hless⟩⟩
  · have hnext := daysBeforeYear_succ a.year
    have hmono := @daysBeforeYear_mono (a.year + 1) b.year hyear
    omega
  · have hmono := @daysBeforeMonth_mono a.year a.month b.month hmonth hmonth'
    unfold dayOfYear
    rw [← hyear]
    omega
  · unfold dayOfYear
    rw [← hyear, ← hmonth']
    omega

/-- **Later dates have greater numbers.** -/
theorem dayNumber_lt_iff (ha : a.IsValid) (hb : b.IsValid) :
    a.dayNumber < b.dayNumber ↔ a.Before b := by
  constructor
  · intro h
    rcases before_trichotomy a b with hbefore | rfl | hafter
    · exact hbefore
    · exact absurd h (Int.lt_irrefl _)
    · have hless := dayNumber_lt_of_before hb ha hafter
      omega
  · exact dayNumber_lt_of_before ha hb

theorem eq_of_dayNumber_eq (ha : a.IsValid) (hb : b.IsValid) (h : a.dayNumber = b.dayNumber) : a = b := by
  rcases before_trichotomy a b with hbefore | heq | hafter
  · have hless := dayNumber_lt_of_before ha hb hbefore
    omega
  · exact heq
  · have hless := dayNumber_lt_of_before hb ha hafter
    omega

theorem ofDayNumber_dayNumber (h : date.IsValid) : ofDayNumber date.dayNumber = date := by
  obtain ⟨hvalid, hnumber⟩ := ofDayNumber_spec date.dayNumber
  exact eq_of_dayNumber_eq hvalid h hnumber

/-! ### Counting days -/

/-- The next day of the calendar. -/
def next (date : Date) : Date :=
  if date.day < daysInMonth date.year date.month then { date with day := date.day + 1 }
  else if date.month < 12 then ⟨date.year, date.month + 1, 1⟩
  else ⟨date.year + 1, 1, 1⟩

theorem dayNumber_next (h : date.IsValid) : date.next.dayNumber = date.dayNumber + 1 := by
  obtain ⟨hmonth, hmonth', hday, hday'⟩ := h
  unfold next dayNumber dayOfYear
  split
  · dsimp only
    omega
  · split
    · have hsucc := @daysBeforeMonth_succ date.year date.month hmonth
      dsimp only
      omega
    · have hdecember : date.month = 12 := by omega
      have hyear := daysBeforeMonth_december date.year
      have hsucc := daysBeforeYear_succ date.year
      have hfirst : daysBeforeMonth (date.year + 1) 1 = 0 := rfl
      rename_i hlast _
      rw [hdecember] at hday' hlast ⊢
      dsimp only
      omega

theorem one_le_daysInMonth (year : Int) (month : Nat) : 1 ≤ daysInMonth year month := by
  unfold daysInMonth
  split
  · split <;> decide
  all_goals decide

theorem IsValid.next (h : date.IsValid) : date.next.IsValid := by
  obtain ⟨hmonth, hmonth', hday, hday'⟩ := h
  unfold Date.next
  split
  · exact ⟨hmonth, hmonth', Nat.le_add_left 1 _, by assumption⟩
  · split
    · exact ⟨Nat.le_add_left 1 _, by assumption, Nat.le_refl 1, one_le_daysInMonth _ _⟩
    · exact ⟨Nat.le_refl 1, Nat.le_add_left 1 11, Nat.le_refl 1, one_le_daysInMonth _ _⟩

/-- A count of the days from 1970-01-01. -/
structure IsDayCount (days : Date → Int) : Prop where
  epoch : days ⟨1970, 1, 1⟩ = 0
  next : ∀ date : Date, date.IsValid → days date.next = days date + 1

theorem isDayCount_dayNumber : IsDayCount dayNumber :=
  ⟨by decide, fun _ h => dayNumber_next h⟩

theorem next_ofDayNumber (number : Int) : (ofDayNumber number).next = ofDayNumber (number + 1) := by
  obtain ⟨hvalid, hnumber⟩ := ofDayNumber_spec number
  obtain ⟨hvalid', hnumber'⟩ := ofDayNumber_spec (number + 1)
  refine eq_of_dayNumber_eq hvalid.next hvalid' ?_
  rw [dayNumber_next hvalid, hnumber, hnumber']

/-- **Whoever counts the days from 1970-01-01 finds the same numbers.** -/
theorem IsDayCount.eq_dayNumber {days : Date → Int} (hdays : IsDayCount days) (h : date.IsValid) :
    days date = date.dayNumber := by
  have hstep : ∀ number, days (ofDayNumber (number + 1)) = days (ofDayNumber number) + 1 := by
    intro number
    rw [← next_ofDayNumber]
    exact hdays.next _ (ofDayNumber_spec number).1
  have hzero : days (ofDayNumber 0) = 0 := by
    rw [show ofDayNumber 0 = ⟨1970, 1, 1⟩ by decide]
    exact hdays.epoch
  -- From the epoch the count goes on in both directions.
  have hlater : ∀ n : Nat, days (ofDayNumber n) = n := by
    intro n
    induction n with
    | zero => exact hzero
    | succ n ih =>
      have hlast := hstep n
      rw [ih] at hlast
      exact hlast
  have hearlier : ∀ n : Nat, days (ofDayNumber (-n)) = -n := by
    intro n
    induction n with
    | zero => exact hzero
    | succ n ih =>
      have hlast := hstep (-(n + 1 : Nat))
      rw [show (-(n + 1 : Nat) : Int) + 1 = -n by omega, ih] at hlast
      omega
  rw [← ofDayNumber_dayNumber h, (ofDayNumber_spec date.dayNumber).2]
  obtain ⟨n, hn | hn⟩ := date.dayNumber.eq_nat_or_neg
  · rw [hn, hlater]
  · rw [hn, hearlier]

end Date

end PhotoPublish
