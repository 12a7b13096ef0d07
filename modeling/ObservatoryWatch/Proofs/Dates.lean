import ObservatoryWatch.Calendar.Moment

/-!
Dates and their days.

A date goes on to the next one by carries: past the end of a month to the next month, past December
to the next year. Each such step is one day further in the count of days, and going back by borrows
is one day less. In the other direction every day of the calendar has a date, which is the one that
is written for it.
-/

namespace ObservatoryWatch.Calendar

/-! ## Years and months -/

/-- The number of days of a month. -/
def monthLength (year month : Nat) : Nat :=
  if month = 2 then if isLeapYear year then 29 else 28
  else if month ∈ [4, 6, 9, 11] then 30
  else 31

def yearLength (year : Nat) : Nat := if isLeapYear year then 366 else 365

/-- Days of a year before the first of a month. -/
def daysBeforeMonth (year month : Nat) : Nat :=
  ((monthLengths year).take (month - 1)).foldl (· + ·) 0

theorem dayOfDate_eq (year month day : Nat) :
    dayOfDate year month day = daysBeforeYear year + daysBeforeMonth year month + day := rfl

theorem monthLength_pos (year month : Nat) : 1 ≤ monthLength year month := by
  unfold monthLength
  repeat' split
  all_goals omega

/-- One more year makes one more multiple of a number, or none. -/
theorem div_of_next (year divisor : Nat) :
    (year + 1) / divisor = year / divisor + if (year + 1) % divisor = 0 then 1 else 0 := by
  rw [Nat.succ_div]
  simp only [Nat.dvd_iff_mod_eq_zero]

theorem isLeapYear_iff (year : Nat) :
    isLeapYear year = true ↔ year % 4 = 0 ∧ (year % 100 ≠ 0 ∨ year % 400 = 0) := by
  simp [isLeapYear]

theorem daysBeforeYear_succ {year : Nat} (some : 1 ≤ year) :
    daysBeforeYear (year + 1) = daysBeforeYear year + yearLength year := by
  obtain ⟨complete, rfl⟩ : ∃ complete, year = complete + 1 := ⟨year - 1, by omega⟩
  have hundreds : (complete + 1) % 100 = 0 → (complete + 1) % 4 = 0 := by omega
  have cycles : (complete + 1) % 400 = 0 → (complete + 1) % 100 = 0 := by omega
  have fewer : complete / 100 ≤ complete / 4 := by omega
  unfold daysBeforeYear yearLength
  simp only [isLeapYear_iff, Nat.add_sub_cancel, div_of_next]
  generalize complete / 4 = fours at fewer ⊢
  generalize complete / 100 = centuries at fewer ⊢
  generalize complete / 400 = wholes
  by_cases four : (complete + 1) % 4 = 0 <;> by_cases hundred : (complete + 1) % 100 = 0 <;>
    by_cases whole : (complete + 1) % 400 = 0 <;>
    simp only [four, hundred, whole, if_true, if_false, true_and, false_and, or_true, or_false,
      not_true, not_false_eq_true, ne_eq] at hundreds cycles ⊢ <;> omega

theorem daysBeforeMonth_one (year : Nat) : daysBeforeMonth year 1 = 0 := rfl

/-- The lengths of the months, one after the other, are those of the list. -/
theorem daysBeforeMonth_succ (year : Nat) :
    ∀ month < 12, 1 ≤ month →
      daysBeforeMonth year (month + 1) = daysBeforeMonth year month + monthLength year month := by
  unfold daysBeforeMonth monthLength monthLengths
  cases isLeapYear year <;> decide

theorem daysBeforeMonth_december (year : Nat) : daysBeforeMonth year 12 + 31 = yearLength year := by
  unfold daysBeforeMonth yearLength monthLengths
  cases isLeapYear year <;> decide

theorem daysBeforeMonth_add_length_le (year : Nat) :
    ∀ month < 13, 1 ≤ month →
      daysBeforeMonth year month + monthLength year month ≤ yearLength year := by
  unfold daysBeforeMonth monthLength yearLength monthLengths
  cases isLeapYear year <;> decide

theorem daysBeforeYear_mono {early late : Nat} (some : 1 ≤ early) (later : early ≤ late) :
    daysBeforeYear early ≤ daysBeforeYear late := by
  induction later with
  | refl => exact Nat.le_refl _
  | step more induction =>
      rw [Nat.succ_eq_add_one, daysBeforeYear_succ (Nat.le_trans some more)]
      omega

/-! ## Dates -/

/-- The numbers are those of a date of the years 1 to 9999. -/
structure IsDate (year month day : Nat) : Prop where
  year_pos : 1 ≤ year
  year_le : year ≤ 9999
  month_pos : 1 ≤ month
  month_le : month ≤ 12
  day_pos : 1 ≤ day
  day_le : day ≤ monthLength year month

structure Date where
  year : Nat
  month : Nat
  day : Nat
  isDate : IsDate year month day

namespace Date

/-- The number of a date's day, counted from the first of January of year 1. -/
def number (date : Date) : Nat := dayOfDate date.year date.month date.day

/-- The next date: past the last day of a month comes the first of the next one, and past December
the next year. There is none after year 9999. -/
def next? (date : Date) : Option Date :=
  if inMonth : date.day < monthLength date.year date.month then
    some ⟨date.year, date.month, date.day + 1,
      { date.isDate with day_pos := by omega, day_le := inMonth }⟩
  else if inYear : date.month < 12 then
    some ⟨date.year, date.month + 1, 1,
      { date.isDate with
        month_pos := by omega
        month_le := inYear
        day_pos := Nat.le_refl 1
        day_le := monthLength_pos _ _ }⟩
  else if inCalendar : date.year < 9999 then
    some ⟨date.year + 1, 1, 1, by omega, inCalendar, Nat.le_refl 1, by decide, Nat.le_refl 1,
      monthLength_pos _ _⟩
  else none

/-- The date before: before the first of a month comes the last day of the month before, and before
January the year before. There is none before year 1. -/
def previous? (date : Date) : Option Date :=
  if inMonth : 1 < date.day then
    some ⟨date.year, date.month, date.day - 1,
      { date.isDate with
        day_pos := by omega
        day_le := Nat.le_trans (Nat.sub_le _ _) date.isDate.day_le }⟩
  else if inYear : 1 < date.month then
    some ⟨date.year, date.month - 1, monthLength date.year (date.month - 1),
      { date.isDate with
        month_pos := by omega
        month_le := Nat.le_trans (Nat.sub_le _ _) date.isDate.month_le
        day_pos := monthLength_pos _ _
        day_le := Nat.le_refl _ }⟩
  else if inCalendar : 1 < date.year then
    some ⟨date.year - 1, 12, 31, by omega, Nat.le_trans (Nat.sub_le _ _) date.isDate.year_le,
      by decide, Nat.le_refl 12, by decide, Nat.le_refl 31⟩
  else none

theorem number_pos (date : Date) : 1 ≤ date.number := by
  have some := date.isDate.day_pos
  rw [number, dayOfDate_eq]
  omega

theorem number_le (date : Date) : date.number ≤ 3652059 := by
  have inMonth := date.isDate.day_le
  have inYear := daysBeforeMonth_add_length_le date.year date.month
    (Nat.lt_succ_of_le date.isDate.month_le) date.isDate.month_pos
  have complete := daysBeforeYear_succ date.isDate.year_pos
  have last : daysBeforeYear (date.year + 1) ≤ daysBeforeYear 10000 :=
    daysBeforeYear_mono (by omega) (Nat.succ_le_succ date.isDate.year_le)
  have all : daysBeforeYear 10000 = 3652059 := by decide
  rw [number, dayOfDate_eq]
  omega

/-- The next date is one day on, and only the last day of all has none. -/
theorem next?_number (date : Date) :
    match date.next? with
    | some next => next.number = date.number + 1
    | none => date.number = 3652059 := by
  unfold next?
  by_cases inMonth : date.day < monthLength date.year date.month
  · rw [dif_pos inMonth]
    rfl
  rw [dif_neg inMonth]
  have monthEnds : date.day = monthLength date.year date.month :=
    Nat.le_antisymm date.isDate.day_le (Nat.not_lt.mp inMonth)
  by_cases inYear : date.month < 12
  · rw [dif_pos inYear]
    have months := daysBeforeMonth_succ date.year date.month inYear date.isDate.month_pos
    simp only [number, dayOfDate_eq, months]
    omega
  rw [dif_neg inYear]
  have december : date.month = 12 := Nat.le_antisymm date.isDate.month_le (Nat.not_lt.mp inYear)
  have length : monthLength date.year 12 = 31 := rfl
  have complete := daysBeforeMonth_december date.year
  rw [december] at monthEnds
  by_cases inCalendar : date.year < 9999
  · rw [dif_pos inCalendar]
    have years := daysBeforeYear_succ date.isDate.year_pos
    have begins := daysBeforeMonth_one (date.year + 1)
    simp only [number, dayOfDate_eq, years, begins, december]
    omega
  rw [dif_neg inCalendar]
  have last : date.year = 9999 := Nat.le_antisymm date.isDate.year_le (Nat.not_lt.mp inCalendar)
  have years : daysBeforeYear 9999 = 3651694 := by decide
  have days : daysBeforeMonth 9999 12 = 334 := by decide
  simp only [number, dayOfDate_eq, december, last, years, days]
  omega

/-- The date before is one day back, and only the first day of all has none. -/
theorem previous?_number (date : Date) :
    match date.previous? with
    | some previous => previous.number + 1 = date.number
    | none => date.number = 1 := by
  have some := date.isDate.day_pos
  unfold previous?
  by_cases inMonth : 1 < date.day
  · rw [dif_pos inMonth]
    simp only [number, dayOfDate_eq]
    omega
  rw [dif_neg inMonth]
  by_cases inYear : 1 < date.month
  · rw [dif_pos inYear]
    have last := date.isDate.month_le
    have months := daysBeforeMonth_succ date.year (date.month - 1) (by omega) (by omega)
    rw [Nat.sub_add_cancel date.isDate.month_pos] at months
    simp only [number, dayOfDate_eq, months]
    omega
  rw [dif_neg inYear]
  have january : date.month = 1 := Nat.le_antisymm (Nat.not_lt.mp inYear) date.isDate.month_pos
  have begins := daysBeforeMonth_one date.year
  by_cases inCalendar : 1 < date.year
  · rw [dif_pos inCalendar]
    have years := daysBeforeYear_succ (show 1 ≤ date.year - 1 by omega)
    rw [Nat.sub_add_cancel date.isDate.year_pos] at years
    have complete := daysBeforeMonth_december (date.year - 1)
    simp only [number, dayOfDate_eq, years, january, begins]
    omega
  rw [dif_neg inCalendar]
  have first : date.year = 1 := Nat.le_antisymm (Nat.not_lt.mp inCalendar) date.isDate.year_pos
  have years : daysBeforeYear 1 = 0 := rfl
  rw [first] at begins
  simp only [number, dayOfDate_eq, january, first, years, begins]
  omega

end Date

/-! ## The date of a day -/

/-- Four hundred years have 146097 days, so the year found by that ratio is not too late by more than
one, and not too early by more than one. -/
theorem guessed_year (day guess : Nat) (some : 1 ≤ day) (guessed : guess = day * 400 / 146097) :
    daysBeforeYear guess < day ∧ day ≤ daysBeforeYear (guess + 3) := by
  unfold daysBeforeYear
  constructor
  · generalize complete : guess - 1 = years
    dsimp only
    omega
  · dsimp only
    omega

/-- The year of a day is the one with so many days before it that the day is the next. -/
theorem yearOfDay_spec {day : Nat} (some : 1 ≤ day) :
    1 ≤ yearOfDay day ∧ daysBeforeYear (yearOfDay day) < day ∧
      day ≤ daysBeforeYear (yearOfDay day + 1) := by
  rcases guessed_year day _ some rfl with ⟨notLate, notEarly⟩
  have first : daysBeforeYear 1 = 0 := rfl
  unfold yearOfDay
  dsimp only
  generalize day * 400 / 146097 = guess at notLate notEarly ⊢
  split
  next early =>
    have positive : guess ≠ 0 := by
      intro zero
      rw [zero, first] at early
      omega
    rw [Nat.add_sub_cancel]
    exact ⟨Nat.pos_of_ne_zero positive, notLate, early⟩
  next late =>
    split
    next later => exact ⟨by omega, later, notEarly⟩
    next found => exact ⟨by omega, Nat.not_le.mp late, Nat.not_lt.mp found⟩

/-- Going through the lengths of the months ends in the month that holds the day. -/
theorem monthAndDay_spec {lengths : List Nat} {first day : Nat} (some : 1 ≤ day)
    (inside : day ≤ lengths.foldl (· + ·) 0) :
    ∃ passed, ∃ inRange : passed < lengths.length,
      (monthAndDay first lengths day).1 = first + passed ∧
        1 ≤ (monthAndDay first lengths day).2 ∧
        (monthAndDay first lengths day).2 ≤ lengths[passed] ∧
        (lengths.take passed).foldl (· + ·) 0 + (monthAndDay first lengths day).2 = day := by
  have sums (start : Nat) (lengths : List Nat) :
      lengths.foldl (· + ·) start = start + lengths.foldl (· + ·) 0 := by
    rw [← Nat.add_zero start, List.foldl_assoc]
    rfl
  induction lengths generalizing first day with
  | nil => exact absurd inside (by simp; omega)
  | cons length rest induction =>
      rw [monthAndDay]
      by_cases here : day ≤ length
      · rw [if_pos here]
        exact ⟨0, by simp, rfl, some, here, by simp⟩
      · rw [if_neg here]
        rw [List.foldl_cons, Nat.zero_add, sums] at inside
        rcases @induction (first + 1) (day - length) (by omega) (by omega) with
          ⟨passed, inRange, month, positive, bounded, total⟩
        refine ⟨passed + 1, by simpa using inRange, by omega, positive, by simpa using bounded, ?_⟩
        rw [List.take_succ_cons, List.foldl_cons, Nat.zero_add, sums]
        omega

theorem getElem_monthLengths (year : Nat) :
    ∀ passed, ∀ inRange : passed < (monthLengths year).length,
      (monthLengths year)[passed] = monthLength year (passed + 1) := by
  unfold monthLength monthLengths
  cases isLeapYear year <;> decide

theorem sum_monthLengths (year : Nat) :
    (monthLengths year).foldl (· + ·) 0 = yearLength year := by
  unfold yearLength monthLengths
  cases isLeapYear year <;> rfl

/-- The date that is written for a day is a date, and its day is this one. -/
theorem dateOfDay_spec {day : Nat} (some : 1 ≤ day) (notPast : day ≤ 3652059) :
    IsDate (dateOfDay day).1 (dateOfDay day).2.1 (dateOfDay day).2.2 ∧
      dayOfDate (dateOfDay day).1 (dateOfDay day).2.1 (dateOfDay day).2.2 = day := by
  rcases yearOfDay_spec some with ⟨year_pos, begins, ends⟩
  unfold dateOfDay
  dsimp only
  generalize yearOfDay day = year at year_pos begins ends ⊢
  have year_le : year ≤ 9999 := by
    apply Nat.le_of_not_lt
    intro past
    have years := daysBeforeYear_mono (show 1 ≤ 10000 by decide) past
    have all : daysBeforeYear 10000 = 3652059 := by decide
    omega
  rw [daysBeforeYear_succ year_pos] at ends
  have positive : 1 ≤ day - daysBeforeYear year := by omega
  have inYear : day - daysBeforeYear year ≤ (monthLengths year).foldl (· + ·) 0 := by
    rw [sum_monthLengths]
    omega
  rcases @monthAndDay_spec (monthLengths year) 1 _ positive inYear with
    ⟨passed, inRange, month, day_pos, day_le, total⟩
  have few : passed < 12 := inRange
  rw [getElem_monthLengths] at day_le
  rw [Nat.add_comm] at month
  rw [month]
  refine ⟨⟨year_pos, year_le, by omega, few, day_pos, day_le⟩, ?_⟩
  simp only [dayOfDate_eq, daysBeforeMonth, Nat.add_sub_cancel]
  omega

end ObservatoryWatch.Calendar
