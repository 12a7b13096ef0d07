import ObservatoryWatch.Proofs.Dates
import ObservatoryWatch.Proofs.MinuteText

/-!
The time of day that a countdown adds.

A date with a time of day goes on by single seconds, with carries from seconds to minutes, hours and
dates, and goes back by borrows. Going so many seconds on or back ends where the count of seconds
says, or runs out of the calendar if the count does. The time of the flip is therefore found by plain
addition: what is left of the seconds of the day after whole days are taken out.
-/

namespace ObservatoryWatch

namespace Calendar

open Number

/-! ## Dates with a time of day -/

structure DateTime where
  date : Date
  hour : Nat
  minute : Nat
  second : Nat
  hour_lt : hour < 24
  minute_lt : minute < 60
  second_lt : second < 60

namespace DateTime

def firstOf (date : Date) : DateTime := ⟨date, 0, 0, 0, by decide, by decide, by decide⟩

def lastOf (date : Date) : DateTime := ⟨date, 23, 59, 59, by decide, by decide, by decide⟩

/-- One second later; nothing after the last second of the calendar. -/
def next? (time : DateTime) : Option DateTime :=
  if inMinute : time.second < 59 then
    some { time with second := time.second + 1, second_lt := by omega }
  else if inHour : time.minute < 59 then
    some { time with
      minute := time.minute + 1
      second := 0
      minute_lt := by omega
      second_lt := by decide }
  else if inDay : time.hour < 23 then
    some { time with
      hour := time.hour + 1
      minute := 0
      second := 0
      hour_lt := by omega
      minute_lt := by decide
      second_lt := by decide }
  else time.date.next?.map firstOf

/-- One second earlier; nothing before the first second of the calendar. -/
def previous? (time : DateTime) : Option DateTime :=
  if 0 < time.second then
    some { time with
      second := time.second - 1
      second_lt := Nat.lt_of_le_of_lt (Nat.sub_le _ _) time.second_lt }
  else if 0 < time.minute then
    some { time with
      minute := time.minute - 1
      second := 59
      minute_lt := Nat.lt_of_le_of_lt (Nat.sub_le _ _) time.minute_lt
      second_lt := by decide }
  else if 0 < time.hour then
    some { time with
      hour := time.hour - 1
      minute := 59
      second := 59
      hour_lt := Nat.lt_of_le_of_lt (Nat.sub_le _ _) time.hour_lt
      minute_lt := by decide
      second_lt := by decide }
  else time.date.previous?.map lastOf

/-- So many steps, as long as there is one to take. -/
def steps? (step : DateTime → Option DateTime) : Nat → DateTime → Option DateTime
  | 0, time => some time
  | count + 1, time => (step time).bind (steps? step count)

/-- So many seconds later, or earlier if the number is negative. -/
def shifted? (time : DateTime) : Int → Option DateTime
  | .ofNat count => steps? next? count time
  | .negSucc fewer => steps? previous? (fewer + 1) time

def secondOfDay (time : DateTime) : Nat := time.hour * 3600 + time.minute * 60 + time.second

/-- Seconds from the beginning of the calendar. -/
def seconds (time : DateTime) : Int := ((time.date.number : Int) - 1) * 86400 + time.secondOfDay

/-- A number below one hundred in two digits. -/
def twoDigits (number : Nat) : String :=
  String.ofList [Nat.digitChar (number / 10), Nat.digitChar (number % 10)]

/-- Hours, minutes and seconds. -/
def clockText (time : DateTime) : String :=
  twoDigits time.hour ++ ":" ++ twoDigits time.minute ++ ":" ++ twoDigits time.second

/-! ## Steps -/

theorem secondOfDay_lt (time : DateTime) : time.secondOfDay < 86400 := by
  have hours := time.hour_lt
  have minutes := time.minute_lt
  have seconds := time.second_lt
  unfold secondOfDay
  omega

theorem secondOfDay_eq (time : DateTime) : (time.secondOfDay : Int) = time.seconds % 86400 := by
  have inDay := time.secondOfDay_lt
  unfold seconds
  omega

/-- The count of seconds determines what the clock shows. -/
theorem clockText_of_seconds {one other : DateTime} (same : one.seconds = other.seconds) :
    one.clockText = other.clockText := by
  have sameDay : one.secondOfDay = other.secondOfDay := by
    have first := one.secondOfDay_eq
    have second := other.secondOfDay_eq
    omega
  have minutes := one.minute_lt
  have minutes' := other.minute_lt
  have seconds := one.second_lt
  have seconds' := other.second_lt
  unfold secondOfDay at sameDay
  have sameHour : one.hour = other.hour := by omega
  have sameMinute : one.minute = other.minute := by omega
  have sameSecond : one.second = other.second := by omega
  unfold clockText
  rw [sameHour, sameMinute, sameSecond]

theorem seconds_bounds (time : DateTime) : 0 ≤ time.seconds ∧ time.seconds < 3652059 * 86400 := by
  have first := time.date.number_pos
  have last := time.date.number_le
  have inDay := time.secondOfDay_lt
  unfold seconds
  omega

/-- Each step goes down by one, and there is none only at the bottom. -/
def Descends (step : DateTime → Option DateTime) (height : DateTime → Int) : Prop :=
  ∀ time, match step time with
    | some reached => height reached + 1 = height time
    | none => height time = 0

theorem Descends.steps {step : DateTime → Option DateTime} {height : DateTime → Int}
    (descends : Descends step height) (count : Nat) (time : DateTime) :
    match steps? step count time with
    | some reached => height reached + count = height time
    | none => height time < count := by
  induction count generalizing time with
  | zero => exact Int.add_zero _
  | succ count induction =>
      have here := descends time
      rw [steps?]
      cases taken : step time with
      | none =>
          rw [taken] at here
          simp only [Option.bind_none]
          omega
      | some following =>
          rw [taken] at here
          have rest := induction following
          simp only [Option.bind_some] at here ⊢
          generalize steps? step count following = reached at rest ⊢
          cases reached <;> simp only at rest ⊢ <;> omega

theorem previous?_descends : Descends previous? seconds := by
  intro time
  have days := time.date.previous?_number
  unfold previous?
  by_cases inMinute : 0 < time.second
  · rw [if_pos inMinute]
    simp only [seconds, secondOfDay]
    omega
  rw [if_neg inMinute]
  by_cases inHour : 0 < time.minute
  · rw [if_pos inHour]
    simp only [seconds, secondOfDay]
    omega
  rw [if_neg inHour]
  by_cases inDay : 0 < time.hour
  · rw [if_pos inDay]
    simp only [seconds, secondOfDay]
    omega
  rw [if_neg inDay]
  cases before : time.date.previous? with
  | none =>
      rw [before] at days
      simp only [Option.map_none, seconds, secondOfDay] at days ⊢
      omega
  | some date =>
      rw [before] at days
      simp only [Option.map_some, seconds, secondOfDay, lastOf] at days ⊢
      omega

theorem next?_descends : Descends next? fun time => 3652059 * 86400 - 1 - time.seconds := by
  intro time
  have days := time.date.next?_number
  have hours := time.hour_lt
  have minutes := time.minute_lt
  have ticks := time.second_lt
  unfold next?
  by_cases inMinute : time.second < 59
  · rw [dif_pos inMinute]
    simp only [seconds, secondOfDay]
    omega
  rw [dif_neg inMinute]
  by_cases inHour : time.minute < 59
  · rw [dif_pos inHour]
    simp only [seconds, secondOfDay]
    omega
  rw [dif_neg inHour]
  by_cases inDay : time.hour < 23
  · rw [dif_pos inDay]
    simp only [seconds, secondOfDay]
    omega
  rw [dif_neg inDay]
  cases after : time.date.next? with
  | none =>
      rw [after] at days
      simp only [Option.map_none, seconds, secondOfDay] at days ⊢
      omega
  | some date =>
      rw [after] at days
      simp only [Option.map_some, seconds, secondOfDay, firstOf] at days ⊢
      omega

/-- A shift ends as many seconds on, unless these seconds lead out of the calendar. -/
theorem shifted?_seconds (time : DateTime) (shift : Int) :
    match time.shifted? shift with
    | some reached => reached.seconds = time.seconds + shift
    | none => time.seconds + shift < 0 ∨ 3652059 * 86400 ≤ time.seconds + shift := by
  cases shift with
  | ofNat count =>
      have steps := next?_descends.steps count time
      have shifted : time.shifted? (.ofNat count) = steps? next? count time := rfl
      rw [shifted, Int.ofNat_eq_natCast]
      generalize steps? next? count time = reached at steps ⊢
      cases reached <;> simp only at steps ⊢ <;> omega
  | negSucc fewer =>
      have steps := previous?_descends.steps (fewer + 1) time
      have shifted : time.shifted? (.negSucc fewer) = steps? previous? (fewer + 1) time := rfl
      rw [shifted, Int.negSucc_eq]
      generalize steps? previous? (fewer + 1) time = reached at steps ⊢
      cases reached <;> simp only at steps ⊢ <;> omega

end DateTime

/-! ## Moments -/

namespace Moment

theorem toNat_day_pos (moment : Moment) : 1 ≤ moment.day.toNat := by
  have first := moment.day_pos
  omega

theorem toNat_day_le (moment : Moment) : moment.day.toNat ≤ 3652059 := by
  have last := moment.day_le
  unfold lastDay at last
  omega

/-- The date that is written for a moment, and its time of day. -/
def dateTime (moment : Moment) : DateTime where
  date := ⟨_, _, _, (dateOfDay_spec moment.toNat_day_pos moment.toNat_day_le).1⟩
  hour := moment.second / 3600
  minute := moment.second / 60 % 60
  second := moment.second % 60
  hour_lt := by have := moment.second_lt; unfold secondsPerDay at this; omega
  minute_lt := Nat.mod_lt _ (by decide)
  second_lt := Nat.mod_lt _ (by decide)

theorem number_dateTime (moment : Moment) :
    (moment.dateTime.date.number : Int) = moment.day := by
  have first := moment.day_pos
  have same : moment.dateTime.date.number = moment.day.toNat :=
    (dateOfDay_spec moment.toNat_day_pos moment.toNat_day_le).2
  omega

theorem secondOfDay_dateTime (moment : Moment) : moment.dateTime.secondOfDay = moment.second := by
  unfold DateTime.secondOfDay dateTime
  dsimp only
  omega

theorem seconds_dateTime (moment : Moment) : moment.dateTime.seconds = moment.seconds := by
  unfold DateTime.seconds seconds secondsPerDay
  rw [number_dateTime, secondOfDay_dateTime]
  omega

theorem padded_two : ∀ number < 100, padded 2 number = DateTime.twoDigits number := by
  decide +kernel

theorem clockText_dateTime (moment : Moment) : moment.dateTime.clockText = moment.clockText := by
  have hours := moment.dateTime.hour_lt
  have minutes := moment.dateTime.minute_lt
  have seconds := moment.dateTime.second_lt
  unfold DateTime.clockText
  rw [← padded_two _ (by omega), ← padded_two _ (by omega), ← padded_two _ (by omega)]
  rfl

/-- A count of seconds is that of a moment exactly within the calendar. -/
theorem ofSeconds?_spec (seconds : Int) (microsecond : Nat) :
    match Moment.ofSeconds? seconds microsecond with
    | some moment => moment.seconds = seconds
    | none => seconds < 0 ∨ 3652059 * 86400 ≤ seconds := by
  unfold Moment.ofSeconds? Moment.seconds lastDay secondsPerDay
  dsimp only
  by_cases bounds : 0 < seconds / (86400 : Nat) + 1 ∧ seconds / (86400 : Nat) + 1 ≤ 3652059
  · rw [dif_pos bounds]
    dsimp only
    omega
  · rw [dif_neg bounds]
    dsimp only
    omega

/-- Adding to the count of seconds leads to the same second as going there step by step, and out of
the calendar if the steps lead there. -/
theorem after?_spec (moment : Moment) (shift : Int) :
    match moment.dateTime.shifted? shift with
    | some reached => ∃ later, moment.after? shift = some later ∧
        later.dateTime.seconds = reached.seconds
    | none => moment.after? shift = none := by
  have steps := moment.dateTime.shifted?_seconds shift
  have added := ofSeconds?_spec (moment.seconds + shift) moment.microsecond
  rw [seconds_dateTime] at steps
  unfold after?
  cases reached : moment.dateTime.shifted? shift with
  | none =>
      rw [reached] at steps
      cases found : Moment.ofSeconds? (moment.seconds + shift) moment.microsecond with
      | none => rfl
      | some later =>
          have inside := later.dateTime.seconds_bounds
          rw [found] at added
          rw [seconds_dateTime] at inside
          simp only at steps added
          omega
  | some last =>
      have inside := last.seconds_bounds
      rw [reached] at steps
      cases found : Moment.ofSeconds? (moment.seconds + shift) moment.microsecond with
      | none =>
          rw [found] at added
          simp only at steps added
          omega
      | some later =>
          rw [found] at added
          simp only at steps added ⊢
          refine ⟨later, rfl, ?_⟩
          rw [seconds_dateTime, added, steps]

end Moment

end Calendar

/-! ## The flip -/

namespace Meridian

open Number Calendar

/-- The seconds until the flip are its hours times 3600, cut to a whole number that fits 32 bits. If
that many seconds from now are in the calendar, the longer text is the short one with the time of day
then, which is now's second of the day and these seconds together without whole days. If they are
not, it is the short one. -/
theorem clock_shows_time_of_flip (hours : Binary64) (now : Moment) :
    (∀ total, CutTo (hours * .ofNat 3600) total ↔ total = seconds hours) ∧
      (-2147483648 ≤ seconds hours ∧ seconds hours ≤ 2147483647) ∧
      match now.dateTime.shifted? (seconds hours) with
      | some flip => (flip.secondOfDay : Int) = (now.second + seconds hours) % 86400 ∧
          clockText hours now = shortText hours ++ " (at " ++ flip.clockText ++ ")"
      | none => clockText hours now = shortText hours := by
  refine ⟨fun total => cutTo_iff, truncate_bounds _, ?_⟩
  have added := now.after?_spec (seconds hours)
  have steps := now.dateTime.shifted?_seconds (seconds hours)
  unfold clockText
  cases reached : now.dateTime.shifted? (seconds hours) with
  | none =>
      rw [reached] at added
      rw [added]
  | some flip =>
      rw [reached] at added steps
      rcases added with ⟨later, found, same⟩
      rw [found]
      constructor
      · have inDay := now.dateTime.secondOfDay_eq
        rw [Moment.secondOfDay_dateTime] at inDay
        rw [flip.secondOfDay_eq, steps, inDay, Int.emod_add_emod]
      · dsimp only
        rw [← later.clockText_dateTime, DateTime.clockText_of_seconds same]

end Meridian

end ObservatoryWatch
