import ObservatoryWatch.Meridian
import ObservatoryWatch.Proofs.Numerals

/-!
What the text of a countdown tells.

The number of minutes is cut toward zero and held within 32 bits. The hours and the minutes of a
countdown both carry its sign, and each is written with at least two characters. Read as whole
numbers they give back the number of minutes, whatever its sign, so the text tells this number and
nothing else about the hours that it was made from.
-/

namespace ObservatoryWatch.Meridian

open Number

/-! ## Whole numbers -/

theorem truncate_bounds (value : Binary64) :
    -2147483648 ≤ truncate value ∧ truncate value ≤ 2147483647 := by
  have least : leastWord 32 = -2147483648 := by decide
  have greatest : greatestWord 32 = 2147483647 := by decide
  have word := isWord_truncate value
  unfold isWord at word
  rw [Bool.and_eq_true, decide_eq_true_eq, decide_eq_true_eq, least, greatest] at word
  exact word

/-- A number is cut to a whole one. What is not a number is cut to zero, and what lies past 32 bits,
the infinities with it, to the last number on its side. Between them the whole number has the sign
of the other one, if it is not zero, and is the greatest that is no further from zero. Numbers are
compared by their counts of the least positive value. -/
inductive CutTo : Binary64 → Int → Prop where
  | notANumber : CutTo .nan 0
  | above {value : Binary64} {count : Int} (place : value.rank? = some count)
      (past : 2147483647 * Binary64.unitsPerOne ≤ count) : CutTo value 2147483647
  | below {value : Binary64} {count : Int} (place : value.rank? = some count)
      (past : count ≤ -2147483648 * Binary64.unitsPerOne) : CutTo value (-2147483648)
  | inside {value : Binary64} {count whole : Int} (place : value.rank? = some count)
      (least : -2147483648 * Binary64.unitsPerOne < count)
      (greatest : count < 2147483647 * Binary64.unitsPerOne)
      (sign : 0 ≤ whole * count)
      (reached : whole.natAbs * Binary64.unitsPerOne ≤ count.natAbs)
      (next : count.natAbs < (whole.natAbs + 1) * Binary64.unitsPerOne) : CutTo value whole

theorem truncate_finite (negative : Bool) (units : Nat) (representable : Representable units) :
    truncate (.finite negative units representable) =
      max (-2147483648)
        (min 2147483647 (Binary64.signed negative (units / Binary64.unitsPerOne))) := by
  have least : leastWord 32 = -2147483648 := by decide
  have greatest : greatestWord 32 = 2147483647 := by decide
  rw [truncate, clampToWord, least, greatest]

section

variable {units : Nat} (representable : Representable units)

theorem unitsPerOne_pos : 0 < Binary64.unitsPerOne := by decide +kernel

theorem cutTo_truncate_positive :
    CutTo (.finite false units representable) (truncate (.finite false units representable)) := by
  have place : (Binary64.finite false units representable).rank? = some (units : Int) := rfl
  have bound := Nat.div_lt_iff_lt_mul (x := units) (y := 2147483647) unitsPerOne_pos
  have reached := Nat.div_mul_le_self units Binary64.unitsPerOne
  have next := (Nat.div_lt_iff_lt_mul unitsPerOne_pos).mp (Nat.lt_succ_self (units / _))
  rw [truncate_finite, Binary64.signed, if_neg Bool.false_ne_true]
  generalize units / Binary64.unitsPerOne = whole at *
  by_cases inside : whole < 2147483647
  · have kept : max (-2147483648) (min 2147483647 (whole : Int)) = whole := by omega
    have sign := Int.mul_nonneg (Int.natCast_nonneg whole) (Int.natCast_nonneg units)
    have greatest := bound.mp inside
    rw [kept]
    exact .inside place (by omega) (by omega) sign reached next
  · have cut : max (-2147483648) (min 2147483647 (whole : Int)) = 2147483647 := by omega
    rw [cut]
    exact .above place (by omega)

theorem cutTo_truncate_negative :
    CutTo (.finite true units representable) (truncate (.finite true units representable)) := by
  have place : (Binary64.finite true units representable).rank? = some (-(units : Int)) := rfl
  have bound := Nat.div_lt_iff_lt_mul (x := units) (y := 2147483648) unitsPerOne_pos
  have reached := Nat.div_mul_le_self units Binary64.unitsPerOne
  have next := (Nat.div_lt_iff_lt_mul unitsPerOne_pos).mp (Nat.lt_succ_self (units / _))
  rw [truncate_finite, Binary64.signed, if_pos rfl]
  generalize units / Binary64.unitsPerOne = whole at *
  by_cases inside : whole < 2147483648
  · have kept : max (-2147483648) (min 2147483647 (-(whole : Int))) = -whole := by omega
    have sign := Int.mul_nonneg (Int.natCast_nonneg whole) (Int.natCast_nonneg units)
    have least := bound.mp inside
    rw [← Int.neg_mul_neg] at sign
    rw [kept]
    exact .inside place (by omega) (by omega) sign (by simpa using reached) (by simpa using next)
  · have cut : max (-2147483648) (min 2147483647 (-(whole : Int))) = -2147483648 := by omega
    rw [cut]
    exact .below place (by omega)

end

theorem cutTo_truncate (value : Binary64) : CutTo value (truncate value) := by
  cases value with
  | nan => exact .notANumber
  | infinite negative =>
      have beyond : 2147483648 * Binary64.unitsPerOne ≤ unitLimit := by decide +kernel
      cases negative with
      | true =>
          have past : -(unitLimit : Int) ≤ -2147483648 * Binary64.unitsPerOne := by omega
          exact .below rfl past
      | false =>
          have past : 2147483647 * Binary64.unitsPerOne ≤ (unitLimit : Int) := by omega
          exact .above rfl past
  | finite negative units representable =>
      cases negative with
      | true => exact cutTo_truncate_negative representable
      | false => exact cutTo_truncate_positive representable

/-- Whole numbers of one sign that are equally far from zero are one number. -/
theorem eq_of_same_sign {whole other count : Int} (sign : 0 ≤ whole * count)
    (sign' : 0 ≤ other * count) (some : count ≠ 0) (same : whole.natAbs = other.natAbs) :
    whole = other := by
  rcases Int.lt_or_gt_of_ne some with negative | positive
  · have left : ¬ 0 < whole := fun above =>
      Int.not_lt.mpr sign (Int.mul_neg_of_pos_of_neg above negative)
    have right : ¬ 0 < other := fun above =>
      Int.not_lt.mpr sign' (Int.mul_neg_of_pos_of_neg above negative)
    omega
  · have left : ¬ whole < 0 := fun below =>
      Int.not_lt.mpr sign (Int.mul_neg_of_neg_of_pos below positive)
    have right : ¬ other < 0 := fun below =>
      Int.not_lt.mpr sign' (Int.mul_neg_of_neg_of_pos below positive)
    omega

/-- Only one whole number has the sign of a number and is the greatest no further from zero. -/
theorem eq_of_reached {whole other count : Int} (sign : 0 ≤ whole * count)
    (sign' : 0 ≤ other * count) (reached : whole.natAbs * Binary64.unitsPerOne ≤ count.natAbs)
    (next : count.natAbs < (whole.natAbs + 1) * Binary64.unitsPerOne)
    (reached' : other.natAbs * Binary64.unitsPerOne ≤ count.natAbs)
    (next' : count.natAbs < (other.natAbs + 1) * Binary64.unitsPerOne) : whole = other := by
  have upper := Nat.lt_of_mul_lt_mul_right (Nat.lt_of_le_of_lt reached next')
  have lower := Nat.lt_of_mul_lt_mul_right (Nat.lt_of_le_of_lt reached' next)
  by_cases some : count = 0
  · have none : ∀ {number : Nat}, number * Binary64.unitsPerOne ≤ 0 → number = 0 :=
      fun within => (Nat.mul_eq_zero.mp (Nat.le_zero.mp within)).resolve_right unitsPerOne_pos.ne'
    rw [some] at reached reached'
    have zero := none reached
    have zero' := none reached'
    omega
  · exact eq_of_same_sign sign sign' some (by omega)

theorem CutTo.unique {value : Binary64} {whole other : Int} (one : CutTo value whole)
    (two : CutTo value other) : whole = other := by
  have unit := unitsPerOne_pos
  cases one with
  | notANumber =>
      cases two with
      | notANumber => rfl
      | above place | below place | inside place => cases place
  | above place past =>
      cases two with
      | notANumber => cases place
      | above => rfl
      | below place' past' =>
          cases place.symm.trans place'
          omega
      | inside place' _ greatest =>
          cases place.symm.trans place'
          omega
  | below place past =>
      cases two with
      | notANumber => cases place
      | above place' past' =>
          cases place.symm.trans place'
          omega
      | below => rfl
      | inside place' least =>
          cases place.symm.trans place'
          omega
  | inside place least greatest sign reached next =>
      cases two with
      | notANumber => cases place
      | above place' past' =>
          cases place.symm.trans place'
          omega
      | below place' past' =>
          cases place.symm.trans place'
          omega
      | inside place' _ _ sign' reached' next' =>
          cases place.symm.trans place'
          exact eq_of_reached sign sign' reached next reached' next'

theorem cutTo_iff {value : Binary64} {whole : Int} :
    CutTo value whole ↔ whole = truncate value := by
  constructor
  · intro cut
    exact cut.unique (cutTo_truncate value)
  · rintro rfl
    exact cutTo_truncate value

/-- Reads a whole number: a sign, if one is written, and digits. -/
def readWhole? (characters : List Char) : Option Int :=
  let (negative, digits) := Decimal.takeSign characters
  if digits.isEmpty || !digits.all Char.isDigit then none
  else some (Binary64.signed negative (digitsValue digits))

theorem readWhole?_signed (negative : Bool) {digits : List Char} (some : digits ≠ [])
    (all : ∀ digit ∈ digits, digit.isDigit = true) :
    readWhole? ((signText negative).toList ++ digits) =
      .some (Binary64.signed negative (digitsValue digits)) := by
  have first : ∀ digit ∈ digits.head?, digit.isDigit = true :=
    fun digit member => all digit (List.mem_of_head? member)
  have valid : ¬ (digits.isEmpty || !digits.all Char.isDigit) = true := by
    simp [some, List.all_eq_true.mpr all]
  unfold readWhole?
  rw [Decimal.takeSign_signText negative first]
  dsimp only
  rw [if_neg valid]

/-- The text of a whole number has at least two characters, none of them a colon, and the number is
read from it. -/
structure Tells (text : List Char) (number : Int) : Prop where
  long : 2 ≤ text.length
  noColon : ':' ∉ text
  read : readWhole? text = some number

theorem toList_twoPlaces (number : Int) :
    ∃ width, 2 ≤ (signText (decide (number < 0))).toList.length + width ∧
      (twoPlaces number).toList =
        (signText (decide (number < 0))).toList ++ (padded width number.natAbs).toList := by
  unfold twoPlaces
  by_cases below : number < 0
  · refine ⟨1, ?_, ?_⟩
    · simp [below, signText]
    · rw [if_pos below, decide_eq_true below, String.toList_append]
      rfl
  · refine ⟨2, by omega, ?_⟩
    rw [if_neg below, decide_eq_false below]
    rfl

theorem twoPlaces_tells (number : Int) : Tells (twoPlaces number).toList number := by
  rcases toList_twoPlaces number with ⟨width, long, text⟩
  have digits : ∀ digit ∈ (padded width number.natAbs).toList, digit.isDigit = true :=
    fun _ => Decimal.isDigit_of_mem_padded
  rw [text]
  constructor
  · have filled := Decimal.le_length_padded width number.natAbs
    rw [List.length_append]
    omega
  · have unsigned : ∀ negative, ':' ∉ (signText negative).toList := by decide
    intro member
    rcases List.mem_append.mp member with inSign | inDigits
    · exact unsigned _ inSign
    · exact absurd (digits ':' inDigits) (by decide)
  · rw [readWhole?_signed _ (Decimal.padded_ne_nil _ _) digits, Decimal.digitsValue_padded,
      Binary64.signed_natAbs]

/-! ## Hours and minutes -/

/-- Dividing toward zero leaves a rest of the same sign. -/
theorem hours_and_minutes (total : Int) :
    60 * total.tdiv 60 + total.tmod 60 = total ∧ (total.tmod 60).natAbs < 60 ∧
      0 ≤ total.tdiv 60 * total.tmod 60 := by
  refine ⟨Int.mul_tdiv_add_tmod total 60, ?_, ?_⟩
  · have least := Int.lt_tmod_of_pos total (show (0 : Int) < 60 by decide)
    have greatest := Int.tmod_lt_of_pos total (show (0 : Int) < 60 by decide)
    omega
  · rcases Int.le_total 0 total with above | below
    · exact Int.mul_nonneg (Int.tdiv_nonneg above (by decide)) (Int.tmod_nonneg 60 above)
    · have turned : 0 ≤ -total := by omega
      have product := Int.mul_nonneg (Int.tdiv_nonneg turned (show (0 : Int) ≤ 60 by decide))
        (Int.tmod_nonneg 60 turned)
      rw [Int.neg_tdiv, Int.neg_tmod, Int.neg_mul_neg] at product
      exact product

/-- The text has one colon, between a number of hours and a number of minutes. Both have the sign of
the whole, and they make up this number of minutes. -/
structure Countdown (text : String) (total hours minutes : Int) : Prop where
  parts : ∃ left right, text.toList.splitOn ':' = [left, right] ∧ Tells left hours ∧
    Tells right minutes
  part : minutes.natAbs < 60
  signs : 0 ≤ hours * minutes
  whole : 60 * hours + minutes = total

theorem shortText_countdown (hours : Binary64) :
    Countdown (shortText hours) (minutes hours) ((minutes hours).tdiv 60)
      ((minutes hours).tmod 60) := by
  have left := twoPlaces_tells ((minutes hours).tdiv 60)
  have right := twoPlaces_tells ((minutes hours).tmod 60)
  rcases hours_and_minutes (minutes hours) with ⟨whole, part, signs⟩
  refine ⟨⟨_, _, ?_, left, right⟩, part, signs, whole⟩
  have text : (shortText hours).toList = (twoPlaces ((minutes hours).tdiv 60)).toList ++
      ':' :: (twoPlaces ((minutes hours).tmod 60)).toList := by
    unfold shortText
    rw [String.toList_append, String.toList_append, List.append_assoc]
    rfl
  rw [text, List.splitOn_append_cons_self_of_not_mem left.noColon,
    List.splitOn_eq_singleton right.noColon]

/-- The number of minutes is read off the text. -/
theorem Countdown.unique {text : String} {total hours minutes total' hours' minutes' : Int}
    (one : Countdown text total hours minutes) (other : Countdown text total' hours' minutes') :
    total = total' := by
  rcases one.parts with ⟨left, right, split, hoursRead, minutesRead⟩
  rcases other.parts with ⟨left', right', split', hoursRead', minutesRead'⟩
  rw [split] at split'
  cases split'
  have sameHours := hoursRead.read.symm.trans hoursRead'.read
  have sameMinutes := minutesRead.read.symm.trans minutesRead'.read
  cases sameHours
  cases sameMinutes
  exact one.whole.symm.trans other.whole

/-- The minutes of a countdown are its hours times sixty, cut to a whole number. The text shows
whole hours and whole minutes that together are this number. Two countdowns have one text exactly if
they have one number of minutes, and this number fits 32 bits. -/
theorem countdown_tells_minutes (hours other : Binary64) :
    (∀ total, CutTo (hours * .ofNat 60) total ↔ total = minutes hours) ∧
      (∃ whole part, Countdown (shortText hours) (minutes hours) whole part) ∧
      (shortText hours = shortText other ↔ minutes hours = minutes other) ∧
      -2147483648 ≤ minutes hours ∧ minutes hours ≤ 2147483647 := by
  refine ⟨fun total => cutTo_iff, ⟨_, _, shortText_countdown hours⟩, ⟨?_, ?_⟩, truncate_bounds _⟩
  · intro same
    have shown := shortText_countdown other
    rw [← same] at shown
    exact (shortText_countdown hours).unique shown
  · intro same
    unfold shortText
    rw [same]

example : minutes (.ofRatio true (3 * Binary64.unitsPerOne) 2) = -90 ∧
    shortText (.ofRatio true (3 * Binary64.unitsPerOne) 2) = "-1:-30" := by decide +kernel

end ObservatoryWatch.Meridian
