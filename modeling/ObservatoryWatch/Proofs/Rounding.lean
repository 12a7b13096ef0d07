import Mathlib.Data.Int.Order.Basic
import Mathlib.Data.Nat.Basic
import Mathlib.Order.MinMax
import Mathlib.Order.Monotone.Defs
import ObservatoryWatch.Number.Binary64

/-!
Rounding keeps the order.

A number is rounded to the nearest count that can be represented. Of two numbers the larger one is
never rounded to less, and a count that can be represented is rounded to itself. So a difference
that is computed compares with any number as the true difference does, but where the two meet.
-/

namespace ObservatoryWatch

namespace Number

/-! ## Quotients -/

theorem div_le_divideToEven (numerator denominator : Nat) :
    numerator / denominator ≤ divideToEven numerator denominator := by
  unfold divideToEven
  dsimp only
  split
  · exact Nat.le_refl _
  · split <;> omega

theorem divideToEven_mono (denominator : Nat) :
    Monotone fun numerator => divideToEven numerator denominator := by
  intro low high le
  change divideToEven low denominator ≤ divideToEven high denominator
  have quotients : low / denominator ≤ high / denominator := Nat.div_le_div_right le
  rcases Nat.lt_or_eq_of_le quotients with less | same
  · calc
      divideToEven low denominator ≤ low / denominator + 1 := divideToEven_le low denominator
      _ ≤ high / denominator := less
      _ ≤ divideToEven high denominator := div_le_divideToEven high denominator
  · -- The quotients are the same, so the remainders are in order.
    have lowParts := Nat.div_add_mod low denominator
    have highParts := Nat.div_add_mod high denominator
    rw [same] at lowParts
    have remainders : low % denominator ≤ high % denominator := by omega
    unfold divideToEven
    dsimp only
    rw [same]
    split
    · split
      · exact Nat.le_refl _
      · split <;> omega
    · split
      · rw [if_neg (by omega), if_pos (by omega)]
      · split
        · omega
        · split <;> omega

theorem divideToEven_mul_left (factor : Nat) {denominator : Nat} (positive : 0 < denominator) :
    divideToEven (denominator * factor) denominator = factor := by
  unfold divideToEven
  rw [Nat.mul_div_cancel_left factor positive, Nat.mul_mod_right]
  exact if_pos positive

/-! ## Counts -/

theorem roundUnits_one (units : Nat) :
    roundUnits units 1 = Nat.pow 2 (Nat.log2 units - 52) *
      divideToEven units (Nat.pow 2 (Nat.log2 units - 52)) := by
  simp [roundUnits, spacing]

theorem roundUnits_of_representable {units : Nat} (representable : Representable units) :
    roundUnits units 1 = units := by
  rw [roundUnits_one, Nat.pow_eq]
  rcases representable.2 with ⟨factor, parts⟩
  rw [Nat.pow_eq] at parts
  have positive : 0 < 2 ^ (Nat.log2 units - 52) := Nat.two_pow_pos _
  generalize 2 ^ (Nat.log2 units - 52) = gap at *
  rw [parts, divideToEven_mul_left factor positive]

theorem two_pow_log2_le_roundUnits {units : Nat} (nonzero : units ≠ 0) :
    Nat.pow 2 (Nat.log2 units) ≤ roundUnits units 1 := by
  have least : 2 ^ Nat.log2 units ≤ units := Nat.log2_self_le nonzero
  rw [roundUnits_one, Nat.pow_eq, Nat.pow_eq]
  have quotient := div_le_divideToEven units (2 ^ (Nat.log2 units - 52))
  by_cases small : Nat.log2 units ≤ 52
  · rw [Nat.sub_eq_zero_of_le small, Nat.pow_zero, Nat.one_mul, divideToEven_one]
    exact least
  · have parts : 2 ^ Nat.log2 units = 2 ^ (Nat.log2 units - 52) * 2 ^ 52 := by
      rw [← Nat.pow_add]
      congr 1
      omega
    have many : 2 ^ 52 ≤ units / 2 ^ (Nat.log2 units - 52) := by
      rw [Nat.le_div_iff_mul_le (Nat.two_pow_pos _), Nat.mul_comm, ← parts]
      exact least
    rw [parts]
    exact Nat.mul_le_mul_left _ (many.trans quotient)

theorem unitLimit_le_roundUnits : unitLimit ≤ roundUnits unitLimit 1 := by
  have exponent : Nat.pow 2 (Nat.log2 unitLimit) = unitLimit := by
    unfold unitLimit
    generalize limitExponent = exponent
    rw [Nat.pow_eq, Nat.pow_eq, Nat.log2_two_pow]
  calc
    unitLimit = Nat.pow 2 (Nat.log2 unitLimit) := exponent.symm
    _ ≤ roundUnits unitLimit 1 := two_pow_log2_le_roundUnits unitLimit_pos.ne'

theorem roundUnits_le_two_pow (units : Nat) :
    roundUnits units 1 ≤ Nat.pow 2 (Nat.log2 units + 1) := by
  have most : units < 2 ^ (Nat.log2 units + 1) := Nat.lt_log2_self
  rw [roundUnits_one, Nat.pow_eq, Nat.pow_eq]
  have quotient := divideToEven_le units (2 ^ (Nat.log2 units - 52))
  by_cases small : Nat.log2 units ≤ 52
  · rw [Nat.sub_eq_zero_of_le small, Nat.pow_zero, Nat.one_mul, divideToEven_one]
    exact most.le
  · have parts : 2 ^ (Nat.log2 units + 1) = 2 ^ (Nat.log2 units - 52) * 2 ^ 53 := by
      rw [← Nat.pow_add]
      congr 1
      omega
    have few : units / 2 ^ (Nat.log2 units - 52) < 2 ^ 53 := by
      rw [Nat.div_lt_iff_lt_mul (Nat.two_pow_pos _), Nat.mul_comm, ← parts]
      exact most
    rw [parts]
    exact Nat.mul_le_mul_left _ (quotient.trans few)

theorem roundUnits_mono : Monotone fun units => roundUnits units 1 := by
  intro low high le
  change roundUnits low 1 ≤ roundUnits high 1
  by_cases zero : low = 0
  · subst low
    rw [roundUnits_of_representable representable_zero]
    exact Nat.zero_le _
  · have nonzero : high ≠ 0 := by omega
    have exponents : Nat.log2 low ≤ Nat.log2 high :=
      (Nat.le_log2 nonzero).mpr ((Nat.log2_self_le zero).trans le)
    rcases Nat.lt_or_eq_of_le exponents with less | same
    · calc
        roundUnits low 1 ≤ 2 ^ (Nat.log2 low + 1) := roundUnits_le_two_pow low
        _ ≤ 2 ^ Nat.log2 high := Nat.pow_le_pow_right (by decide) less
        _ ≤ roundUnits high 1 := two_pow_log2_le_roundUnits nonzero
    · rw [roundUnits_one, roundUnits_one, same]
      exact Nat.mul_le_mul_left _ (divideToEven_mono _ le)

end Number

namespace Binary64

open Number

/-! ## Places in the order -/

/-- The place of the number that a whole count is rounded to. -/
def roundedRank (count : Int) : Int :=
  signed (count < 0) (min (roundUnits count.natAbs 1) unitLimit)

theorem rank?_ofRatio_one (count : Int) :
    (ofRatio (count < 0) count.natAbs 1).rank? = some (roundedRank count) := by
  unfold ofRatio roundedRank
  split
  next inRange => rw [Nat.min_eq_left inRange.le]; rfl
  next past => rw [Nat.min_eq_right (Nat.le_of_not_lt past)]; rfl

theorem roundedRank_mono {low high : Int} (le : low ≤ high) :
    roundedRank low ≤ roundedRank high := by
  unfold roundedRank signed
  have upward : ∀ {fewer more : Nat}, fewer ≤ more →
      min (roundUnits fewer 1) unitLimit ≤ min (roundUnits more 1) unitLimit :=
    fun le => min_le_min_right unitLimit (roundUnits_mono le)
  by_cases lowNegative : low < 0 <;> by_cases highNegative : high < 0
  · have sizes : high.natAbs ≤ low.natAbs := by omega
    have := upward sizes
    simp only [lowNegative, highNegative, decide_true, if_true]
    omega
  · simp only [lowNegative, highNegative, decide_true, decide_false, if_true, if_false,
      Bool.false_eq_true]
    omega
  · omega
  · have sizes : low.natAbs ≤ high.natAbs := by omega
    have := upward sizes
    simp only [lowNegative, highNegative, decide_false, if_false, Bool.false_eq_true]
    omega

/-- A place in the order that a number has is not moved by rounding. -/
theorem roundedRank_of_rank? {number : Binary64} {rank : Int} (placed : number.rank? = some rank) :
    roundedRank rank = rank := by
  have natAbs : ∀ negative units, (signed negative units).natAbs = units := by
    intro negative units
    cases negative <;> simp [signed]
  have kept : ∀ {negative units}, min (roundUnits units 1) unitLimit = units →
      roundedRank (signed negative units) = signed negative units := by
    intro negative units same
    unfold roundedRank
    rw [natAbs, same]
    cases negative with
    | false =>
        have notBelow : ¬ (units : Int) < 0 := by omega
        change signed (decide ((units : Int) < 0)) units = _
        rw [decide_eq_false notBelow]
    | true =>
        rcases Nat.eq_zero_or_pos units with rfl | positive
        · rfl
        · have below : -(units : Int) < 0 := by omega
          change signed (decide (-(units : Int) < 0)) units = _
          rw [decide_eq_true below]
  cases number with
  | nan => cases placed
  | infinite negative =>
      cases placed
      exact kept (Nat.min_eq_right unitLimit_le_roundUnits)
  | finite negative units representable =>
      cases placed
      apply kept
      rw [roundUnits_of_representable representable]
      exact Nat.min_eq_left representable.1.le

/-- A difference of finite numbers is the true one, rounded. -/
theorem rank?_sub {left right : Binary64} {leftRank rightRank : Int}
    (leftFinite : left.isFinite = true) (rightFinite : right.isFinite = true)
    (leftPlaced : left.rank? = some leftRank) (rightPlaced : right.rank? = some rightRank) :
    (left - right).rank? = some (roundedRank (leftRank - rightRank)) := by
  rcases left with _ | _ | ⟨leftNegative, leftUnits, leftFits⟩ <;> cases leftFinite
  rcases right with _ | _ | ⟨rightNegative, rightUnits, rightFits⟩ <;> cases rightFinite
  cases leftPlaced
  cases rightPlaced
  have negated : signed (!rightNegative) rightUnits = -signed rightNegative rightUnits := by
    cases rightNegative <;> simp [signed]
  change (add (.finite leftNegative leftUnits leftFits)
    (.finite (!rightNegative) rightUnits rightFits)).rank? = _
  rw [add, negated, ← Int.sub_eq_add_neg]
  split
  next none =>
    have placed : (zero false).rank? = some 0 := rfl
    have unmoved : roundedRank 0 = 0 := roundedRank_of_rank? placed
    rw [none, unmoved]
    cases leftNegative <;> cases rightNegative <;> rfl
  next => exact rank?_ofRatio_one _

/-! ## Distances -/

theorem isAtMost_iff {left right : Binary64} :
    left.isAtMost right = true ↔
      ∃ leftRank rightRank, left.rank? = some leftRank ∧ right.rank? = some rightRank ∧
        leftRank ≤ rightRank := by
  unfold isAtMost compareWith
  cases left.rank? <;> cases right.rank? <;> simp

theorem exists_rank?_of_isFinite {number : Binary64} (finite : number.isFinite = true) :
    ∃ rank, number.rank? = some rank := by
  cases number <;> cases finite
  exact ⟨_, rfl⟩

/-- How far it truly is from one number to another one, in counts of the least positive value. -/
def distance? (start finish : Binary64) : Option Int := do
  return (← finish.rank?) - (← start.rank?)

theorem distance?_eq {start finish : Binary64} {startRank finishRank : Int}
    (startPlaced : start.rank? = some startRank) (finishPlaced : finish.rank? = some finishRank) :
    start.distance? finish = some (finishRank - startRank) := by
  unfold distance?
  rw [startPlaced, finishPlaced]
  rfl

variable {limit start middle finish : Binary64}

/-- Of two finite numbers the farther one keeps every distance that the nearer one keeps, also
when the distances have to be rounded. -/
theorem isAtMost_sub_of_isAtMost (startFinite : start.isFinite = true)
    (middleFinite : middle.isFinite = true) (finishFinite : finish.isFinite = true)
    (order : middle.isAtMost finish = true) (kept : limit.isAtMost (middle - start) = true) :
    limit.isAtMost (finish - start) = true := by
  rcases exists_rank?_of_isFinite startFinite with ⟨startRank, startPlaced⟩
  rcases isAtMost_iff.mp order with ⟨middleRank, finishRank, middlePlaced, finishPlaced, order⟩
  rcases isAtMost_iff.mp kept with ⟨limitRank, difference, limitPlaced, differencePlaced, kept⟩
  rw [rank?_sub middleFinite startFinite middlePlaced startPlaced] at differencePlaced
  cases differencePlaced
  refine isAtMost_iff.mpr ⟨limitRank, _, limitPlaced,
    rank?_sub finishFinite startFinite finishPlaced startPlaced, kept.trans ?_⟩
  exact roundedRank_mono (by omega)

/-- A distance that is computed to be too small truly is. -/
theorem distance?_lt_of_not_isAtMost {limitRank : Int} (limitPlaced : limit.rank? = some limitRank)
    (startFinite : start.isFinite = true) (finishFinite : finish.isFinite = true)
    (near : limit.isAtMost (finish - start) = false) :
    ∃ distance, start.distance? finish = some distance ∧ distance < limitRank := by
  rcases exists_rank?_of_isFinite startFinite with ⟨startRank, startPlaced⟩
  rcases exists_rank?_of_isFinite finishFinite with ⟨finishRank, finishPlaced⟩
  refine ⟨_, distance?_eq startPlaced finishPlaced, lt_of_not_ge fun far => ?_⟩
  -- A limit is not moved by rounding, so what reaches it is not rounded to less.
  have rounded : limitRank ≤ roundedRank (finishRank - startRank) := by
    rw [← roundedRank_of_rank? limitPlaced]
    exact roundedRank_mono far
  have reached : limit.isAtMost (finish - start) = true := isAtMost_iff.mpr
    ⟨limitRank, _, limitPlaced, rank?_sub finishFinite startFinite finishPlaced startPlaced,
      rounded⟩
  rw [reached] at near
  cases near

end Binary64

end ObservatoryWatch
