/-!
Double precision numbers, held exactly.

A finite number is a sign and a whole count of the least positive value, 2^-1074.
Every operation is exact on these counts and rounds once, to the nearest
representable count, a tie going to the even neighbour. Since nothing is left to
the machine's own floating point, the arithmetic can be reasoned about.
-/

namespace ObservatoryWatch.Number

/-- The quotient rounded to the nearest natural number, a tie to the even one. -/
def divideToEven (numerator denominator : Nat) : Nat :=
  let quotient := numerator / denominator
  let twice := 2 * (numerator % denominator)
  if twice < denominator then quotient
  else if denominator < twice then quotient + 1
  else quotient + quotient % 2

theorem divideToEven_le (numerator denominator : Nat) :
    divideToEven numerator denominator ≤ numerator / denominator + 1 := by
  unfold divideToEven
  simp only
  split
  · omega
  · split <;> omega

theorem divideToEven_one (number : Nat) : divideToEven number 1 = number := by
  simp [divideToEven, Nat.mod_one]

/-! ## Representable counts -/

/-- Powers of two are out of range from 2^1024 on, whose count is this power of two. -/
def limitExponent : Nat := 2098

/-- The least count out of range. -/
def unitLimit : Nat := Nat.pow 2 limitExponent

/-- A count has at most 53 significant bits and lies below 2^1024. -/
def Representable (units : Nat) : Prop :=
  units < unitLimit ∧ Nat.pow 2 (Nat.log2 units - 52) ∣ units

theorem unitLimit_pos : 0 < unitLimit := by
  unfold unitLimit
  generalize limitExponent = exponent
  exact Nat.two_pow_pos exponent

theorem representable_zero : Representable 0 := ⟨unitLimit_pos, Nat.dvd_zero _⟩

/-- The gap between neighbouring representable counts around a quotient. -/
def spacing (numerator denominator : Nat) : Nat :=
  Nat.pow 2 (Nat.log2 (numerator / denominator) - 52)

/-- The representable count nearest to a quotient, ignoring the upper limit. -/
def roundUnits (numerator denominator : Nat) : Nat :=
  spacing numerator denominator *
    divideToEven numerator (denominator * spacing numerator denominator)

private theorem pow_log2_sub_dvd (shift factor : Nat) (small : factor ≤ Nat.pow 2 53) :
    Nat.pow 2 (Nat.log2 (Nat.pow 2 shift * factor) - 52) ∣ Nat.pow 2 shift * factor := by
  simp only [Nat.pow_eq] at small ⊢
  by_cases zero : factor = 0
  · simp [zero]
  by_cases top : factor = 2 ^ 53
  · subst top
    rw [← Nat.pow_add, Nat.log2_two_pow]
    exact Nat.pow_dvd_pow 2 (by omega)
  · have below : factor < 2 ^ 53 := by omega
    have bound : 2 ^ shift * factor < 2 ^ (shift + 53) := by
      rw [Nat.pow_add]
      exact Nat.mul_lt_mul_of_pos_left below (Nat.pow_pos (by decide))
    have nonzero : 2 ^ shift * factor ≠ 0 := by
      have : 0 < 2 ^ shift := Nat.pow_pos (by decide)
      have : 0 < factor := by omega
      exact Nat.ne_of_gt (Nat.mul_pos ‹0 < 2 ^ shift› this)
    have : Nat.log2 (2 ^ shift * factor) < shift + 53 := (Nat.log2_lt nonzero).2 bound
    exact Nat.dvd_trans (Nat.pow_dvd_pow 2 (by omega)) (Nat.dvd_mul_right _ _)

theorem roundUnits_dvd (numerator denominator : Nat) :
    Nat.pow 2 (Nat.log2 (roundUnits numerator denominator) - 52) ∣
      roundUnits numerator denominator := by
  unfold roundUnits spacing
  apply pow_log2_sub_dvd
  simp only [Nat.pow_eq]
  have upper := divideToEven_le numerator
    (denominator * 2 ^ (Nat.log2 (numerator / denominator) - 52))
  rw [← Nat.div_div_eq_div_mul] at upper
  have quotient : numerator / denominator /
      2 ^ (Nat.log2 (numerator / denominator) - 52) < 2 ^ 53 := by
    rw [Nat.div_lt_iff_lt_mul (Nat.pow_pos (by decide))]
    by_cases zero : numerator / denominator = 0
    · rw [zero]; exact Nat.mul_pos (by decide) (Nat.pow_pos (by decide))
    · rw [← Nat.pow_add]
      exact (Nat.log2_lt zero).1 (by omega)
  omega

end ObservatoryWatch.Number

namespace ObservatoryWatch

open Number

/-- A double precision number; all not-a-number values are one value here. -/
inductive Binary64 where
  | nan
  | infinite (negative : Bool)
  | finite (negative : Bool) (units : Nat) (representable : Representable units)
  deriving DecidableEq

namespace Binary64

instance : Inhabited Binary64 := ⟨.nan⟩

/-- The count of least positive values that makes one. -/
def unitsPerOne : Nat := Nat.pow 2 1074

/-- The number nearest to a quotient of counts; past the range it is infinite. -/
def ofRatio (negative : Bool) (numerator denominator : Nat) : Binary64 :=
  if inRange : roundUnits numerator denominator < unitLimit then
    .finite negative (roundUnits numerator denominator)
      ⟨inRange, roundUnits_dvd numerator denominator⟩
  else .infinite negative

def zero (negative : Bool) : Binary64 := .finite negative 0 representable_zero

instance : OfNat Binary64 0 := ⟨zero false⟩

/-- The result of a rounding, if it has stayed within the range. -/
def inRange? : Binary64 → Option Binary64
  | .infinite _ => none
  | rounded => some rounded

/-- A whole number, rounded; none when it lies past the range. -/
def ofInt? (number : Int) : Option Binary64 :=
  inRange? (ofRatio (number < 0) (number.natAbs * unitsPerOne) 1)

/-- A natural number, rounded; past the range it is infinite. -/
def ofNat (number : Nat) : Binary64 := ofRatio false (number * unitsPerOne) 1

/-! ## Views -/

def isNaN : Binary64 → Bool
  | .nan => true
  | _ => false

def isFinite : Binary64 → Bool
  | .finite _ _ _ => true
  | _ => false

def isNegative : Binary64 → Bool
  | .nan => false
  | .infinite negative => negative
  | .finite negative _ _ => negative

def signed (negative : Bool) (units : Nat) : Int :=
  if negative then -(units : Int) else units

/-- A number's place in the order: its signed count, the infinities beyond all. -/
def rank? : Binary64 → Option Int
  | .nan => none
  | .infinite negative => some (signed negative unitLimit)
  | .finite negative units _ => some (signed negative units)

/-- A finite number with no fractional part. -/
def isWhole : Binary64 → Bool
  | .finite _ units _ => units % unitsPerOne == 0
  | _ => false

/-- The whole part of a finite number, toward zero. -/
def truncate? : Binary64 → Option Int
  | .finite negative units _ => some (signed negative (units / unitsPerOne))
  | _ => none

/-- The whole number nearest to a finite number, a tie going to the even one. -/
def nearest? : Binary64 → Option Int
  | .finite negative units _ => some (signed negative (divideToEven units unitsPerOne))
  | _ => none

/-! ## Comparison

Not-a-number compares with nothing, and the two zeros are equal. -/

def compareWith (test : Int → Int → Bool) (left right : Binary64) : Bool :=
  match left.rank?, right.rank? with
  | some left, some right => test left right
  | _, _ => false

def isLess (left right : Binary64) : Bool := compareWith (· < ·) left right

def isAtMost (left right : Binary64) : Bool := compareWith (· ≤ ·) left right

def isEqual (left right : Binary64) : Bool := compareWith (· == ·) left right

/-! ## Arithmetic -/

def negate : Binary64 → Binary64
  | .nan => .nan
  | .infinite negative => .infinite (!negative)
  | .finite negative units representable => .finite (!negative) units representable

/-- Sum of two numbers; a sum of nothing keeps a minus sign only when both had one. -/
def add : Binary64 → Binary64 → Binary64
  | .nan, _ | _, .nan => .nan
  | .infinite left, .infinite right => if left == right then .infinite left else .nan
  | .infinite negative, _ | _, .infinite negative => .infinite negative
  | .finite leftNegative left _, .finite rightNegative right _ =>
    let sum := signed leftNegative left + signed rightNegative right
    if sum = 0 then zero (leftNegative && rightNegative)
    else ofRatio (sum < 0) sum.natAbs 1

def subtract (left right : Binary64) : Binary64 := left.add right.negate

def multiply : Binary64 → Binary64 → Binary64
  | .nan, _ | _, .nan => .nan
  | .infinite left, .infinite right => .infinite (left != right)
  | .infinite sign, .finite negative units _
  | .finite negative units _, .infinite sign =>
    if units = 0 then .nan else .infinite (sign != negative)
  | .finite leftNegative left _, .finite rightNegative right _ =>
    ofRatio (leftNegative != rightNegative) (left * right) unitsPerOne

instance : Add Binary64 := ⟨add⟩
instance : Sub Binary64 := ⟨subtract⟩
instance : Mul Binary64 := ⟨multiply⟩
instance : Neg Binary64 := ⟨negate⟩

end Binary64

end ObservatoryWatch
