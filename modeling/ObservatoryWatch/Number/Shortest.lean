import ObservatoryWatch.Number.Decimal

/-!
Decimal approximations of double precision magnitudes.

`shortest` finds the fewest digits that read back as the same number: for one
digit, then two, and so on, it tries the two neighbours of the value on that grid,
the nearer first. `roundedAt` rounds to a fixed place instead, a tie going to the
even neighbour.
-/

namespace ObservatoryWatch.Number

open Binary64 (unitsPerOne)

/-- The place of a positive magnitude's leading digit: 0 for units, -1 for tenths. -/
def leadingPlace (units : Nat) : Int :=
  if unitsPerOne ≤ units then (digitCount (units / unitsPerOne) : Int) - 1
  else -(digitCount ((unitsPerOne - 1) / units) : Int)

/-- A magnitude measured in steps of the given decimal place, as a quotient. -/
def stepsAt (place : Int) (units : Nat) : Nat × Nat :=
  if 0 ≤ place then (units, unitsPerOne * Nat.pow 10 place.toNat)
  else (units * Nat.pow 10 (-place).toNat, unitsPerOne)

/-- The number of steps of a decimal place nearest to a magnitude. -/
def roundedAt (place : Int) (units : Nat) : Nat :=
  let (numerator, denominator) := stepsAt place units
  divideToEven numerator denominator

/-- The two neighbours on a decimal grid, the nearer one first. -/
def neighboursAt (place : Int) (units : Nat) : List Nat :=
  let (numerator, denominator) := stepsAt place units
  let below := numerator / denominator
  let nearest := divideToEven numerator denominator
  [nearest, if nearest = below then below + 1 else below]

/-- A neighbour on the grid of this many digits that reads back as the same number. -/
def withDigits? (units : Nat) (digits : Nat) : Option Decimal :=
  let place := leadingPlace units - digits + 1
  (neighboursAt place units).findSome? fun coefficient =>
    let decimal : Decimal := { negative := false, coefficient, exponent := place }
    match decimal.toBinary64 with
    | .finite _ found _ => if found = units then some decimal else none
    | _ => none

/-- A magnitude written out in full; every one of them has finitely many digits. -/
def exactly (units : Nat) : Decimal :=
  { negative := false, coefficient := units * Nat.pow 5 1074, exponent := -1074 }

/-- The fewest digits that read back as the same number. -/
def shortest (units : Nat) : Decimal :=
  if units = 0 then { negative := false, coefficient := 0, exponent := 0 }
  else ((List.range 17).findSome? fun count => withDigits? units (count + 1)).getD
    (exactly units)

/-- The magnitude rounded to this many significant digits. -/
def significant (digits : Nat) (units : Nat) : Decimal :=
  if units = 0 then { negative := false, coefficient := 0, exponent := 0 }
  else
    let place := leadingPlace units - digits + 1
    { negative := false, coefficient := roundedAt place units, exponent := place }

end ObservatoryWatch.Number
