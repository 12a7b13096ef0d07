import ObservatoryWatch.Number.Decimal

/-!
Conversions between whole numbers and double precision that can fail.
-/

namespace ObservatoryWatch.Number

/-- Why a conversion has no result. -/
inductive ConversionFault where
  | wholeOfNaN
  | wholeOfInfinity
  | pastRange
  deriving DecidableEq, Repr

def ConversionFault.message : ConversionFault → String
  | wholeOfNaN => "cannot convert float NaN to integer"
  | wholeOfInfinity => "cannot convert float infinity to integer"
  | pastRange => "int too large to convert to float"

/-- The whole part of a number, toward zero. -/
def wholePart : Binary64 → Except ConversionFault Int
  | .nan => .error .wholeOfNaN
  | .infinite _ => .error .wholeOfInfinity
  | .finite negative units _ =>
    .ok (Binary64.signed negative (units / Binary64.unitsPerOne))

/-- The nearest double precision number. -/
def ofWhole (value : Int) : Except ConversionFault Binary64 :=
  (Binary64.ofInt? value).elim (.error .pastRange) .ok

end ObservatoryWatch.Number
