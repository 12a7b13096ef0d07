import ObservatoryWatch.Number.Shortest

/-!
How numbers are written.

A `Style` collects the choices a written form makes: where positional notation
begins and ends, whether a whole number keeps its point, how wide an exponent is
and what stands for the values that are not finite. The writing itself is the same
for all of them.
-/

namespace ObservatoryWatch.Number

/-- The choices of one written form. -/
structure Style where
  /-- The least leading place that is written without an exponent. -/
  leastPositional : Int
  /-- The first leading place that is written with an exponent. -/
  positionalLimit : Int
  /-- A whole number written without an exponent ends in a point and a zero. -/
  keepsPoint : Bool
  /-- The least number of digits of an exponent. -/
  exponentWidth : Nat
  notANumber : String
  /-- The text of an infinity, given whether it is negative. -/
  infinity : Bool → String

def signText (negative : Bool) : String := if negative then "-" else ""

/-- The form a number is echoed in: positional from 0.0001 up to 10^16. -/
def Style.standard : Style where
  leastPositional := -4
  positionalLimit := 16
  keepsPoint := true
  exponentWidth := 2
  notANumber := "nan"
  infinity := fun negative => signText negative ++ "inf"

/-- The form for a number of significant digits, without trailing zeros. -/
def Style.general (digits : Nat) : Style where
  leastPositional := -4
  positionalLimit := digits
  keepsPoint := false
  exponentWidth := 2
  notANumber := "nan"
  infinity := fun negative => signText negative ++ "inf"

/-! ## Laying out digits -/

/-- Moves trailing zeros of the coefficient into the exponent. -/
def Decimal.trim (decimal : Decimal) : Decimal :=
  let digits := digitsOf decimal.coefficient
  let kept := digits.reverse.dropWhile (· == '0') |>.reverse
  if kept.isEmpty then { decimal with coefficient := 0, exponent := 0 }
  else
    { decimal with
      coefficient := digitsValue kept
      exponent := decimal.exponent + (digits.length - kept.length : Nat) }

/-- Digits with a point so many places from the right, zeros filling the gaps. -/
def positional (digits : List Char) (exponent : Int) : List Char × List Char :=
  if 0 ≤ exponent then (digits ++ List.replicate exponent.toNat '0', [])
  else
    let places := (-exponent).toNat
    let filled := List.replicate (places + 1 - digits.length) '0' ++ digits
    (filled.take (filled.length - places), filled.drop (filled.length - places))

def joinPoint (whole fraction : List Char) : String :=
  if fraction.isEmpty then String.ofList whole
  else String.ofList (whole ++ '.' :: fraction)

/-- An exponent with its sign and at least the given number of digits. -/
def exponentText (width : Nat) (exponent : Int) : String :=
  (if exponent < 0 then "e-" else "e+") ++ padded width exponent.natAbs

/-- Writes a magnitude given by its digits. -/
def Style.writeDecimal (style : Style) (decimal : Decimal) : String :=
  let trimmed := decimal.trim
  let digits := digitsOf trimmed.coefficient
  let place := trimmed.exponent + digits.length - 1
  if style.leastPositional ≤ place && place < style.positionalLimit then
    let (whole, fraction) := positional digits trimmed.exponent
    joinPoint whole (if fraction.isEmpty && style.keepsPoint then ['0'] else fraction)
  else
    joinPoint (digits.take 1) (digits.drop 1) ++ exponentText style.exponentWidth place

/-- Writes a number with the digits that the given approximation yields. -/
def Style.writeWith (style : Style) (approximate : Nat → Decimal) : Binary64 → String
  | .nan => style.notANumber
  | .infinite negative => style.infinity negative
  | .finite negative units _ => signText negative ++ style.writeDecimal (approximate units)

/-- Writes a number with the fewest digits that read back as it. -/
def Style.write (style : Style) (number : Binary64) : String :=
  style.writeWith shortest number

end ObservatoryWatch.Number

namespace ObservatoryWatch.Binary64

open Number

/-- The number with the fewest digits that read back as it. -/
def toText (number : Binary64) : String := Style.standard.write number

/-- At most so many significant digits, but at least one, without trailing zeros. -/
def toGeneralText (digits : Nat) (number : Binary64) : String :=
  (Style.general (max 1 digits)).writeWith (significant (max 1 digits)) number

/-- One digit, so many places after the point, and an exponent. -/
def toExponentText (places : Nat) : Binary64 → String
  | .nan => "nan"
  | .infinite negative => signText negative ++ "inf"
  | .finite negative units _ =>
    let decimal := significant (places + 1) units
    let digits := digitsOf decimal.coefficient
    let place := if units = 0 then 0 else decimal.exponent + digits.length - 1
    let fraction := (digits.drop 1 ++ List.replicate places '0').take places
    signText negative ++ joinPoint (digits.take 1) fraction ++ exponentText 2 place

/-- Exactly so many places after the point, a tie going to the even digit. -/
def toFixedText (places : Nat) : Binary64 → String
  | .nan => "nan"
  | .infinite negative => signText negative ++ "inf"
  | .finite negative units _ =>
    let (whole, fraction) := positional (digitsOf (roundedAt (-places) units)) (-places)
    signText negative ++ joinPoint whole fraction

example : toText 0 = "0.0" := by decide +kernel
example : toText (.ofNat 300) = "300.0" := by decide +kernel
example : toGeneralText 6 (.ofNat 1234567) = "1.23457e+06" := by decide +kernel
example : toExponentText 2 (.ofNat 99999) = "1.00e+05" := by decide +kernel
example : toFixedText 0 (.ofRatio false (5 * Nat.pow 2 1073) 1) = "2" := by decide +kernel

end ObservatoryWatch.Binary64
