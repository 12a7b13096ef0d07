import ObservatoryWatch.Number.Binary64

/-!
Decimal numerals and the double precision numbers they stand for.

A numeral is read exactly and rounded once. The spelling accepted here is the
free one: a sign, digits with an optional point before, inside or after them, and
an optional power of ten.
-/

namespace ObservatoryWatch.Number

/-! ## Digits -/

def digitValue? (character : Char) : Option Nat :=
  if character.isDigit then some (character.toNat - '0'.toNat) else none

/-- The number that a run of digits spells; other characters count as nothing. -/
def digitsValue (digits : List Char) : Nat :=
  digits.foldl (fun value digit => 10 * value + (digitValue? digit).getD 0) 0

/-- The digits of a number, the leading one first. -/
def digitsOf (number : Nat) : List Char := Nat.toDigits 10 number

def digitCount (number : Nat) : Nat := (digitsOf number).length

/-- The number's digits, with zeros in front up to the width. -/
def padded (width number : Nat) : String :=
  String.ofList (List.replicate (width - digitCount number) '0' ++ digitsOf number)

/-- A whole number with its sign, also where it is not negative. -/
def withSign (number : Int) : String :=
  if number < 0 then toString number else "+" ++ toString number

/-- The longest whole number that is read. -/
def digitLimit : Nat := 4300

/-- Takes out single underscores that stand between two digits; none if one stands elsewhere. -/
def dropDigitSeparators? : List Char → Option (List Char)
  | [] => some []
  | left :: '_' :: right :: rest =>
    if left.isDigit && right.isDigit then
      (dropDigitSeparators? (right :: rest)).map (left :: ·)
    else none
  | character :: rest =>
    if character == '_' then none
    else (dropDigitSeparators? rest).map (character :: ·)

/-! ## Numerals -/

/-- A coefficient times a power of ten, with its sign. -/
structure Decimal where
  negative : Bool
  coefficient : Nat
  exponent : Int
  deriving DecidableEq, Repr

namespace Decimal

/-- The nearest double precision number. Numerals far outside the range are
settled by the place of their leading digit, so no huge power is computed. -/
def toBinary64 (decimal : Decimal) : Binary64 :=
  let leading := (digitCount decimal.coefficient : Int) + decimal.exponent
  if decimal.coefficient = 0 then .zero decimal.negative
  else if 310 < leading then .infinite decimal.negative
  else if leading < -330 then .zero decimal.negative
  else if 0 ≤ decimal.exponent then
    .ofRatio decimal.negative
      (decimal.coefficient * Nat.pow 10 decimal.exponent.toNat * Binary64.unitsPerOne) 1
  else
    .ofRatio decimal.negative (decimal.coefficient * Binary64.unitsPerOne)
      (Nat.pow 10 (-decimal.exponent).toNat)

/-- A sign, if one is written, and what follows it. -/
def takeSign : List Char → Bool × List Char
  | '-' :: rest => (true, rest)
  | '+' :: rest => (false, rest)
  | characters => (false, characters)

/-- The power of ten after a mantissa: nothing, or a mark, a sign and digits to the end. -/
def exponent? : List Char → Option Int
  | [] => some 0
  | mark :: rest =>
    if mark == 'e' || mark == 'E' then
      let (negative, digits) := takeSign rest
      if digits.isEmpty || !digits.all Char.isDigit then none
      else some (Binary64.signed negative (digitsValue digits))
    else none

/-- Reads a whole text as a numeral. -/
def ofText? (characters : List Char) : Option Decimal :=
  let (negative, body) := takeSign characters
  let (whole, afterWhole) := body.span Char.isDigit
  let (fraction, afterMantissa) :=
    match afterWhole with
    | '.' :: rest => rest.span Char.isDigit
    | rest => ([], rest)
  if whole.isEmpty && fraction.isEmpty then none
  else (exponent? afterMantissa).map fun power =>
    { negative
      coefficient := digitsValue (whole ++ fraction)
      exponent := power - fraction.length }

end Decimal

/-! ## Numbers with their names for the values that are not finite -/

/-- Reads a text that is a numeral, or names an infinity or not-a-number in any case. -/
def readBinary64? (characters : List Char) : Option Binary64 :=
  let (negative, body) := Decimal.takeSign characters
  let word := String.ofList (body.map Char.toLower)
  if word == "nan" then some .nan
  else if word == "inf" || word == "infinity" then some (.infinite negative)
  else (Decimal.ofText? characters).map Decimal.toBinary64

/-- The same for a text in which underscores may stand between two digits. -/
def readSeparated? (characters : List Char) : Option Binary64 :=
  dropDigitSeparators? characters >>= readBinary64?

end ObservatoryWatch.Number
