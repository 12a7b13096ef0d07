import ObservatoryWatch.Text.Utf8

/-!
Hexadecimal digits: octets as pairs of them, and numbers.
-/

namespace ObservatoryWatch.Text

def lowerHexDigits : List Char := "0123456789abcdef".toList

def upperHexDigits : List Char := "0123456789ABCDEF".toList

/-- The two digits of an octet, taken from an alphabet of sixteen. -/
def hexPair (alphabet : List Char) (octet : UInt8) : List Char :=
  [alphabet.getD (octet.toNat / 16) '0', alphabet.getD (octet.toNat % 16) '0']

/-- Hexadecimal digits of a number, zeros in front up to the width. -/
def hexDigits (width number : Nat) : List Char :=
  let digits := Nat.toDigits 16 number
  List.replicate (width - digits.length) '0' ++ digits

def hexText (bytes : Bytes) : String :=
  String.ofList (bytes.flatMap (hexPair lowerHexDigits))

def hexValue? (digit : Char) : Option Nat :=
  lowerHexDigits.findIdx? (· == digit.toLower)

/-- Reads pairs of digits in either case. -/
def ofHexDigits? : List Char → Option Bytes
  | [] => some []
  | high :: low :: rest => do
    let high ← hexValue? high
    let low ← hexValue? low
    (ofHexDigits? rest).map (UInt8.ofNat (16 * high + low) :: ·)
  | _ => none

example : ofHexDigits? "0aFF".toList = some [10, 255] := by decide

end ObservatoryWatch.Text
