import ObservatoryWatch.Text.CodePoint

/-!
UTF-16 and UTF-32 in both orders of octets.

A text that ends inside a unit and a number past the last code point are refused. A
surrogate without its partner is kept as it is.
-/

namespace ObservatoryWatch.Text

/-- Which octet of a unit comes first. -/
inductive ByteOrder where
  | bigEndian
  | littleEndian
  deriving DecidableEq

/-- Groups octets into pairs, read as numbers. -/
def units16? (order : ByteOrder) : Bytes → Option (List Nat)
  | [] => some []
  | [_] => none
  | first :: second :: rest =>
    let unit := match order with
      | .bigEndian => first.toNat * 256 + second.toNat
      | .littleEndian => second.toNat * 256 + first.toNat
    (units16? order rest).map (unit :: ·)

def isHighSurrogate (unit : Nat) : Bool := 0xD800 ≤ unit && unit < 0xDC00

def isLowSurrogate (unit : Nat) : Bool := 0xDC00 ≤ unit && unit < 0xE000

/-- The code of the character of which two surrogates are the halves. -/
def joined (high low : Nat) : Nat := 0x10000 + (high - 0xD800) * 0x400 + (low - 0xDC00)

/-- Joins surrogates that belong together and reads the units as code points. -/
def ofUnits16? : List Nat → Option (List CodePoint)
  | [] => some []
  | [unit] => (CodePoint.ofNat? unit).map ([·])
  | unit :: next :: rest =>
    if isHighSurrogate unit && isLowSurrogate next then do
      let point ← CodePoint.ofNat? (joined unit next)
      (ofUnits16? rest).map (point :: ·)
    else do
      let point ← CodePoint.ofNat? unit
      (ofUnits16? (next :: rest)).map (point :: ·)

def decodeUtf16? (order : ByteOrder) (bytes : Bytes) : Option (List CodePoint) :=
  units16? order bytes >>= ofUnits16?

def decodeUtf32? (order : ByteOrder) : Bytes → Option (List CodePoint)
  | [] => some []
  | first :: second :: third :: fourth :: rest => do
    let octets := match order with
      | .bigEndian => [first, second, third, fourth]
      | .littleEndian => [fourth, third, second, first]
    let point ← CodePoint.ofNat? (octets.foldl (fun value octet => value * 256 + octet.toNat) 0)
    (decodeUtf32? order rest).map (point :: ·)
  | _ => none

example : decodeUtf16? .littleEndian [0x3C, 0xD8, 0xAF, 0xDF] = some [.char '🎯'] := by decide
example : decodeUtf16? .bigEndian [0xD8, 0x3C] = some [.lone ⟨0xD83C, by decide⟩] := by decide

end ObservatoryWatch.Text
