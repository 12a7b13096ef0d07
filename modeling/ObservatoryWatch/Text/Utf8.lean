/-!
UTF-8.

The decoder reads one octet at a time and remembers only the character it is in
the middle of: the bits so far, how many octets are still owed and the bounds on
the next one. An octet out of bounds ends that character as malformed and is then
read as the beginning of the next, so each malformed stretch is as long as the
longest beginning of a character that it could have been.
-/

namespace ObservatoryWatch

/-- A sequence of octets. -/
abbrev Bytes := List UInt8

namespace Text

def utf8OfChars (characters : List Char) : Bytes :=
  characters.flatMap String.utf8EncodeChar

def utf8 (text : String) : Bytes := utf8OfChars text.toList

namespace Utf8

/-- A character of which some octets have been read and some are still owed. -/
structure Pending where
  value : Nat
  low : Nat
  high : Nat
  owed : Nat

/-- What a first octet promises; none if no character of several octets begins with it. -/
def lead? (octet : Nat) : Option Pending :=
  if 0xC2 ≤ octet && octet ≤ 0xDF then some ⟨octet - 0xC0, 0x80, 0xBF, 1⟩
  else if octet == 0xE0 then some ⟨0, 0xA0, 0xBF, 2⟩
  else if octet == 0xED then some ⟨0xD, 0x80, 0x9F, 2⟩
  else if 0xE1 ≤ octet && octet ≤ 0xEF then some ⟨octet - 0xE0, 0x80, 0xBF, 2⟩
  else if octet == 0xF0 then some ⟨0, 0x90, 0xBF, 3⟩
  else if 0xF1 ≤ octet && octet ≤ 0xF3 then some ⟨octet - 0xF0, 0x80, 0xBF, 3⟩
  else if octet == 0xF4 then some ⟨4, 0x80, 0x8F, 3⟩
  else none

/-- Reads an octet between characters: what is finished by it, and what is begun. -/
def start (octet : Nat) : List (Option Char) × Option Pending :=
  if octet < 0x80 then ([some (Char.ofNat octet)], none)
  else match lead? octet with
    | some pending => ([], some pending)
    | none => ([none], none)

/-- The characters in order, with none for each malformed stretch. -/
def pieces : Option Pending → Bytes → List (Option Char)
  | none, [] => []
  | some _, [] => [none]
  | none, octet :: rest =>
    let (finished, begun) := start octet.toNat
    finished ++ pieces begun rest
  | some pending, octet :: rest =>
    if pending.low ≤ octet.toNat && octet.toNat ≤ pending.high then
      let value := pending.value * 64 + (octet.toNat - 0x80)
      if pending.owed ≤ 1 then some (Char.ofNat value) :: pieces none rest
      else pieces (some ⟨value, 0x80, 0xBF, pending.owed - 1⟩) rest
    else
      let (finished, begun) := start octet.toNat
      none :: finished ++ pieces begun rest

end Utf8

/-- Decodes octets, each malformed stretch becoming the replacement character. -/
def decodeLossy (bytes : Bytes) : List Char :=
  (Utf8.pieces none bytes).map (·.getD '\uFFFD')

/-- Decodes octets; none if any stretch is malformed. -/
def decode? (bytes : Bytes) : Option (List Char) :=
  (Utf8.pieces none bytes).mapM id

example : decodeLossy [0x61, 0xE2, 0x82, 0xAC] = ['a', '€'] := by decide
example : decodeLossy [0xE2, 0x82, 0x28, 0xFF] = ['\uFFFD', '(', '\uFFFD'] := by decide
example : decode? [0xED, 0xA0, 0x80] = none := by decide

end Text

end ObservatoryWatch
