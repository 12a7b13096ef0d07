import Mathlib.Tactic.IntervalCases
import ObservatoryWatch.Proofs.CharacterClasses
import ObservatoryWatch.Text.Percent

/-!
A segment with escapes reads back as the text that it was made from.

The octets of a character are decoded as this character, whatever follows them, and each escape
stands for its octet. The characters of a segment are unreserved or percent signs, so the segment is
all in ASCII and keeps clear of the marks that divide an address.
-/

namespace ObservatoryWatch.Text

/-! ## UTF-8 -/

namespace Utf8

/-! ### Octet after octet -/

theorem pieces_single {code : Nat} (ascii : code < 0x80) (rest : Bytes) :
    pieces none (UInt8.ofNat code :: rest) = some (Char.ofNat code) :: pieces none rest := by
  have octet : code < 256 := by omega
  rw [pieces, start, UInt8.toNat_ofNat_of_lt' octet, if_pos ascii]
  rfl

theorem pieces_begun {octet : Nat} {pending : Pending} (low : 0x80 ≤ octet) (high : octet < 256)
    (lead : lead? octet = some pending) (rest : Bytes) :
    pieces none (UInt8.ofNat octet :: rest) = pieces (some pending) rest := by
  rw [pieces, start, UInt8.toNat_ofNat_of_lt' high, if_neg (Nat.not_lt.mpr low), lead]
  rfl

section

variable {value low high digit : Nat} (fits : digit < 64) (above : low ≤ digit + 128)
  (below : digit + 128 ≤ high)
include fits above below

/-- An octet that is owed brings six more bits. -/
theorem pieces_continued (owed : Nat) (rest : Bytes) :
    pieces (some ⟨value, low, high, owed + 2⟩) (UInt8.ofNat (digit + 128) :: rest) =
      pieces (some ⟨value * 64 + digit, 0x80, 0xBF, owed + 1⟩) rest := by
  have octet : digit + 128 < 256 := by omega
  rw [pieces, UInt8.toNat_ofNat_of_lt' octet, if_pos (by simp [above, below]), if_neg (by simp),
    Nat.add_sub_cancel, Nat.add_succ_sub_one]

/-- The last octet that is owed ends the character. -/
theorem pieces_ended (rest : Bytes) :
    pieces (some ⟨value, low, high, 1⟩) (UInt8.ofNat (digit + 128) :: rest) =
      some (Char.ofNat (value * 64 + digit)) :: pieces none rest := by
  have octet : digit + 128 < 256 := by omega
  rw [pieces, UInt8.toNat_ofNat_of_lt' octet, if_pos (by simp [above, below]),
    if_pos (Nat.le_refl 1), Nat.add_sub_cancel]

end

/-! ### First octets -/

/-- The first of two octets. -/
theorem lead?_two (first : Nat) (low : 2 ≤ first) (high : first < 32) :
    lead? (first + 192) = some ⟨first, 0x80, 0xBF, 1⟩ := by
  interval_cases first <;> rfl

/-- The first of three octets, with the bounds that the second one keeps. -/
theorem lead?_three (first second : Nat) (high : first < 16) (next : second < 64)
    (shortest : first = 0 → 32 ≤ second) (scalar : first = 13 → second < 32) :
    ∃ least greatest, lead? (first + 224) = some ⟨first, least, greatest, 2⟩ ∧
      least ≤ second + 128 ∧ second + 128 ≤ greatest := by
  interval_cases first <;> exact ⟨_, _, rfl, by omega, by omega⟩

/-- The first of four octets, with the bounds that the second one keeps. -/
theorem lead?_four (first second : Nat) (high : first ≤ 4) (next : second < 64)
    (shortest : first = 0 → 16 ≤ second) (last : first = 4 → second < 16) :
    ∃ least greatest, lead? (first + 240) = some ⟨first, least, greatest, 3⟩ ∧
      least ≤ second + 128 ∧ second + 128 ≤ greatest := by
  interval_cases first <;> exact ⟨_, _, rfl, by omega, by omega⟩

/-! ### Characters -/

/-- The octets of a character are read as that character, whatever follows. -/
theorem pieces_utf8EncodeChar (character : Char) (rest : Bytes) :
    pieces none (String.utf8EncodeChar character ++ rest) =
      some character :: pieces none rest := by
  have scalar : character.val.toNat < 0xD800 ∨
      0xDFFF < character.val.toNat ∧ character.val.toNat < 0x110000 := character.valid
  have read : Char.ofNat character.val.toNat = character := Char.ofNat_toNat character
  unfold String.utf8EncodeChar
  generalize character.val.toNat = code at scalar read ⊢
  subst read
  dsimp only
  -- The bounds on a second octet rule out forms that are too long, surrogates and what lies beyond
  -- the last character. None of them is the form of a character.
  split
  next one => exact pieces_single (by omega) rest
  split
  next two =>
    have lead := lead?_two (code / 64 % 32) (by omega) (by omega)
    have whole : code / 64 % 32 * 64 + code % 64 = code := by omega
    rw [List.cons_append, List.singleton_append, pieces_begun (by omega) (by omega) lead,
      pieces_ended (by omega) (by omega) (by omega), whole]
  split
  next three =>
    rcases lead?_three (code / 4096 % 16) (code / 64 % 64) (by omega) (by omega) (by omega)
      (by omega) with ⟨least, greatest, lead, above, below⟩
    have whole : (code / 4096 % 16 * 64 + code / 64 % 64) * 64 + code % 64 = code := by omega
    rw [List.cons_append, List.cons_append, List.singleton_append,
      pieces_begun (by omega) (by omega) lead, pieces_continued (by omega) above below,
      pieces_ended (by omega) (by omega) (by omega), whole]
  next four =>
    rcases lead?_four (code / 262144 % 8) (code / 4096 % 64) (by omega) (by omega) (by omega)
      (by omega) with ⟨least, greatest, lead, above, below⟩
    have whole : ((code / 262144 % 8 * 64 + code / 4096 % 64) * 64 + code / 64 % 64) * 64 +
        code % 64 = code := by omega
    rw [List.cons_append, List.cons_append, List.cons_append, List.singleton_append,
      pieces_begun (by omega) (by omega) lead, pieces_continued (by omega) above below,
      pieces_continued (by omega) (by omega) (by omega),
      pieces_ended (by omega) (by omega) (by omega), whole]

theorem pieces_utf8OfChars (characters : List Char) :
    pieces none (utf8OfChars characters) = characters.map some := by
  induction characters with
  | nil => rfl
  | cons character rest ih =>
      rw [utf8OfChars, List.flatMap_cons, pieces_utf8EncodeChar]
      exact congrArg (some character :: ·) ih

end Utf8

theorem decode?_utf8OfChars (characters : List Char) :
    decode? (utf8OfChars characters) = some characters := by
  rw [decode?, Utf8.pieces_utf8OfChars]
  induction characters with
  | nil => rfl
  | cons character rest ih =>
      rw [List.map_cons, List.mapM_cons, ih]
      rfl

/-! ## Escapes -/

/-- The octets that a text with escapes stands for; none if a percent sign begins no escape. -/
def escapedOctets? : List Char → Option Bytes
  | [] => some []
  | '%' :: high :: low :: rest => do
    let octets ← ofHexDigits? [high, low]
    (escapedOctets? rest).map (octets ++ ·)
  | character :: rest =>
    if character == '%' then none
    else (escapedOctets? rest).map (String.utf8EncodeChar character ++ ·)

/-- Decodes a text with escapes; none if what they stand for is no text. -/
def percentDecode? (text : String) : Option String :=
  ((escapedOctets? text.toList).bind decode?).map String.ofList

example : percentDecode? "a%C3%A9%2f" = some "aé/" := by decide
example : percentDecode? "100%" = none := by decide

theorem hexValue?_upperHexDigits : ∀ digit : Fin 16,
    hexValue? (upperHexDigits.getD digit '0') = some digit.val := by decide

theorem ofHexDigits?_hexPair (octet : UInt8) :
    ofHexDigits? (hexPair upperHexDigits octet) = some [octet] := by
  have below := octet.toNat_lt
  have high := hexValue?_upperHexDigits ⟨octet.toNat / 16, by omega⟩
  have low := hexValue?_upperHexDigits ⟨octet.toNat % 16, by omega⟩
  have whole : 16 * (octet.toNat / 16) + octet.toNat % 16 = octet.toNat := Nat.div_add_mod ..
  simp only [hexPair, ofHexDigits?, high, low, Option.bind_eq_bind, Option.bind_some,
    Option.map_some, whole, UInt8.ofNat_toNat]

theorem escapedOctets?_percentOctet (octet : UInt8) (rest : List Char) :
    escapedOctets? (percentOctet octet ++ rest) = (escapedOctets? rest).map (octet :: ·) := by
  have pair := ofHexDigits?_hexPair octet
  rw [hexPair] at pair
  rw [percentOctet, hexPair, List.cons_append, List.cons_append, List.cons_append, List.nil_append,
    escapedOctets?, pair]
  rfl

theorem escapedOctets?_cons {character : Char} (plain : character ≠ '%') (rest : List Char) :
    escapedOctets? (character :: rest) =
      (escapedOctets? rest).map (String.utf8EncodeChar character ++ ·) := by
  rw [escapedOctets?, if_neg (by simpa using plain)]
  exact fun _ _ _ same _ => plain same

theorem escapedOctets?_percentOctets (octets : Bytes) (rest : List Char) :
    escapedOctets? (octets.flatMap percentOctet ++ rest) =
      (escapedOctets? rest).map (octets ++ ·) := by
  induction octets with
  | nil => exact Option.map_id'.symm
  | cons octet octets ih =>
      rw [List.flatMap_cons, List.append_assoc, escapedOctets?_percentOctet, ih, Option.map_map]
      rfl

/-! ## Segments -/

/-- A character as it stands in a segment. -/
def segmentChar (character : Char) : List Char :=
  if isUnreserved character then [character] else percentChar character

theorem toList_percentSegment (text : String) :
    (percentSegment text).toList = text.toList.flatMap segmentChar :=
  String.toList_ofList

theorem ne_percent_of_isUnreserved {character : Char} (unreserved : isUnreserved character = true) :
    character ≠ '%' := by
  rintro rfl
  cases unreserved

theorem escapedOctets?_segmentChar (character : Char) (rest : List Char) :
    escapedOctets? (segmentChar character ++ rest) =
      (escapedOctets? rest).map (String.utf8EncodeChar character ++ ·) := by
  unfold segmentChar
  split
  next unreserved => exact escapedOctets?_cons (ne_percent_of_isUnreserved unreserved) rest
  next => exact escapedOctets?_percentOctets _ rest

theorem escapedOctets?_segment (characters : List Char) :
    escapedOctets? (characters.flatMap segmentChar) = some (utf8OfChars characters) := by
  induction characters with
  | nil => rfl
  | cons character rest ih =>
      rw [List.flatMap_cons, escapedOctets?_segmentChar, ih]
      rfl

/-- Decoding a segment gives back the text that it was made from. -/
theorem percentDecode?_percentSegment (text : String) :
    percentDecode? (percentSegment text) = some text := by
  rw [percentDecode?, toList_percentSegment, escapedOctets?_segment, Option.bind_some,
    decode?_utf8OfChars, Option.map_some, String.ofList_toList]

theorem percentSegment_injective : Function.Injective percentSegment := by
  intro text other same
  have decoded := congrArg percentDecode? same
  rw [percentDecode?_percentSegment, percentDecode?_percentSegment] at decoded
  exact Option.some.inj decoded

/-- Characters that stand in segments. -/
def standsInSegment (character : Char) : Bool := isUnreserved character || character == '%'

theorem standsInSegment_upperHexDigits : ∀ digit : Fin 16,
    standsInSegment (upperHexDigits.getD digit '0') = true := by decide

theorem standsInSegment_percentOctet (octet : UInt8) :
    ∀ character ∈ percentOctet octet, standsInSegment character = true := by
  have below := octet.toNat_lt
  have high := standsInSegment_upperHexDigits ⟨octet.toNat / 16, by omega⟩
  have low := standsInSegment_upperHexDigits ⟨octet.toNat % 16, by omega⟩
  simp only [percentOctet, hexPair, List.forall_mem_cons]
  exact ⟨rfl, high, low, nofun⟩

theorem standsInSegment_percentSegment (text : String) :
    ∀ character ∈ (percentSegment text).toList, standsInSegment character = true := by
  intro character member
  rw [toList_percentSegment, List.mem_flatMap] at member
  rcases member with ⟨source, _, member⟩
  unfold segmentChar at member
  split at member
  next unreserved =>
    rw [List.mem_singleton.mp member, standsInSegment, unreserved]
    rfl
  next =>
    rcases List.mem_flatMap.mp member with ⟨octet, _, escaped⟩
    exact standsInSegment_percentOctet octet character escaped

section

variable {character : Char} (stands : standsInSegment character = true)
include stands

theorem toNat_lt_of_standsInSegment : character.toNat < 128 := by
  rw [standsInSegment, isUnreserved, Bool.or_eq_true, Bool.or_eq_true] at stands
  rcases stands with (alphanumeric | mark) | percent
  · exact toNat_lt_of_isAlphanum alphanumeric
  · have marks : ['_', '.', '-', '~'].all (fun mark => decide (mark.toNat < 128)) = true := by
      decide
    exact of_decide_eq_true (List.all_eq_true.mp marks character (of_decide_eq_true mark))
  · rw [beq_iff_eq.mp percent]
    decide

theorem ne_of_standsInSegment {other : Char} (apart : standsInSegment other = false) :
    character ≠ other := by
  rintro rfl
  cases apart.symm.trans stands

end

end ObservatoryWatch.Text
