import ObservatoryWatch.Json.Reader
import ObservatoryWatch.Json.Writer

/-!
Quoted texts read back as they were written.

A character becomes a piece of the quoted text that no quote ends and that stands for this
character alone, so the reader finds the same characters one by one, and after the closing quote
whatever text follows. This holds in each form that escapes the control characters.
-/

namespace ObservatoryWatch.Json

open Text

/-! ## Escaped units -/

theorem hexValue?_lowerHexDigits : ∀ digit : Fin 16,
    hexValue? (lowerHexDigits.getD digit '0') = some digit.val := by decide

theorem hexValue?_getD {digit : Nat} (small : digit < 16) :
    hexValue? (lowerHexDigits.getD digit '0') = some digit :=
  hexValue?_lowerHexDigits ⟨digit, small⟩

theorem readUnit?_hexPairs (high low : UInt8) (rest : List CodePoint) :
    readUnit? (points (hexPair lowerHexDigits high ++ hexPair lowerHexDigits low) ++ rest) =
      some (high.toNat * 256 + low.toNat, rest) := by
  have digits : ∀ octet : UInt8, octet.toNat / 16 < 16 ∧ octet.toNat % 16 < 16 := by
    intro octet
    have below := octet.toNat_lt
    omega
  simp only [hexPair, List.cons_append, List.nil_append, points_cons, points_nil, readUnit?,
    List.mapM_cons, List.mapM_nil, digit?, hexValue?_getD (digits high).1, hexValue?_getD (digits high).2, hexValue?_getD (digits low).1,
    hexValue?_getD (digits low).2, Option.bind_eq_bind, Option.bind_some, Option.pure_def,
    List.foldl_cons, List.foldl_nil]
  refine congrArg some (Prod.ext ?_ rfl)
  dsimp only
  omega

/-- An escaped unit after its backslash and its mark. -/
theorem readUnit?_unitEscape {unit : Nat} (small : unit < 0x10000) (rest : List CodePoint) :
    readUnit? (points ((unitEscape unit).drop 2) ++ rest) = some (unit, rest) := by
  have pairs := readUnit?_hexPairs (UInt8.ofNat (unit / 256)) (UInt8.ofNat (unit % 256)) rest
  rw [UInt8.toNat_ofNat', UInt8.toNat_ofNat'] at pairs
  have value : unit / 256 % 2 ^ 8 * 256 + unit % 256 % 2 ^ 8 = unit := by omega
  rw [value] at pairs
  exact pairs

theorem ofNat?_toNat (character : Char) :
    CodePoint.ofNat? character.toNat = some (.char character) := by
  have valid : character.toNat < 0xD800 ∨ 0xDFFF < character.toNat ∧ character.toNat < 0x110000 :=
    character.valid
  have found : ofCodePoint? character.toNat = some character := dif_pos character.valid
  rw [CodePoint.ofNat?, dif_neg (by omega), found, Option.map_some]

/-! ## Pieces without a closing quote -/

/-- A piece of a quoted text that is passed over as a whole. -/
def Whole (piece : List Char) : Prop :=
  ∀ rest, rawString? (points piece ++ rest) =
    (rawString? rest).map fun found => (points piece ++ found.1, found.2)

theorem Whole.nil : Whole [] := by
  intro rest
  rw [points_nil, List.nil_append]
  cases rawString? rest <;> rfl

theorem Whole.append {early late : List Char} (first : Whole early) (second : Whole late) :
    Whole (early ++ late) := by
  intro rest
  rw [points_append, List.append_assoc, first, second]
  cases rawString? rest with
  | none => rfl
  | some found => simp

/-- Characters that are not escaped: neither quote nor backslash nor a control character. -/
def Ordinary (character : Char) : Prop :=
  character ≠ '"' ∧ character ≠ '\\' ∧ ' ' ≤ character

instance : DecidablePred Ordinary := fun _ => inferInstanceAs (Decidable (_ ∧ _ ∧ _))

theorem Whole.ordinary {character : Char} (ordinary : Ordinary character) :
    Whole [character] := by
  rcases ordinary with ⟨quote, backslash, above⟩
  intro rest
  have visible : ¬ (CodePoint.char character).code < ' '.toNat := Nat.not_lt.mpr above
  change rawString? (.char character :: rest) = _
  rw [rawString?, if_neg visible]
  · cases rawString? rest <;> rfl
  · rintro ⟨⟩
    exact quote rfl
  · rintro _ _ ⟨⟩
    exact absurd rfl backslash

theorem Whole.escape (mark : Char) : Whole ['\\', mark] := by
  intro rest
  change rawString? (.char '\\' :: .char mark :: rest) = _
  rw [rawString?]
  cases rawString? rest <;> rfl

theorem ordinary_lowerHexDigits : ∀ digit : Fin 16,
    Ordinary (lowerHexDigits.getD digit '0') := by decide

theorem ordinary_hexPair (octet : UInt8) :
    ∀ digit ∈ hexPair lowerHexDigits octet, Ordinary digit := by
  have below := octet.toNat_lt
  have high := ordinary_lowerHexDigits ⟨octet.toNat / 16, by omega⟩
  have low := ordinary_lowerHexDigits ⟨octet.toNat % 16, by omega⟩
  exact List.forall_mem_cons.mpr ⟨high, List.forall_mem_singleton.mpr low⟩

theorem Whole.hexPair (octet : UInt8) : Whole (hexPair lowerHexDigits octet) := by
  rcases List.forall_mem_cons.mp (ordinary_hexPair octet) with ⟨high, rest⟩
  exact (Whole.ordinary high).append (Whole.ordinary (List.forall_mem_singleton.mp rest))

theorem Whole.unitEscape (unit : Nat) : Whole (unitEscape unit) :=
  (Whole.escape 'u').append ((Whole.hexPair _).append (Whole.hexPair _))

/-! ## Pieces that stand for a character -/

/-- A piece of a quoted text that stands for one character, whatever follows. -/
structure Stands (piece : List Char) (character : Char) : Prop where
  whole : Whole piece
  resolved : ∀ bound rest, resolve? (bound + 1) (points piece ++ rest) =
    (resolve? bound rest).map (.char character :: ·)
  nonempty : piece ≠ []

theorem Stands.ordinary {character : Char} (ordinary : Ordinary character) :
    Stands [character] character where
  whole := .ordinary ordinary
  resolved bound rest := by
    change resolve? (bound + 1) (.char character :: rest) = _
    rw [resolve?]
    rintro ⟨⟩
    exact ordinary.2.1 rfl
  nonempty := List.cons_ne_nil _ _

theorem resolve?_escape {escaped rest : List CodePoint} {point : CodePoint}
    (read : readEscape? escaped = some (point, rest)) (bound : Nat) :
    resolve? (bound + 1) (.char '\\' :: escaped) = (resolve? bound rest).map (point :: ·) := by
  simp only [resolve?, read, Option.bind_eq_bind, Option.bind_some]
  cases resolve? bound rest <;> rfl

/-- A backslash and a mark. -/
theorem Stands.short {character mark : Char} (mark_ne : mark ≠ 'u')
    (listed : simpleEscapes.lookup mark = some character) : Stands ['\\', mark] character where
  whole := .escape mark
  resolved bound rest := by
    refine resolve?_escape ?_ bound
    change readEscape? (.char mark :: rest) = _
    rw [readEscape?, listed, Option.map_some]
    rintro ⟨⟩
    exact mark_ne rfl
  nonempty := List.cons_ne_nil _ _

/-- One unit that is not the first of two. -/
theorem readEscape?_unit {unit : Nat} (small : unit < 0x10000)
    (single : isHighSurrogate unit = false) (rest : List CodePoint) :
    readEscape? (.char 'u' :: (points ((unitEscape unit).drop 2) ++ rest)) =
      (CodePoint.ofNat? unit).map (·, rest) := by
  rw [readEscape?, readUnit?_unitEscape small]
  simp only [Option.bind_eq_bind, Option.bind_some, single, Bool.false_and, Bool.false_eq_true,
    if_false]
  repeat' split
  all_goals rfl

/-- Two units that stand for a character beyond the first plane. -/
theorem readEscape?_pair {high low : Nat} (first : isHighSurrogate high = true)
    (second : isLowSurrogate low = true) (rest : List CodePoint) :
    readEscape? (.char 'u' :: (points ((unitEscape high).drop 2) ++
        (points (unitEscape low) ++ rest))) =
      (CodePoint.ofNat? (joined high low)).map (·, rest) := by
  have highSmall : high < 0x10000 := by
    have := Bool.and_eq_true_iff.mp first
    simp only [decide_eq_true_eq] at this
    omega
  have lowSmall : low < 0x10000 := by
    have := Bool.and_eq_true_iff.mp second
    simp only [decide_eq_true_eq] at this
    omega
  have marked : points (unitEscape low) ++ rest =
      .char '\\' :: .char 'u' :: (points ((unitEscape low).drop 2) ++ rest) := rfl
  rw [readEscape?, readUnit?_unitEscape highSmall, marked]
  simp only [Option.bind_eq_bind, Option.bind_some, readUnit?_unitEscape lowSmall, first, second,
    Bool.and_self, if_true]

theorem Stands.long (character : Char) : Stands (longEscape character) character := by
  have code := ofNat?_toNat character
  have top : character.toNat < 0xD800 ∨ 0xDFFF < character.toNat ∧ character.toNat < 0x110000 :=
    character.valid
  unfold longEscape
  dsimp only
  split
  next small =>
    have single : isHighSurrogate character.toNat = false := by
      simp only [isHighSurrogate, Bool.and_eq_false_iff, decide_eq_false_iff_not]
      omega
    refine ⟨.unitEscape _, fun bound rest => ?_, List.cons_ne_nil _ _⟩
    have read := readEscape?_unit small single rest
    rw [code, Option.map_some] at read
    exact resolve?_escape read bound
  next large =>
    have first : isHighSurrogate (0xD800 + (character.toNat - 0x10000) / 0x400) = true := by
      simp only [isHighSurrogate, Bool.and_eq_true, decide_eq_true_eq]
      omega
    have second : isLowSurrogate (0xDC00 + (character.toNat - 0x10000) % 0x400) = true := by
      simp only [isLowSurrogate, Bool.and_eq_true, decide_eq_true_eq]
      omega
    refine ⟨.append (.unitEscape _) (.unitEscape _), fun bound rest => ?_, List.cons_ne_nil _ _⟩
    have read := readEscape?_pair first second rest
    have whole : joined (0xD800 + (character.toNat - 0x10000) / 0x400)
        (0xDC00 + (character.toNat - 0x10000) % 0x400) = character.toNat := by
      unfold joined
      omega
    rw [whole, code, Option.map_some] at read
    rw [points_append, List.append_assoc]
    exact resolve?_escape read bound

/-! ## Whole texts -/

/-- Forms in which every control character is escaped. -/
def Form.EscapesControls (form : Form) : Prop :=
  ∀ character, form.isPlain character = true → ' ' ≤ character

variable {form : Form}

theorem mem_shortEscapes {character mark : Char}
    (listed : shortEscapes.lookup character = some mark) : (character, mark) ∈ shortEscapes := by
  obtain ⟨before, after, parts, _⟩ := List.lookup_eq_some_iff.mp listed
  simp [parts]

theorem lookup_shortEscapes {character mark : Char}
    (listed : shortEscapes.lookup character = some mark) :
    mark ≠ 'u' ∧ simpleEscapes.lookup mark = some character := by
  have all : ∀ entry ∈ shortEscapes, entry.2 ≠ 'u' ∧
      simpleEscapes.lookup entry.2 = some entry.1 := by decide
  exact all (character, mark) (mem_shortEscapes listed)

/-- What a character is written as stands for it. -/
theorem stands_writeChar (escapes : form.EscapesControls) (character : Char) :
    Stands (writeChar form character) character := by
  unfold writeChar
  split
  next mark listed =>
    rcases lookup_shortEscapes listed with ⟨mark_ne, named⟩
    exact .short mark_ne named
  next unlisted =>
    split
    next plain =>
      refine .ordinary ⟨?_, ?_, escapes character plain⟩
      all_goals
        rintro rfl
        cases unlisted
    next => exact .long character

theorem toList_writeString (form : Form) (text : String) :
    (writeString form text).toList = '"' :: (text.toList.flatMap (writeChar form) ++ ['"']) :=
  String.toList_ofList

variable (escapes : form.EscapesControls)
include escapes

theorem whole_writeChars (characters : List Char) :
    Whole (characters.flatMap (writeChar form)) := by
  induction characters with
  | nil => exact .nil
  | cons character rest induction =>
      rw [List.flatMap_cons]
      exact .append (stands_writeChar escapes character).whole induction

theorem resolve?_writeChars (characters : List Char) {bound : Nat}
    (enough : characters.length ≤ bound) :
    resolve? bound (points (characters.flatMap (writeChar form))) = some (points characters) := by
  induction characters generalizing bound with
  | nil =>
      rw [List.flatMap_nil]
      cases bound <;> rfl
  | cons character rest induction =>
      obtain ⟨bound, rfl⟩ : ∃ fewer, bound = fewer + 1 :=
        ⟨bound - 1, by rw [List.length_cons] at enough; omega⟩
      rw [List.flatMap_cons, points_append, (stands_writeChar escapes character).resolved,
        induction (Nat.le_of_succ_le_succ enough)]
      rfl

theorem length_le_writeChars (characters : List Char) :
    characters.length ≤ (characters.flatMap (writeChar form)).length := by
  induction characters with
  | nil => exact Nat.le_refl _
  | cons character rest induction =>
      have some := List.length_pos_iff.mpr (stands_writeChar escapes character).nonempty
      rw [List.flatMap_cons, List.length_append, List.length_cons]
      omega

/-- A quoted text is read back, and so is where it ends. -/
theorem readString?_written (text : String) (rest : List CodePoint) :
    readString? (points (text.toList.flatMap (writeChar form)) ++ .char '"' :: rest) =
      some (.whole text, rest) := by
  have raw := whole_writeChars escapes text.toList (.char '"' :: rest)
  have closed : rawString? (.char '"' :: rest) = some ([], rest) := by rw [rawString?]
  have enough : text.toList.length ≤ (points (text.toList.flatMap (writeChar form))).length := by
    rw [length_points]
    exact length_le_writeChars escapes text.toList
  rw [closed, Option.map_some, List.append_nil] at raw
  simp only [readString?, raw, Option.bind_eq_bind, Option.bind_some,
    resolve?_writeChars escapes _ enough, Label.ofPoints_points, String.ofList_toList]

end ObservatoryWatch.Json
