import ObservatoryWatch.Redaction.Secret

/-!
How the classes of characters lie to each other.

On ASCII a relation of classes is settled by going through all characters. The few letters of
other scripts that count as variants of ASCII letters are looked at one by one, and digits and
blanks of all scripts are kept apart by their ranges.
-/

namespace ObservatoryWatch.Text

open Redaction

/-! ## ASCII and its variants -/

theorem of_ascii (holds : Char → Bool) (all : ∀ code < 128, holds (Char.ofNat code) = true)
    {character : Char} (ascii : character.toNat < 128) : holds character = true := by
  have held := all character.toNat ascii
  rw [Char.ofNat_toNat] at held
  exact held

/-- The letters of other scripts that are variants of ASCII letters. -/
def variants : List Char := ['\u017F', '\u212A', '\u0130', '\u0131']

theorem toNat_lt_of_isAlphanum {character : Char} (alphanumeric : character.isAlphanum = true) :
    character.toNat < 128 := by
  change (decide (character.val ≥ 'A'.val ∧ character.val ≤ 'Z'.val) ||
    (decide (character.val ≥ 'a'.val) && decide (character.val ≤ 'z'.val)) ||
    (decide (character.val ≥ '0'.val) && decide (character.val ≤ '9'.val))) = true at alphanumeric
  simp only [Bool.or_eq_true, Bool.and_eq_true, decide_eq_true_eq, UInt32.le_iff_toNat_le]
    at alphanumeric
  change character.val.toNat < 128
  rcases alphanumeric with (⟨_, bound⟩ | ⟨_, bound⟩) | ⟨_, bound⟩
  · exact Nat.lt_of_le_of_lt bound (by decide)
  · exact Nat.lt_of_le_of_lt bound (by decide)
  · exact Nat.lt_of_le_of_lt bound (by decide)

theorem ascii_or_variant {character : Char} (ascii : (fold character).toNat < 128) :
    character.toNat < 128 ∨ character ∈ variants := by
  unfold fold at ascii
  split at ascii
  next same => exact .inr (by simp [variants, beq_iff_eq.mp same])
  next =>
    split at ascii
    next same => exact .inr (by simp [variants, beq_iff_eq.mp same])
    next =>
      split at ascii
      next same =>
        rw [Bool.or_eq_true, beq_iff_eq, beq_iff_eq] at same
        rcases same with rfl | rfl
        · exact .inr (by decide)
        · exact .inr (by decide)
      next =>
        left
        unfold Char.toLower at ascii
        split at ascii
        next upper =>
          have bound : character.val.toNat ≤ 90 := UInt32.le_iff_toNat_le.mp upper.2
          exact Nat.lt_of_le_of_lt bound (by decide)
        next => exact ascii

/-- The characters of which names of keys consist, and their variants. -/
def isNameCharacter (character : Char) : Bool :=
  (fold character).isAlphanum || fold character == '_'

theorem of_isNameCharacter (holds : Char → Bool)
    (all : ∀ code < 128, isNameCharacter (Char.ofNat code) = true →
      holds (Char.ofNat code) = true)
    (others : variants.all holds = true)
    {character : Char} (name : isNameCharacter character = true) : holds character = true := by
  have ascii : (fold character).toNat < 128 := by
    rw [isNameCharacter, Bool.or_eq_true, beq_iff_eq] at name
    rcases name with alphanumeric | underscore
    · exact toNat_lt_of_isAlphanum alphanumeric
    · rw [underscore]
      decide
  rcases ascii_or_variant ascii with ascii | variant
  · have held : ∀ code < 128,
        (!isNameCharacter (Char.ofNat code) || holds (Char.ofNat code)) = true := by
      intro code bound
      cases named : isNameCharacter (Char.ofNat code) with
      | false => rfl
      | true => exact all code bound named
    have settled := of_ascii
      (fun character => !isNameCharacter character || holds character) held ascii
    simpa [name] using settled
  · exact List.all_eq_true.mp others character variant

variable {character : Char}

theorem isWordCharacter_of_name (name : isNameCharacter character = true) :
    isWordCharacter character = true :=
  of_isNameCharacter _ (by decide +kernel) (by decide +kernel) name

theorem isTokenCharacter_of_name (name : isNameCharacter character = true) :
    isTokenCharacter character = true :=
  of_isNameCharacter _ (by decide) (by decide) name

theorem endsValue_of_name (name : isNameCharacter character = true) :
    endsValue character = false := by
  have held := of_isNameCharacter (fun character => !endsValue character) (by decide)
    (by decide) name
  simpa using held

theorem isNameCharacter_of_alphanum
    (alphanumeric : (character.isAlphanum || character == '_') = true) :
    isNameCharacter character = true := by
  have ascii : character.toNat < 128 := by
    rw [Bool.or_eq_true, beq_iff_eq] at alphanumeric
    rcases alphanumeric with alphanumeric | underscore
    · exact toNat_lt_of_isAlphanum alphanumeric
    · rw [underscore]
      decide
  have settled := of_ascii (fun character =>
    !(character.isAlphanum || character == '_') || isNameCharacter character) (by decide) ascii
  simpa [alphanumeric] using settled

theorem ne_of_name {other : Char} (different : isNameCharacter other = false)
    (name : isNameCharacter character = true) : character ≠ other := by
  rintro rfl
  rw [name] at different
  cases different

/-! ## Blanks -/

theorem isNameCharacter_of_blank (blank : isBlank character = true) :
    isNameCharacter character = false := by
  cases name : isNameCharacter character with
  | false => rfl
  | true =>
      have ends := endsValue_of_name name
      simp [endsValue, blank] at ends

theorem isBlank_of_name (name : isNameCharacter character = true) : isBlank character = false := by
  cases blank : isBlank character with
  | false => rfl
  | true =>
      rw [isNameCharacter_of_blank blank] at name
      cases name

theorem ne_of_blank {other : Char} (different : isBlank other = false)
    (blank : isBlank character = true) : character ≠ other := by
  rintro rfl
  rw [blank] at different
  cases different

theorem isTokenCharacter_of_blank (blank : isBlank character = true) :
    isTokenCharacter character = false := by
  have name := isNameCharacter_of_blank blank
  rw [isNameCharacter, Bool.or_eq_false_iff] at name
  have others : ['-', '.', '_', '~', '+', '/'].all (fun other => !isBlank other) = true := by
    decide
  simp only [isTokenCharacter, name.1, Bool.false_or, decide_eq_false_iff_not]
  intro member
  have apart := List.all_eq_true.mp others character member
  simp [blank] at apart

theorem isWebhookCharacter_of_blank (blank : isBlank character = true) :
    isWebhookCharacter character = false := by
  cases webhook : isWebhookCharacter character with
  | false => rfl
  | true =>
      have ascii : character.toNat < 128 := by
        rw [isWebhookCharacter, Bool.or_eq_true, decide_eq_true_eq] at webhook
        rcases webhook with alphanumeric | member
        · exact toNat_lt_of_isAlphanum alphanumeric
        · have all : ['-', '_', '.'].all (fun other => decide (other.toNat < 128)) = true := by
            decide
          exact of_decide_eq_true (List.all_eq_true.mp all character member)
      have apart := of_ascii (fun character =>
        !isWebhookCharacter character || !isBlank character) (by decide) ascii
      simp [webhook, blank] at apart

/-! ## Ranges -/

/-- Ranges none of which meets another one have no character in common. -/
theorem Ranges.disjoint (left right : Ranges)
    (apart : ∀ low ∈ left, ∀ high ∈ right, low.2 < high.1 ∨ high.2 < low.1)
    (member : left.contains character = true) : right.contains character = false := by
  cases both : right.contains character with
  | false => rfl
  | true =>
      simp only [Ranges.contains, List.any_eq_true, Bool.and_eq_true, decide_eq_true_eq]
        at member both
      rcases member with ⟨first, firstMember, firstLow, firstHigh⟩
      rcases both with ⟨second, secondMember, secondLow, secondHigh⟩
      rcases apart first firstMember second secondMember with before | after
      · omega
      · omega

theorem isBlank_of_decimalDigit (digit : isDecimalDigit character = true) :
    isBlank character = false := by
  have white : whiteSpaceRanges.contains character = false :=
    decimalDigitRanges.disjoint _ (by decide) digit
  have separators : informationSeparators.contains character = false :=
    decimalDigitRanges.disjoint _ (by decide) digit
  rw [isBlank, isWhiteSpace, white, separators]
  rfl

theorem isWordCharacter_of_blank (blank : isBlank character = true) :
    isWordCharacter character = false := by
  rw [isBlank, Bool.or_eq_true] at blank
  rcases blank with white | separator
  · exact whiteSpaceRanges.disjoint wordRanges (by decide +kernel) white
  · exact informationSeparators.disjoint wordRanges (by decide +kernel) separator

theorem ne_of_decimalDigit {other : Char} (different : isDecimalDigit other = false)
    (digit : isDecimalDigit character = true) : character ≠ other := by
  rintro rfl
  rw [digit] at different
  cases different

end ObservatoryWatch.Text
