import Mathlib.Data.List.Infix
import ObservatoryWatch.Redaction.Secret

/-!
Patterns and passes.

A recogniser looks for an opening with a secret after it. A pattern tells which openings there are
and of which characters secrets consist, so that what a recogniser finds is told without a program.
A pass goes through a text once, from left to right, and leaves the mark where a secret was; every
fact about what a recogniser replaces is shown along its pass.
-/

namespace ObservatoryWatch.Redaction

open Text

/-- Nothing that stands in an opening after a blank, be it another blank. -/
def isPlain (character : Char) : Bool :=
  !isBlank character && !isQuote character && character != ':' && character != '='

/-- A character that two divisions of a text tell apart is in the first part or in the second. -/
theorem append_cons_cases {front back opening rest : List Char} {first : Char}
    (whole : front ++ back = opening ++ first :: rest) :
    (∃ more, front = opening ++ first :: more ∧ rest = more ++ back) ∨
      ∃ more, opening = front ++ more ∧ back = more ++ first :: rest := by
  rcases List.append_eq_append_iff.mp whole with ⟨more, opening, back⟩ | ⟨more, front, late⟩
  · exact .inr ⟨more, opening, back⟩
  · cases more with
    | nil => exact .inr ⟨[], by simpa using front.symm, by simpa using late.symm⟩
    | cons character more =>
        cases late
        exact .inl ⟨more, front, rfl⟩

theorem isBlank_of_mem_nil : ∀ character ∈ ([] : List Char), isBlank character = true := by simp

theorem isBlank_of_mem_space : ∀ character ∈ [' '], isBlank character = true :=
  List.all_eq_true.mp (by decide)

structure Pattern where
  /-- After such a character an opening may consist of a part that is kept and a gap that is not. -/
  Opens : Option Char → List Char → List Char → Prop
  /-- What is shown in place of the gap. -/
  filler : List Char
  /-- The characters of a secret. -/
  body : Char → Bool
  /-- The characters that a secret may take in at its end. -/
  padding : Char → Bool
  kept_ne_nil {before kept gap} : Opens before kept gap → kept ≠ []
  bracket_notMem {before kept gap} : Opens before kept gap → '[' ∉ kept ++ gap
  not_plain_after_blank {before kept gap early late} {blank character : Char} :
    Opens before kept gap → kept ++ gap = early ++ blank :: character :: late →
      isBlank blank = true → isPlain character = false
  filler_blank : ∀ character ∈ filler, isBlank character = true
  body_of_blank : ∀ character, isBlank character = true → body character = false
  padding_of_blank : ∀ character, isBlank character = true → padding character = false

namespace Pattern

variable (pattern : Pattern)

/-- What is shown in place of gap and secret. -/
def mask : List Char := pattern.filler ++ mark

/-- The secret at the beginning of a text. -/
def secret (text : List Char) : List Char :=
  text.takeWhile pattern.body ++ (text.dropWhile pattern.body).takeWhile pattern.padding

/-- What comes after the secret at the beginning of a text. -/
def beyond (text : List Char) : List Char :=
  (text.dropWhile pattern.body).dropWhile pattern.padding

/-- A text begins with an opening and a secret. -/
def Found (before : Option Char) (text : List Char) : Prop :=
  ∃ kept gap first rest, text = kept ++ gap ++ first :: rest ∧
    pattern.Opens before kept gap ∧ pattern.body first = true

/-- A recogniser finds exactly what the pattern describes. -/
def Describes (recognise : Recogniser) : Prop :=
  ∀ before text finding, recognise before text = some finding ↔
    ∃ kept gap first rest, text = kept ++ gap ++ first :: rest ∧
      pattern.Opens before kept gap ∧ pattern.body first = true ∧
        finding = ⟨kept ++ pattern.mask,
          (kept ++ gap ++ pattern.secret (first :: rest)).length⟩

variable {pattern}

theorem secret_append_beyond (pattern : Pattern) (text : List Char) :
    pattern.secret text ++ pattern.beyond text = text := by
  rw [secret, beyond, List.append_assoc, List.takeWhile_append_dropWhile,
    List.takeWhile_append_dropWhile]

theorem secret_ne_nil {first : Char} {rest : List Char} (begins : pattern.body first = true) :
    pattern.secret (first :: rest) ≠ [] := by
  simp [secret, begins]

theorem taken_append_beyond (pattern : Pattern) (early text : List Char) :
    (early ++ pattern.secret text) ++ pattern.beyond text = early ++ text := by
  rw [List.append_assoc, secret_append_beyond]

theorem getLast?_taken {early rest : List Char} {first : Char} {before : Option Char}
    (begins : pattern.body first = true) :
    (early ++ pattern.secret (first :: rest)).getLast?.or before =
      (pattern.secret (first :: rest)).getLast? := by
  rw [List.getLast?_append]
  cases ended : (pattern.secret (first :: rest)).getLast? with
  | none => exact absurd (List.getLast?_eq_none_iff.mp ended) (secret_ne_nil begins)
  | some last => rfl

theorem mem_secret {text : List Char} {character : Char}
    (member : character ∈ pattern.secret text) :
    pattern.body character = true ∨ pattern.padding character = true := by
  rcases List.mem_append.mp member with body | padding
  · exact .inl (List.all_eq_true.mp List.all_takeWhile character body)
  · exact .inr (List.all_eq_true.mp List.all_takeWhile character padding)

theorem not_isBlank_of_mem_secret {text : List Char} {character : Char}
    (member : character ∈ pattern.secret text) : isBlank character = false := by
  cases blank : isBlank character with
  | false => rfl
  | true =>
      have body := pattern.body_of_blank character blank
      have padding := pattern.padding_of_blank character blank
      rcases mem_secret member with inside | inside
      · simp [body] at inside
      · simp [padding] at inside

/-- A text that goes on after the secret may be continued without making the secret longer. -/
theorem secret_beyond_append {text : List Char} (more : List Char)
    (goesOn : pattern.beyond text ≠ []) :
    pattern.secret (text ++ more) = pattern.secret text ∧
      pattern.beyond (text ++ more) = pattern.beyond text ++ more := by
  have rest : text.dropWhile pattern.body ≠ [] := by
    intro empty
    apply goesOn
    rw [beyond, empty, List.dropWhile_nil]
  have late : ∀ (inside : Char → Bool) (early : List Char), early.dropWhile inside ≠ [] →
      (early ++ more).takeWhile inside = early.takeWhile inside ∧
        (early ++ more).dropWhile inside = early.dropWhile inside ++ more := by
    intro inside early some
    induction early with
    | nil => simp at some
    | cons character early induction =>
        cases held : inside character with
        | false => simp [held]
        | true =>
            have remaining : early.dropWhile inside ≠ [] := by simpa [held] using some
            simpa [held] using induction remaining
  have bodies := late pattern.body text rest
  have paddings := late pattern.padding (text.dropWhile pattern.body) goesOn
  simp only [secret, beyond, bodies.1, bodies.2, paddings.1, paddings.2, and_self]

theorem mask_eq : pattern.mask = pattern.filler ++ '[' :: "REDACTED]".toList := rfl

theorem getLast?_mask (early : List Char) : (early ++ pattern.mask).getLast? = some ']' := by
  rw [mask, ← List.append_assoc, List.getLast?_append]
  rfl

theorem Found.append {before : Option Char} {text : List Char} (found : pattern.Found before text)
    (more : List Char) : pattern.Found before (text ++ more) := by
  rcases found with ⟨kept, gap, first, rest, rfl, opens, begins⟩
  exact ⟨kept, gap, first, rest ++ more, by simp, opens, begins⟩

theorem not_found_nil {before : Option Char} : ¬ pattern.Found before [] := by
  rintro ⟨kept, gap, first, rest, empty, _⟩
  simp at empty

end Pattern

/-! ## Passes -/

/-- Goes through a text, told the character before it, and shows what is left of it. -/
inductive Pass (pattern : Pattern) : Option Char → List Char → List Char → Prop where
  | done {before : Option Char} : Pass pattern before [] []
  | plain {before : Option Char} {character : Char} {rest shown : List Char} :
      ¬ pattern.Found before (character :: rest) → Pass pattern (some character) rest shown →
        Pass pattern before (character :: rest) (character :: shown)
  | hidden {before : Option Char} {kept gap rest shown : List Char} {first : Char} :
      pattern.Opens before kept gap → pattern.body first = true →
        Pass pattern (pattern.secret (first :: rest)).getLast? (pattern.beyond (first :: rest))
          shown →
          Pass pattern before (kept ++ gap ++ first :: rest) (kept ++ pattern.mask ++ shown)

variable {recognise : Recogniser} {pattern : Pattern} {before : Option Char}

/-- The character before the rest of a text is the last one of what was passed over. -/
theorem getLast?_cons_or (character : Char) (text : List Char) :
    (character :: text).getLast?.or before = text.getLast?.or (some character) := by
  rw [List.getLast?_cons]
  cases text.getLast? with
  | none => rfl
  | some last => rfl

/-- Characters that belong to a finding are passed over. -/
theorem replaceFrom_length (taken rest : List Char) :
    replaceFrom recognise before taken.length (taken ++ rest) =
      replaceFrom recognise (taken.getLast?.or before) 0 rest := by
  induction taken generalizing before with
  | nil => rfl
  | cons character taken induction =>
      rw [List.length_cons, List.cons_append, replaceFrom, induction, getLast?_cons_or]

namespace Pattern.Describes

variable (describes : pattern.Describes recognise)
include describes

theorem eq_none_iff {text : List Char} :
    recognise before text = none ↔ ¬ pattern.Found before text := by
  constructor
  · rintro none ⟨kept, gap, first, rest, whole, opens, begins⟩
    have some := (describes before text _).mpr ⟨kept, gap, first, rest, whole, opens, begins, rfl⟩
    rw [none] at some
    cases some
  · intro absent
    cases answer : recognise before text with
    | none => rfl
    | some finding =>
        rcases (describes before text finding).mp answer with
          ⟨kept, gap, first, rest, whole, opens, begins, _⟩
        exact absurd ⟨kept, gap, first, rest, whole, opens, begins⟩ absent

theorem replaceFrom_plain {character : Char} {rest : List Char}
    (absent : ¬ pattern.Found before (character :: rest)) :
    replaceFrom recognise before 0 (character :: rest) =
      character :: replaceFrom recognise (some character) 0 rest := by
  rw [replaceFrom, describes.eq_none_iff.mpr absent]

theorem replaceFrom_hidden {kept gap : List Char} {first : Char} (rest : List Char)
    (opens : pattern.Opens before kept gap) (begins : pattern.body first = true) :
    replaceFrom recognise before 0 (kept ++ gap ++ first :: rest) =
      kept ++ pattern.mask ++ replaceFrom recognise (pattern.secret (first :: rest)).getLast? 0
        (pattern.beyond (first :: rest)) := by
  have found := (describes before _ _).mpr ⟨kept, gap, first, rest, rfl, opens, begins, rfl⟩
  cases kept with
  | nil => exact absurd rfl (pattern.kept_ne_nil opens)
  | cons character kept =>
      rw [List.cons_append, List.cons_append] at found ⊢
      rw [replaceFrom, found]
      simp only [List.cons_append, List.length_cons, Nat.add_sub_cancel]
      rw [← pattern.taken_append_beyond (kept ++ gap) (first :: rest), replaceFrom_length,
        getLast?_taken begins]

/-- What is replaced is what the pass hides. -/
theorem pass (text : List Char) :
    Pass pattern before text (replaceFrom recognise before 0 text) := by
  -- By the length, because a secret is left behind as a whole.
  induction size : text.length using Nat.strong_induction_on generalizing before text with
  | _ size induction =>
      subst size
      by_cases found : pattern.Found before text
      · rcases found with ⟨kept, gap, first, rest, rfl, opens, begins⟩
        rw [describes.replaceFrom_hidden _ opens begins]
        apply Pass.hidden opens begins
        apply induction _ _ _ rfl
        have nonempty := List.length_pos_iff.mpr (pattern.kept_ne_nil opens)
        have split := congrArg List.length (pattern.secret_append_beyond (first :: rest))
        simp only [List.length_append] at split ⊢
        omega
      · cases text with
        | nil => exact .done
        | cons character rest =>
            rw [describes.replaceFrom_plain found]
            exact .plain found (induction _ (by simp) _ rfl)

theorem pass_replace (text : List Char) : Pass pattern none text (replace recognise text) :=
  describes.pass text

end Pattern.Describes

namespace Pass

/-- What is shown begins as the text does. -/
theorem head?_eq {text shown : List Char} (pass : Pass pattern before text shown) :
    shown.head? = text.head? := by
  cases pass with
  | done => rfl
  | plain _ _ => rfl
  | @hidden _ kept gap rest shown first opens _ _ =>
      cases kept with
      | nil => exact absurd rfl (pattern.kept_ne_nil opens)
      | cons character kept => rfl

theorem eq_nil_iff {text shown : List Char} (pass : Pass pattern before text shown) :
    shown = [] ↔ text = [] := by
  rw [← List.head?_eq_none_iff, pass.head?_eq, List.head?_eq_none_iff]

/-- The text is shown as it is, or it is as far as the first gap or secret, where the mask is. -/
theorem alike {text shown : List Char} (pass : Pass pattern before text shown) :
    shown = text ∨ ∃ same kept gap first rest later lead, pattern.Opens lead kept gap ∧
      pattern.body first = true ∧ text = same ++ (gap ++ first :: rest) ∧
        shown = same ++ (pattern.mask ++ later) := by
  induction pass with
  | done => exact .inl rfl
  | @plain _ character rest shown _ _ induction =>
      rcases induction with
        equal | ⟨same, kept, gap, first, tail, later, lead, opens, begins, rfl, rfl⟩
      · exact .inl (congrArg _ equal)
      · exact .inr ⟨character :: same, kept, gap, first, tail, later, lead, opens, begins, rfl, rfl⟩
  | @hidden lead kept gap rest shown first opens begins _ _ =>
      exact .inr ⟨kept, kept, gap, first, rest, shown, lead, opens, begins, by simp, by simp⟩

end Pass

/-! ## Places of a text -/

/-- Holds at every place of a text, told the character before and the text from there on. -/
def Everywhere (holds : Option Char → List Char → Prop) : Option Char → List Char → Prop
  | _, [] => True
  | before, character :: rest =>
    holds before (character :: rest) ∧ Everywhere holds (some character) rest

namespace Everywhere

variable {holds other : Option Char → List Char → Prop}

instance decidable [∀ before text, Decidable (holds before text)] :
    ∀ before text, Decidable (Everywhere holds before text)
  | _, [] => inferInstanceAs (Decidable True)
  | before, character :: rest =>
    have := decidable (some character) rest
    inferInstanceAs (Decidable (holds before (character :: rest) ∧
      Everywhere holds (some character) rest))

theorem mono {text : List Char} (implies : ∀ before character rest,
      holds before (character :: rest) → other before (character :: rest))
    (everywhere : Everywhere holds before text) : Everywhere other before text := by
  induction text generalizing before with
  | nil => trivial
  | cons character rest induction =>
      exact ⟨implies _ _ _ everywhere.1, induction everywhere.2⟩

theorem append_iff {front back : List Char} :
    Everywhere holds before (front ++ back) ↔
      Everywhere (fun before text => holds before (text ++ back)) before front ∧
        Everywhere holds (front.getLast?.or before) back := by
  induction front generalizing before with
  | nil => simp [Everywhere]
  | cons character front induction =>
      rw [getLast?_cons_or, List.cons_append, Everywhere, Everywhere, induction, and_assoc]
      rfl

/-- What holds everywhere holds at the place that a text is split at. -/
theorem at_split {front back : List Char} (everywhere : Everywhere holds before (front ++ back))
    (some : back ≠ []) : holds (front.getLast?.or before) back := by
  have late := (append_iff.mp everywhere).2
  cases back with
  | nil => exact absurd rfl some
  | cons character back => exact late.1

/-- What holds everywhere holds everywhere after a secret. -/
theorem beyond {early rest : List Char} {first : Char} (begins : pattern.body first = true)
    (everywhere : Everywhere holds before (early ++ first :: rest)) :
    Everywhere holds (pattern.secret (first :: rest)).getLast?
      (pattern.beyond (first :: rest)) := by
  rw [← pattern.taken_append_beyond] at everywhere
  have late := (append_iff.mp everywhere).2
  rw [Pattern.getLast?_taken begins] at late
  exact late

/-- What holds of every end of a text holds everywhere in it. -/
theorem of_suffix {text : List Char} (each : ∀ before late, late <:+ text → holds before late) :
    Everywhere holds before text := by
  induction text generalizing before with
  | nil => trivial
  | cons character text induction =>
      exact ⟨each _ _ (List.suffix_refl _),
        induction fun before late suffix => each before late (suffix.trans (List.suffix_cons _ _))⟩

end Everywhere

/-- A text in which nothing is found is shown as it is. -/
theorem Pattern.Describes.replaceFrom_of_free (describes : pattern.Describes recognise)
    {text : List Char}
    (free : Everywhere (fun before text => ¬ pattern.Found before text) before text) :
    replaceFrom recognise before 0 text = text := by
  induction text generalizing before with
  | nil => rfl
  | cons character rest induction =>
      rw [describes.replaceFrom_plain free.1, induction free.2]

end ObservatoryWatch.Redaction
