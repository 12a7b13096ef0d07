import Mathlib.Data.List.Infix
import ObservatoryWatch.Card.Written

/-!
The HTML of a card can be read in one way only.

It is a row of pieces: the tags that mark the parts of a card, and the characters of its texts, of
which those that HTML gives a meaning are escaped. No piece begins like another one, so the pieces
are told from the HTML. A text holds no mark, and what follows a text begins with one, so the parts
of the card are told from the pieces.
-/

namespace ObservatoryWatch.Card

/-! ## Tags -/

/-- The tags in the HTML of a card. -/
def tags : List String := ["<strong>", "</strong>", "<em>", "</em>", "<br/>"]

/-- A text in which every angle bracket belongs to a tag. -/
inductive Tagged : List Char → Prop where
  | nil : Tagged []
  | tag {tag rest : List Char} (known : tag ∈ tags.map String.toList) (later : Tagged rest) :
      Tagged (tag ++ rest)
  | plain {character : Char} {rest : List Char} (opening : character ≠ '<')
      (closing : character ≠ '>') (later : Tagged rest) : Tagged (character :: rest)

theorem Tagged.append {early late : List Char} (first : Tagged early) (second : Tagged late) :
    Tagged (early ++ late) := by
  induction first with
  | nil => exact second
  | tag known _ induction =>
      rw [List.append_assoc]
      exact .tag known induction
  | plain opening closing _ induction => exact .plain opening closing induction

theorem Tagged.of_plain {text : List Char}
    (plain : ∀ character ∈ text, character ≠ '<' ∧ character ≠ '>') : Tagged text := by
  induction text with
  | nil => exact .nil
  | cons character rest induction =>
      rcases List.forall_mem_cons.mp plain with ⟨first, others⟩
      exact .plain first.1 first.2 (induction others)

/-! ## Pieces -/

/-- A mark of the form, or a character of a text. -/
inductive Piece where
  | strong
  | endStrong
  | emphasis
  | endEmphasis
  | letter (character : Char)
  deriving DecidableEq

namespace Piece

def written : Piece → List Char
  | strong => "<strong>".toList
  | endStrong => "</strong>".toList
  | emphasis => "<em>".toList
  | endEmphasis => "</em>".toList
  | letter character => htmlChar character

def isMark : Piece → Bool
  | letter _ => false
  | _ => true

/-- The characters that are not written as they are. -/
def escaped : List Char := ['&', '<', '>', '"', '\'', '\n']

theorem written_plain {character : Char} (plain : character ∉ escaped) :
    (letter character).written = [character] := by
  unfold written htmlChar
  split <;> simp_all [escaped]

/-- The pieces of more than one character. -/
def long : List Piece := [strong, endStrong, emphasis, endEmphasis] ++ escaped.map letter

theorem long_or_plain (piece : Piece) :
    piece ∈ long ∨ ∃ character, piece = letter character ∧ character ∉ escaped := by
  cases piece with
  | letter character =>
      by_cases special : character ∈ escaped
      · exact .inl (List.mem_append_right _ (List.mem_map_of_mem special))
      · exact .inr ⟨character, rfl, special⟩
  | _ => exact .inl (by decide)

theorem written_tagged (piece : Piece) : Tagged piece.written := by
  rcases piece.long_or_plain with member | ⟨character, rfl, plain⟩
  · have known : ∀ piece ∈ long, piece.written ∈ tags.map String.toList ∨
        piece.written.all (fun character => character != '<' && character != '>') = true := by
      decide
    rcases known piece member with tag | plain
    · have tagged := Tagged.tag tag .nil
      rwa [List.append_nil] at tagged
    · exact .of_plain (by simpa using plain)
  · rw [written_plain plain]
    refine .plain ?_ ?_ .nil
    · rintro rfl
      exact plain (by decide)
    · rintro rfl
      exact plain (by decide)

/-- A long piece begins with a character that is never written as it is. -/
theorem begins_of_long {piece : Piece} (member : piece ∈ long) :
    ∃ first ∈ escaped, ∃ rest, piece.written = first :: rest := by
  have begins : ∀ piece ∈ long, piece.written.head?.any (escaped.contains ·) = true := by decide
  have known := begins piece member
  cases written : piece.written with
  | nil =>
      rw [written] at known
      cases known
  | cons first rest =>
      rw [written] at known
      exact ⟨first, List.contains_iff_mem.mp known, rest, rfl⟩

theorem written_ne_nil (piece : Piece) : piece.written ≠ [] := by
  rcases piece.long_or_plain with member | ⟨character, rfl, plain⟩
  · rcases begins_of_long member with ⟨first, _, rest, written⟩
    rw [written]
    exact List.cons_ne_nil _ _
  · rw [written_plain plain]
    exact List.cons_ne_nil _ _

/-- No piece begins like another one. -/
theorem eq_of_written_begins {one other : Piece} (begins : one.written <+: other.written) :
    one = other := by
  rcases one.long_or_plain with oneLong | ⟨character, rfl, plain⟩ <;>
    rcases other.long_or_plain with otherLong | ⟨second, rfl, otherPlain⟩
  · have apart : ∀ one ∈ long, ∀ other ∈ long, one.written <+: other.written → one = other := by
      decide
    exact apart one oneLong other otherLong begins
  · rcases begins_of_long oneLong with ⟨first, special, rest, written⟩
    rw [written, written_plain otherPlain] at begins
    cases (List.cons_prefix_cons.mp begins).1
    exact absurd special otherPlain
  · rcases begins_of_long otherLong with ⟨first, special, rest, written⟩
    rw [written, written_plain plain] at begins
    cases (List.cons_prefix_cons.mp begins).1
    exact absurd special plain
  · rw [written_plain plain, written_plain otherPlain] at begins
    cases (List.cons_prefix_cons.mp begins).1
    rfl

/-- The pieces are told from what is written. -/
theorem flatMap_written_injective {ones others : List Piece}
    (same : ones.flatMap written = others.flatMap written) : ones = others := by
  induction ones generalizing others with
  | nil =>
      cases others with
      | nil => rfl
      | cons other others =>
          exact absurd (List.append_eq_nil_iff.mp same.symm).1 other.written_ne_nil
  | cons one ones induction =>
      cases others with
      | nil => exact absurd (List.append_eq_nil_iff.mp same).1 one.written_ne_nil
      | cons other others =>
          rw [List.flatMap_cons, List.flatMap_cons] at same
          have here : one.written <+: other.written ++ others.flatMap written :=
            ⟨_, same⟩
          have equal : one = other := by
            rcases List.prefix_or_prefix_of_prefix here (List.prefix_append _ _) with
              shorter | longer
            · exact eq_of_written_begins shorter
            · exact (eq_of_written_begins longer).symm
          subst other
          rw [induction (List.append_cancel_left same)]

end Piece

/-! ## The pieces of a card -/

/-- The characters of a text as pieces. -/
def letters (text : String) : List Piece := text.toList.map .letter

namespace Field

/-- The name of a field between marks, then its value and a line break. -/
def pieces (field : Field) : List Piece :=
  .strong :: (letters field.name ++ .endStrong :: (letters ": " ++ (letters field.value ++
    letters "\n")))

end Field

def footerPieces : Option String → List Piece
  | some footer => .emphasis :: (letters footer ++ [.endEmphasis])
  | none => []

def pieces (card : Card) : List Piece :=
  .strong :: (letters card.title ++ .endStrong :: (letters "\n\n" ++
    (card.fields.flatMap Field.pieces ++ footerPieces card.shownFooter?)))

theorem flatMap_written_letters (text : String) :
    (letters text).flatMap Piece.written = (htmlText text).toList := by
  rw [htmlText, String.toList_ofList, letters, List.flatMap_map]
  rfl

theorem flatMap_written_field (field : Field) :
    field.pieces.flatMap Piece.written = (htmlField field).toList := by
  simp only [Field.pieces, List.flatMap_cons, List.flatMap_append, flatMap_written_letters,
    htmlField, String.toList_append, List.append_assoc]
  rfl

/-- The HTML of a card is what its pieces are written as. -/
theorem flatMap_written_pieces (card : Card) :
    card.pieces.flatMap Piece.written = card.toHtml.toList := by
  have fields : (card.fields.flatMap Field.pieces).flatMap Piece.written =
      (String.join (card.fields.map htmlField)).toList := by
    rw [String.toList_join, List.flatMap_map, List.flatMap_assoc]
    exact List.flatMap_congr fun field _ => flatMap_written_field field
  have footer : (footerPieces card.shownFooter?).flatMap Piece.written =
      (match card.shownFooter? with
        | some footer => "<em>" ++ htmlText footer ++ "</em>"
        | none => "" : String).toList := by
    cases card.shownFooter? with
    | none => rfl
    | some footer =>
        simp only [footerPieces, List.flatMap_cons, List.flatMap_append, flatMap_written_letters,
          String.toList_append]
        rfl
  simp only [pieces, List.flatMap_cons, List.flatMap_append, flatMap_written_letters, fields,
    footer, toHtml, String.toList_append, List.append_assoc]
  rfl

theorem toHtml_tagged (card : Card) : Tagged card.toHtml.toList := by
  rw [← flatMap_written_pieces]
  induction card.pieces with
  | nil => exact .nil
  | cons piece rest induction => exact piece.written_tagged.append induction

/-! ## The parts of a card -/

theorem isMark_of_mem_letters {text : String} :
    ∀ piece ∈ letters text, piece.isMark = false := by
  intro piece member
  rcases List.mem_map.mp member with ⟨_, _, rfl⟩
  rfl

theorem letters_append (early late : String) :
    letters (early ++ late) = letters early ++ letters late := by
  rw [letters, String.toList_append, List.map_append]
  rfl

theorem letters_injective {one other : String} (same : letters one = letters other) :
    one = other :=
  String.toList_injective (List.map_injective_iff.mpr (fun _ _ => Piece.letter.inj) same)

/-- A row of pieces that does not go on with a letter. -/
def Marked (pieces : List Piece) : Prop := ∀ piece ∈ pieces.head?, piece.isMark = true

theorem Marked.cons {piece : Piece} (mark : piece.isMark = true) (rest : List Piece) :
    Marked (piece :: rest) := by
  rintro _ ⟨⟩
  exact mark

theorem plain_append_inj {ones others late later : List Piece}
    (plain : ∀ piece ∈ ones, piece.isMark = false)
    (otherPlain : ∀ piece ∈ others, piece.isMark = false) (marked : Marked late)
    (otherMarked : Marked later) (same : ones ++ late = others ++ later) :
    ones = others ∧ late = later := by
  induction ones generalizing others with
  | nil =>
      cases others with
      | nil => exact ⟨rfl, same⟩
      | cons other others =>
          cases same
          cases (otherPlain other List.mem_cons_self).symm.trans (marked other rfl)
  | cons one ones induction =>
      cases others with
      | nil =>
          cases same
          cases (plain one List.mem_cons_self).symm.trans (otherMarked one rfl)
      | cons other others =>
          rcases List.cons.inj same with ⟨rfl, rest⟩
          rcases induction (List.forall_mem_cons.mp plain).2
            (List.forall_mem_cons.mp otherPlain).2 rest with ⟨rfl, ends⟩
          exact ⟨rfl, ends⟩

/-- A text reaches as far as there is no mark. -/
theorem letters_append_inj {one other : String} {late later : List Piece} (marked : Marked late)
    (otherMarked : Marked later) (same : letters one ++ late = letters other ++ later) :
    one = other ∧ late = later := by
  rcases plain_append_inj isMark_of_mem_letters isMark_of_mem_letters marked otherMarked same with
    ⟨texts, rest⟩
  exact ⟨letters_injective texts, rest⟩

theorem Marked.rows (fields : List Field) (footer : Option String) :
    Marked (fields.flatMap Field.pieces ++ footerPieces footer) := by
  cases fields with
  | nil =>
      cases footer with
      | none => rintro _ ⟨⟩
      | some footer => exact .cons rfl _
  | cons field fields => exact .cons rfl _

theorem footerPieces_injective {one other : Option String}
    (same : footerPieces one = footerPieces other) : one = other := by
  cases one with
  | none =>
      cases other with
      | none => rfl
      | some other => cases same
  | some one =>
      cases other with
      | none => cases same
      | some other =>
          have texts := letters_append_inj (.cons rfl []) (.cons rfl []) (List.cons.inj same).2
          rw [texts.1]

/-- A field is told from its pieces, whatever marked pieces follow. -/
theorem field_append_inj {one other : Field} {late later : List Piece} (marked : Marked late)
    (otherMarked : Marked later) (same : one.pieces ++ late = other.pieces ++ later) :
    one.name = other.name ∧ one.value = other.value ∧ late = later := by
  simp only [Field.pieces, List.cons_append, List.append_assoc] at same
  have names := letters_append_inj (.cons rfl _) (.cons rfl _) (List.cons.inj same).2
  -- The line break after a value counts as its last character.
  have values := List.append_cancel_left (List.cons.inj names.2).2
  rw [← List.append_assoc, ← List.append_assoc, ← letters_append, ← letters_append] at values
  rcases letters_append_inj marked otherMarked values with ⟨broken, rest⟩
  rw [← String.toList_inj, String.toList_append, String.toList_append] at broken
  exact ⟨names.1, String.toList_injective (List.append_cancel_right broken), rest⟩

/-- What the fields say, in order. -/
def namesAndValues (fields : List Field) : List (String × String) :=
  fields.map fun field => (field.name, field.value)

theorem rows_inj {ones others : List Field} {footer otherFooter : Option String}
    (same : ones.flatMap Field.pieces ++ footerPieces footer =
      others.flatMap Field.pieces ++ footerPieces otherFooter) :
    namesAndValues ones = namesAndValues others ∧ footer = otherFooter := by
  induction ones generalizing others with
  | nil =>
      cases others with
      | nil => exact ⟨rfl, footerPieces_injective same⟩
      | cons other others => cases footer <;> cases same
  | cons one ones induction =>
      cases others with
      | nil => cases otherFooter <;> cases same
      | cons other others =>
          rw [List.flatMap_cons, List.flatMap_cons, List.append_assoc, List.append_assoc] at same
          rcases field_append_inj (.rows _ _) (.rows _ _) same with ⟨names, values, rest⟩
          rcases induction rest with ⟨fields, footers⟩
          refine ⟨?_, footers⟩
          rw [namesAndValues, List.map_cons, names, values]
          exact congrArg (_ :: ·) fields

/-- The HTML of the fields depends on what they say only. -/
theorem map_htmlField_congr {ones others : List Field}
    (same : namesAndValues ones = namesAndValues others) :
    ones.map htmlField = others.map htmlField := by
  have said (fields : List Field) : fields.map htmlField = (namesAndValues fields).map
      fun (name, value) =>
        "<strong>" ++ htmlText name ++ "</strong>: " ++ htmlText value ++ "<br/>" := by
    rw [namesAndValues, List.map_map]
    rfl
  rw [said, said, same]

/-- What the footer says; nothing if there is none. -/
def footerText (card : Card) : String := card.footer.getD ""

theorem shownFooter?_eq (card : Card) :
    card.shownFooter? = if card.footerText.isEmpty then none else some card.footerText := by
  unfold shownFooter? footerText
  cases card.footer with
  | none => rfl
  | some footer =>
      by_cases empty : footer = ""
      · subst footer
        rfl
      · simp [empty]

theorem shownFooter?_eq_iff {one other : Card} :
    one.shownFooter? = other.shownFooter? ↔ one.footerText = other.footerText := by
  constructor
  · intro same
    rw [shownFooter?_eq, shownFooter?_eq] at same
    split at same <;> split at same <;> simp_all
  · intro same
    rw [shownFooter?_eq, shownFooter?_eq, same]

/-- Every angle bracket in the HTML of a card belongs to a tag, and two cards have the same HTML
exactly if they have the same title, the same names and values of fields in the same order, and the
same footer, an empty one being like none. -/
theorem html_tells_card (one other : Card) :
    Tagged one.toHtml.toList ∧
      (one.toHtml = other.toHtml ↔
        one.title = other.title ∧ namesAndValues one.fields = namesAndValues other.fields ∧
          one.footerText = other.footerText) := by
  refine ⟨toHtml_tagged one, fun same => ?_, ?_⟩
  · have pieces : one.pieces = other.pieces := by
      apply Piece.flatMap_written_injective
      rw [flatMap_written_pieces, flatMap_written_pieces, same]
    have titles := letters_append_inj (.cons rfl _) (.cons rfl _) (List.cons.inj pieces).2
    have rows := rows_inj (List.append_cancel_left (List.cons.inj titles.2).2)
    exact ⟨titles.1, rows.1, shownFooter?_eq_iff.mp rows.2⟩
  · rintro ⟨titles, fields, footers⟩
    rw [toHtml, toHtml, titles, map_htmlField_congr fields, shownFooter?_eq_iff.mpr footers]

end ObservatoryWatch.Card
