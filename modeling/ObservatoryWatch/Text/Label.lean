import ObservatoryWatch.Text.CodePoint

/-!
Texts as they came.

A text from outside may hold surrogates that have no partner. A label keeps them, so that two labels
are the same only if they were spelled alike.
-/

namespace ObservatoryWatch.Text

/-- A text with at least one surrogate that has no partner. -/
structure Ragged where
  points : List CodePoint
  isRagged : points.any CodePoint.isLone = true
  deriving DecidableEq, Repr

namespace Ragged

/-- The text by which a person is shown the ragged one. -/
def shown (text : Ragged) : String := String.ofList (text.points.map CodePoint.shown)

theorem fault?_isSome (text : Ragged) (encoding : Encoding) (before : List CodePoint) :
    (encoding.fault? (before ++ text.points)).isSome = true := by
  rcases List.any_eq_true.mp text.isRagged with ⟨point, member, lone⟩
  rw [Option.isSome_iff_ne_none]
  intro none
  have written := Encoding.fault?_eq_none.mp none point (List.mem_append_right before member)
  cases point with
  | char _ => cases lone
  | lone _ => cases encoding <;> cases written

/-- Why no encoding writes the text after another one. -/
def fault (text : Ragged) (encoding : Encoding) (before : List CodePoint) : EncodingFault :=
  (encoding.fault? (before ++ text.points)).get (text.fault?_isSome encoding before)

end Ragged

inductive Label where
  | whole (text : String)
  | ragged (text : Ragged)
  deriving DecidableEq, Repr

namespace Label

def ofPoints (text : List CodePoint) : Label :=
  if isRagged : text.any CodePoint.isLone = true then ragged ⟨text, isRagged⟩
  else whole (String.ofList (text.map CodePoint.shown))

theorem ofPoints_points (text : List Char) : ofPoints (points text) = whole (String.ofList text) := by
  have plain : ¬ (points text).any CodePoint.isLone = true := by
    rw [any_isLone_points]
    exact Bool.false_ne_true
  rw [ofPoints, dif_neg plain, map_shown_points]

def points : Label → List CodePoint
  | whole text => Text.points text.toList
  | ragged text => text.points

def shown : Label → String
  | whole text => text
  | ragged text => text.shown

/-- Why the label cannot be encoded, unless it is a text without surrogates. -/
def fault? : Label → Option EncodingFault
  | whole _ => none
  | ragged text => some (text.fault .utf8 [])

end Label

end ObservatoryWatch.Text
