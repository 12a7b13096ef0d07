/-!
Letters regardless of case.

A few letters of other scripts are case variants of ASCII letters: the long s, the
Kelvin sign, and the dotted capital and dotless small i. `fold` identifies them too,
so a word cannot be hidden by writing one of them. `lower` gives the small letter
that a character turns into; there the two forms of i do not become plain.
-/

namespace ObservatoryWatch.Text

/-- The small ASCII letter of which a character is a variant; others stay as they are. -/
def fold (character : Char) : Char :=
  if character == '\u017F' then 's'
  else if character == '\u212A' then 'k'
  else if character == '\u0130' || character == '\u0131' then 'i'
  else character.toLower

/-- The small letter of a character whose small form is a single ASCII letter. -/
def lower (character : Char) : Char :=
  if character == '\u212A' then 'k' else character.toLower

def lowerText (text : String) : String := text.map lower

/-- The text after a word in any case; none if the text does not begin with the word,
which is itself given in small letters. -/
def afterFolded? (word characters : List Char) : Option (List Char) :=
  if (characters.take word.length).map fold = word then some (characters.drop word.length)
  else none

example : fold 'S' = 's' ∧ fold 'ſ' = 's' ∧ fold 'é' = 'é' := by decide

end ObservatoryWatch.Text
