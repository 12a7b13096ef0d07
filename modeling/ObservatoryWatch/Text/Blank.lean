import ObservatoryWatch.Text.Range

/-!
Blank characters.

Two sets are in use. `isWhiteSpace` is the Unicode property; `isBlank` adds the
four information separators, which terminals also show as a gap. Numbers in
payloads may be surrounded by the first, words in settings by the second.
-/

namespace ObservatoryWatch.Text

def whiteSpaceRanges : Ranges :=
  [(0x9, 0xd), (0x20, 0x20), (0x85, 0x85), (0xa0, 0xa0), (0x1680, 0x1680), (0x2000, 0x200a),
    (0x2028, 0x2029), (0x202f, 0x202f), (0x205f, 0x205f), (0x3000, 0x3000)]

def informationSeparators : Ranges := [(0x1c, 0x1f)]

def isWhiteSpace (character : Char) : Bool := whiteSpaceRanges.contains character

def isBlank (character : Char) : Bool :=
  isWhiteSpace character || informationSeparators.contains character

/-- Takes the characters of a set away from both ends. -/
def trimWith (inSet : Char → Bool) (characters : List Char) : List Char :=
  (characters.dropWhile inSet).reverse.dropWhile inSet |>.reverse

example : isBlank '\t' ∧ isBlank '\u00a0' ∧ isBlank '\x1f' ∧ ¬ isWhiteSpace '\x1f' := by decide
example : trimWith isBlank " a b\n".toList = ['a', ' ', 'b'] := by decide

end ObservatoryWatch.Text
