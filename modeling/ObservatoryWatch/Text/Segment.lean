/-!
Texts cut into segments at a mark.
-/

namespace ObservatoryWatch.Text

/-- The segments between marks; without a mark the text is its only segment. -/
def segmentsOf (mark : Char) : List Char → List (List Char)
  | [] => [[]]
  | character :: rest =>
    if character == mark then [] :: segmentsOf mark rest
    else match segmentsOf mark rest with
      | [] => [[character]]
      | segment :: others => (character :: segment) :: others

def segments (mark : Char) (text : String) : List String :=
  (segmentsOf mark text.toList).map String.ofList

example : segments '/' "a//b" = ["a", "", "b"] := by decide

end ObservatoryWatch.Text
