/-!
Sets of characters given by ranges of code points.
-/

namespace ObservatoryWatch.Text

/-- Ranges of code points, each with both ends. -/
abbrev Ranges := List (Nat × Nat)

def Ranges.contains (ranges : Ranges) (character : Char) : Bool :=
  ranges.any fun (low, high) => low ≤ character.toNat && character.toNat ≤ high

end ObservatoryWatch.Text
