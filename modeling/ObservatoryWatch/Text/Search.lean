/-!
Looking for one text inside another.
-/

namespace ObservatoryWatch.Text

/-- Whether a run of characters occurs somewhere in a text. -/
def occursIn (part : List Char) : List Char → Bool
  | [] => part.isEmpty
  | character :: rest => part.isPrefixOf (character :: rest) || occursIn part rest

def contains (whole part : String) : Bool := occursIn part.toList whole.toList

def startsWith (whole start : String) : Bool := start.toList.isPrefixOf whole.toList

def endsWith (whole ending : String) : Bool := ending.toList.isSuffixOf whole.toList

example : contains "MOUNT-ERROR-2" "ERROR" = true := by decide
example : endsWith "CAMERA-CONNECTED" "-CONNECTED" = true := by decide

end ObservatoryWatch.Text
