import ObservatoryWatch.Number.Binary64

/-!
The gate for image notifications.

After an image has been reported, others are held back for a while. The gate knows
when it last let one pass and how many it has held back since; asking whether one
may pass changes nothing.
-/

namespace ObservatoryWatch.Monitor

structure Gate where
  cooldown : Binary64
  lastSentAt : Option Binary64
  suppressed : Nat
  cooldown_not_negative : cooldown.isLess 0 = false

namespace Gate

/-- A gate that has let nothing pass yet; the cooldown must not be negative. -/
def new? (cooldown : Binary64) : Option Gate :=
  if notNegative : cooldown.isLess 0 = false then some ⟨cooldown, none, 0, notNegative⟩
  else none

/-- What is said of a negative cooldown. -/
def refusal : String := "cooldown_seconds must be >= 0."

/-- Whether an image may be reported now. -/
def isOpen (gate : Gate) (now : Binary64) : Bool :=
  match gate.lastSentAt with
  | none => true
  | some last => gate.cooldown.isAtMost (now - last)

/-- An image is reported; nothing is held back any more. -/
def letPass (gate : Gate) (now : Binary64) : Gate :=
  { gate with lastSentAt := some now, suppressed := 0 }

/-- An image is held back. -/
def holdBack (gate : Gate) : Gate := { gate with suppressed := gate.suppressed + 1 }

/-- Seconds until the gate opens again. -/
def remaining (gate : Gate) (now : Binary64) : Binary64 :=
  match gate.lastSentAt with
  | none => 0
  | some last =>
    let left := gate.cooldown - (now - last)
    if Binary64.isLess 0 left then left else 0

end Gate

end ObservatoryWatch.Monitor
