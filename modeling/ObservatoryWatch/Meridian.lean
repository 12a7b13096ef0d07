import ObservatoryWatch.Calendar.Moment
import ObservatoryWatch.Number.Word

/-!
The countdown to the meridian flip.

Hours are cut to whole minutes, toward zero, and clamped to the range of a signed
32-bit number; the text shows hours and minutes, each with its sign. The longer
form adds the time of day at which the flip is due.
-/

namespace ObservatoryWatch.Meridian

open Number Calendar

/-- The whole part of a number, clamped to 32 bits; not-a-number counts as nothing. -/
def truncate (value : Binary64) : Int :=
  match value with
  | .nan => 0
  | .infinite negative => if negative then leastWord 32 else greatestWord 32
  | .finite negative units _ =>
    clampToWord 32 (Binary64.signed negative (units / Binary64.unitsPerOne))

theorem isWord_truncate (value : Binary64) : isWord 32 (truncate value) = true := by
  cases value with
  | nan => decide
  | infinite negative => cases negative <;> decide
  | finite negative units representable => exact isWord_clampToWord 32 _

/-- A number with at least two characters, zeros after the sign filling the gap. -/
def twoPlaces (number : Int) : String :=
  if number < 0 then "-" ++ padded 1 number.natAbs else padded 2 number.natAbs

def minutes (hours : Binary64) : Int := truncate (hours * .ofNat 60)

def seconds (hours : Binary64) : Int := truncate (hours * .ofNat 3600)

/-- Hours and minutes, each carrying the sign of the whole. -/
def shortText (hours : Binary64) : String :=
  let total := minutes hours
  twoPlaces (total.tdiv 60) ++ ":" ++ twoPlaces (total.tmod 60)

/-- The short form with the time of day of the flip, unless that lies past the calendar. -/
def clockText (hours : Binary64) (now : Moment) : String :=
  match now.after? (seconds hours) with
  | some flip => shortText hours ++ " (at " ++ flip.clockText ++ ")"
  | none => shortText hours

end ObservatoryWatch.Meridian
