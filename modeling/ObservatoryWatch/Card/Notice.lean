import ObservatoryWatch.Card.Basic
import ObservatoryWatch.Card.Style
import ObservatoryWatch.Meridian
import ObservatoryWatch.Observatory.Autofocus
import ObservatoryWatch.Observatory.Image
import ObservatoryWatch.Observatory.Mount
import ObservatoryWatch.Target

/-!
The cards of the monitor: what each occasion is told about.

None of them carries a time stamp yet; it is put on when a card is sent.
-/

namespace ObservatoryWatch.Card

open Calendar Number Observatory

/-! ## Numbers on cards -/

/-- A number as short as possible: whole ones without a point. -/
def numberText (number : Binary64) : String :=
  match number.truncate? with
  | some value => if number.isWhole then toString value else number.toText
  | none => number.toText

/-- A number with a fixed count of places. -/
def fixedText (number : Binary64) (places : Nat) : String :=
  if number.isNaN then "NaN" else number.toFixedText places

/-- A change with its direction; no change has none. -/
def changeText (change : Int) : String :=
  if 0 < change then "+" ++ toString change else toString change

/-! ## Groups of fields -/

def addFlip (card : Card) (flipHours : Option Binary64) (now : Moment) : Card :=
  match flipHours with
  | some hours => card.add "Meridian Flip In" (Meridian.clockText hours now)
  | none => card

/-- The mount's position and state, if a mount is known and connected. -/
def addMount (card : Card) : Option Mount → Card
  | none => card
  | some mount =>
    if mount.connected then
      card
        |>.add "Mount Position"
          ("RA: " ++ mount.rightAscensionText ++ "\nDec: " ++ mount.declinationText)
        |>.add "Alt/Az" ("Alt: " ++ mount.altitudeText ++ "\nAz: " ++ mount.azimuthText)
        |>.add "Pier Side" mount.sideOfPier
        |>.add "Tracking" (if mount.trackingEnabled then "✅ Enabled" else "❌ Disabled")
    else card

/-- What an announced target came with. -/
def addTargetDetails (card : Card) : Target → Card
  | .sequenced _ => card
  | .announced start =>
    card
      |>.add "Project" start.projectName
      |>.addWide "Coordinates"
        ("RA: " ++ start.coordinates.rightAscensionText.shown ++ "\nDec: " ++
          start.coordinates.declinationText.shown)
      |>.add "Rotation" (numberText start.rotation ++ "°")

def addCurrentTarget (card : Card) (fieldName : String) : Option Target → Card
  | some target => card.add fieldName target.name
  | none => card

/-! ## Occasions -/

/-- The monitor has started. -/
def welcome (current : Option Target) (events images channels : Int)
    (flipHours : Option Binary64) (mount : Option Mount) (now : Moment) : Card :=
  let opening := (titled "🚀 SpaceCat Observatory Monitor Started" Color.green.rgb).withFooter
    "Ready to monitor telescope events and images"
  let withTarget := match current with
    | none => opening.addWide "Current Target" "None detected"
    | some target =>
      ((opening.addWide "Current Target" target.name).addTargetDetails target).add
        "Target Source" target.sourceLabel
  withTarget
    |>.add "Events in History" (toString events)
    |>.add "Images in History" (toString images)
    |>.add "Chat Services" (toString channels)
    |>.addFlip flipHours now
    |>.addMount mount

/-- The first target has started, or another one has taken its place. -/
def newTarget (target : Target) (previous : Option Target) (flipHours : Option Binary64)
    (mount : Option Mount) (now : Moment) : Card :=
  let opening := match previous with
    | none => (titled "🎯 Target Started" Color.green.rgb).addWide "Target" target.name
    | some previous =>
      titled "🎯 Target Change" Color.cyan.rgb
        |>.add "Previous Target" previous.name
        |>.add "New Target" target.name
  opening.addTargetDetails target |>.addFlip flipHours now |>.addMount mount

/-- A filter with its number. -/
def filterText (filter : Filter) : String :=
  filter.name ++ " (ID: " ++ toString filter.number ++ ")"

/-- An event without a card of its own kind. -/
def event (event : Event) : Card :=
  let opening := (titled (eventTitle event.kind) (eventColor event.kind).rgb).addWide
    "Time" event.time
  match event.change? with
  | some change =>
    opening
      |>.addWide "Filter Change" (change.previous.name ++ " → " ++ change.new.name)
      |>.add "Previous" (filterText change.previous)
      |>.add "New" (filterText change.new)
  | none => opening

/-- The mount is about to flip, has flipped or is parked. -/
def mountEvent (event : Event) (current : Option Target) (mount : Option Mount) : Card :=
  let (title, color) := mountStyle event.kind
  titled title color.rgb
    |>.add "Event" event.kind
    |>.add "Time" event.time
    |>.addCurrentTarget "Current Target" current
    |>.addMount mount

/-- An autofocus run has finished; its change of position must be a whole number. -/
def autofocus (result : Autofocus) : Except ConversionFault Card := do
  let change ← result.positionChange
  let (sign, color) :=
    if result.isSuccessful then ("✅", Color.green) else ("⚠️", Color.orange)
  return (titled (sign ++ " Autofocus Completed") color.rgb).withFooter
      ("Focuser: " ++ result.focuserName)
    |>.add "Filter" result.filter
    |>.add "Method" result.method
    |>.add "Duration" result.duration
    |>.add "Temperature" (fixedText result.temperature 1 ++ "°C")
    |>.add "Focus Position" (numberText result.foundPoint.position)
    |>.add "Position Change" (changeText change)
    |>.add "HFR" (fixedText result.foundPoint.value 3)
    |>.add "R-squared" (fixedText result.fits.best 4)
    |>.add "Measurements" (toString result.measuredPoints.length)

/-- An image card mentions the flip only when it is at most so many hours away. -/
def flipWindow : Binary64 := .ofNat 1

/-- The hours to the flip, if it is near. -/
def nearFlip (flipHours : Option Binary64) : Option Binary64 :=
  flipHours.filter (·.isAtMost flipWindow)

/-- A new image, and how many before it were passed over in silence. -/
def image (image : Image) (current : Option Target) (skipped : Int)
    (flipHours : Option Binary64) (now : Moment) : Card :=
  let captured := "📸 New " ++ image.imageType ++ " Frame Captured"
  let title :=
    if 0 < skipped then captured ++ " (+" ++ toString skipped ++ " skipped)" else captured
  let opening := ((titled title (imageColor image.imageType).rgb).withFooter
    ("Telescope: " ++ image.telescopeName)).addCurrentTarget "Target" current
  let counted :=
    if 0 < skipped then
      opening.add "Images Since Last Post" (toString (skipped + 1) ++ " images")
    else opening
  counted
    |>.add "Camera" image.cameraName
    |>.add "Tracking RMS" image.trackingText
    |>.add "Filter" image.filter
    |>.add "Exposure" (numberText image.exposureTime ++ "s")
    |>.add "Temperature" (fixedText image.temperature 1 ++ "°C")
    |>.add "Stars" (toString image.stars)
    |>.add "HFR" (fixedText image.halfFluxRadius 2)
    |>.add "Mean" (fixedText image.mean 1)
    |>.add "Median" (fixedText image.median 1)
    |>.add "StDev" (fixedText image.deviation 1)
    |>.addFlip (nearFlip flipHours) now

end ObservatoryWatch.Card
