import ObservatoryWatch.Observatory.Event
import ObservatoryWatch.Text.Search

/-!
Titles and colours of cards.
-/

namespace ObservatoryWatch.Card

open Observatory

inductive Color where
  | red
  | green
  | blue
  | yellow
  | purple
  | orange
  | cyan
  | gray
  deriving DecidableEq

def Color.rgb : Color → Int
  | red => 0xFF0000
  | green => 0x00FF00
  | blue => 0x0000FF
  | yellow => 0xFFFF00
  | purple => 0x800080
  | orange => 0xFFA500
  | cyan => 0x00FFFF
  | gray => 0x808080

def eventColors : List (String × Color) :=
  [("CAMERA-CONNECTED", .green), ("CAMERA-DISCONNECTED", .red),
    ("FILTERWHEEL-CONNECTED", .blue), ("FILTERWHEEL-DISCONNECTED", .red),
    ("FILTERWHEEL-CHANGED", .blue), ("MOUNT-CONNECTED", .green),
    ("MOUNT-DISCONNECTED", .red), ("MOUNT-PARKED", .yellow), ("MOUNT-UNPARKED", .yellow),
    ("MOUNT-SLEW", .orange), ("FOCUSER-CONNECTED", .green), ("FOCUSER-DISCONNECTED", .red),
    ("FOCUS-START", .purple), ("FOCUS-END", .purple), ("AUTOFOCUS-FINISHED", .purple),
    ("ROTATOR-CONNECTED", .green), ("ROTATOR-DISCONNECTED", .red), ("ROTATOR-MOVED", .cyan),
    ("ROTATOR-SYNCED", .cyan), ("GUIDER-CONNECTED", .green), ("GUIDER-DISCONNECTED", .red),
    ("GUIDER-START", .blue), ("GUIDER-DITHER", .cyan), ("SEQUENCE-START", .cyan),
    ("SEQUENCE-STOP", .orange), ("SEQUENCE-PAUSE", .yellow), ("SEQUENCE-RESUME", .cyan),
    ("SEQUENCE-FINISHED", .green), ("ADV-SEQ-STOP", .orange), ("EXPOSURE-START", .yellow),
    ("EXPOSURE-END", .green), ("FLAT-DISCONNECTED", .red), ("WEATHER-DISCONNECTED", .red),
    ("SWITCH-DISCONNECTED", .red), ("DOME-DISCONNECTED", .red),
    ("SAFETY-DISCONNECTED", .red), ("TS-TARGETSTART", .cyan)]

/-- The colour of an event kind; kinds not in the list are judged by a word they hold. -/
def eventColor (kind : String) : Color :=
  match eventColors.lookup kind with
  | some color => color
  | none =>
    if Text.contains kind "ERROR" then .red
    else if Text.contains kind "WARNING" then .orange
    else .gray

def eventTitle (kind : String) : String :=
  if kind == Kind.filterChanged then "🔄 Filter Changed"
  else if kind == Kind.targetStarted then "🎯 Target Started"
  else "📡 " ++ kind

def imageColor (imageType : String) : Color :=
  if imageType == "LIGHT" then .green
  else if imageType == "DARK" then .gray
  else if imageType == "FLAT" then .blue
  else if imageType == "BIAS" then .purple
  else .cyan

/-- Title and colour of a mount event. -/
def mountStyle (kind : String) : String × Color :=
  if kind == Kind.beforeFlip then ("🔄 Mount Preparing for Meridian Flip", .orange)
  else if kind == Kind.afterFlip then ("✅ Mount Meridian Flip Completed", .green)
  else if kind == Kind.parked then ("🅿️ Mount Parked", .yellow)
  else ("🔭 Mount Event", .gray)

end ObservatoryWatch.Card
