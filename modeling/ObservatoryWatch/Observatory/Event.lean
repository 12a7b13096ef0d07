import ObservatoryWatch.Json.Display
import ObservatoryWatch.Json.Writer
import ObservatoryWatch.Payload.Decoder
import ObservatoryWatch.Text.Search

/-!
Entries of the event history.

An event has a time, a kind and sometimes details: which filter was changed for
which, or which target was started. On the wire the details usually stand beside
time and kind; they may also come as a record of their own, with a tag that says
which variant they are. Details that stand beside and do not fit are passed over,
details of their own must fit.

The texts of details are labels, since an event is identified by its details as they
came; details with a label that cannot be encoded identify nothing.
-/

namespace ObservatoryWatch.Observatory

open Payload Payload.Checked
open Text (Label EncodingFault)

/-! ## Filters -/

structure Filter where
  label : Label
  number : Int
  deriving DecidableEq

namespace Filter

def name (filter : Filter) : String := filter.label.shown

def decode : Decoder Filter := record "FilterInfo" fun members =>
  mk <$> Field.required ⟨"Name", "name"⟩ Payload.label members
    <*> Field.required ⟨"Id", "id"⟩ whole members

def toJson (filter : Filter) : Json :=
  .object [("name", .ofLabel filter.label), ("id", .integer filter.number)]

end Filter

/-! ## Coordinates -/

/-- Where a target stands in the sky, as numbers and as texts. -/
structure Coordinates where
  rightAscension : Option Binary64
  rightAscensionText : Label
  declination : Option Binary64
  declinationText : Label
  epoch : Option Label
  deriving DecidableEq

/-- A missing value as null. -/
def orNull {α : Type} (write : α → Json) : Option α → Json
  | none => .null
  | some value => write value

namespace Coordinates

def unknown : Coordinates := ⟨none, .whole "", none, .whole "", none⟩

def decode : Decoder Coordinates := record "TargetCoordinates" fun members =>
  mk <$> Field.optional ⟨"RA", "ra"⟩ none (nullable Payload.number) members
    <*> Field.optional ⟨"RAString", "ra_string"⟩ (.whole "") label members
    <*> Field.optional ⟨"Dec", "dec"⟩ none (nullable Payload.number) members
    <*> Field.optional ⟨"DecString", "dec_string"⟩ (.whole "") label members
    <*> Field.optional ⟨"Epoch", "epoch"⟩ none (nullable label) members

def toJson (coordinates : Coordinates) : Json :=
  .object
    [("ra", orNull .float coordinates.rightAscension),
      ("ra_string", .ofLabel coordinates.rightAscensionText),
      ("dec", orNull .float coordinates.declination),
      ("dec_string", .ofLabel coordinates.declinationText),
      ("epoch", orNull .ofLabel coordinates.epoch)]

/-- The texts, in the order in which they are written. -/
def labels (coordinates : Coordinates) : List Label :=
  [coordinates.rightAscensionText, coordinates.declinationText] ++ coordinates.epoch.toList

end Coordinates

/-! ## Details -/

structure FilterChange where
  previous : Filter
  new : Filter
  deriving DecidableEq

structure TargetStart where
  target : Label
  project : Label
  coordinates : Coordinates
  rotation : Binary64
  endTime : Option Label
  deriving DecidableEq

/-- The tag that says which variant details are. -/
def variantKey : String := "variant"

def filterChangeTag : String := "filter_wheel_change"

def targetStartTag : String := "target_start"

/-- The tag of a record; it may be left out, but must not be another one. -/
def checkTag (tag : String) (members : Json.Members) : Checked String :=
  Field.optional ⟨variantKey, variantKey⟩ tag (oneOf [tag]) members

namespace FilterChange

def decode : Decoder FilterChange := record "FilterWheelChange" fun members =>
  (fun _ previous new => ⟨previous, new⟩) <$> checkTag filterChangeTag members
    <*> Field.required ⟨"Previous", "previous"⟩ Filter.decode members
    <*> Field.required ⟨"New", "new"⟩ Filter.decode members

def toJson (change : FilterChange) : Json :=
  .object
    [(variantKey, .string filterChangeTag), ("previous", change.previous.toJson),
      ("new", change.new.toJson)]

def labels (change : FilterChange) : List Label := [change.previous.label, change.new.label]

end FilterChange

namespace TargetStart

def targetName (start : TargetStart) : String := start.target.shown

def projectName (start : TargetStart) : String := start.project.shown

def decode : Decoder TargetStart := record "TargetStart" fun members =>
  (fun _ => mk) <$> checkTag targetStartTag members
    <*> Field.required ⟨"TargetName", "target_name"⟩ label members
    <*> Field.optional ⟨"ProjectName", "project_name"⟩ (.whole "") label members
    <*> Field.optional ⟨"Coordinates", "coordinates"⟩ .unknown Coordinates.decode members
    <*> Field.optional ⟨"Rotation", "rotation"⟩ (.ofNat 0) Payload.number members
    <*> Field.optional ⟨"TargetEndTime", "target_end_time"⟩ none (nullable label) members

def toJson (start : TargetStart) : Json :=
  .object
    [(variantKey, .string targetStartTag), ("target_name", .ofLabel start.target),
      ("project_name", .ofLabel start.project),
      ("coordinates", start.coordinates.toJson), ("rotation", .float start.rotation),
      ("target_end_time", orNull .ofLabel start.endTime)]

def labels (start : TargetStart) : List Label :=
  [start.target, start.project] ++ start.coordinates.labels ++ start.endTime.toList

end TargetStart

inductive Details where
  | filterChange (change : FilterChange)
  | targetStart (start : TargetStart)
  deriving DecidableEq

namespace Details

def toJson : Details → Json
  | filterChange change => change.toJson
  | targetStart start => start.toJson

def labels : Details → List Label
  | filterChange change => change.labels
  | targetStart start => start.labels

/-- Why details cannot be written down, if they cannot. -/
def fault? (details : Details) : Option EncodingFault := details.labels.findSome? Label.fault?

/-- Details of their own, told apart by their tag. -/
def decode : Decoder Details
  | .object members =>
    match Json.Members.find? members variantKey with
    | none => complain .noVariant
    | some tag =>
      let name := tag.display
      if tag.text? = some filterChangeTag then
        (filterChange <$> FilterChange.decode (.object members)).under (.key filterChangeTag)
      else if tag.text? = some targetStartTag then
        (targetStart <$> TargetStart.decode (.object members)).under (.key targetStartTag)
      else complain (.unknownVariant name)
  | _ => complain .notFields

/-- Details found beside time and kind: two filters make a change, a target name a
start. What does not fit the variant is no details at all. -/
def beside (members : Json.Members) : Option Details :=
  if members.has "New" && members.has "Previous" then
    filterChange <$> (FilterChange.decode (.object members)).value?
  else if members.has "TargetName" then
    targetStart <$> (TargetStart.decode (.object members)).value?
  else none

/-- The change, if the details are one. -/
def change? : Details → Option FilterChange
  | filterChange change => some change
  | targetStart _ => none

/-- The start, if the details are one. -/
def start? : Details → Option TargetStart
  | targetStart start => some start
  | filterChange _ => none

end Details

/-! ## Events -/

structure Event where
  time : String
  kind : String
  details : Option Details
  deriving DecidableEq

namespace Event

/-- Keys that belong to the event itself and never to details that stand beside. -/
def ownKeys : List String := ["Time", "Event", "time", "kind", "details"]

def timeField : Field := ⟨"Time", "time"⟩

def kindField : Field := ⟨"Event", "kind"⟩

def detailsKey : String := "details"

def decode : Decoder Event := record "Event" fun members =>
  if members.has detailsKey then
    mk <$> timeField.required text members
      <*> kindField.required text members
      <*> Field.optional ⟨detailsKey, detailsKey⟩ none (nullable Details.decode) members
  else
    (fun time kind =>
        mk time kind (Details.beside (members.filter fun member => !ownKeys.contains member.1)))
      <$> timeField.required text members
      <*> kindField.required text members

def toJson (event : Event) : Json :=
  .object
    [("time", .string event.time), ("kind", .string event.kind),
      ("details", orNull Details.toJson event.details)]

/-- Time, kind and details of an event: two events with the same are one. -/
def fingerprint (event : Event) : List String :=
  [event.time, event.kind,
    match event.details with
    | some details => details.toJson.write .compact
    | none => ""]

end Event

/-! ## Kinds -/

namespace Kind

def filterChanged : String := "FILTERWHEEL-CHANGED"
def beforeFlip : String := "MOUNT-BEFORE-FLIP"
def afterFlip : String := "MOUNT-AFTER-FLIP"
def parked : String := "MOUNT-PARKED"
def autofocusFinished : String := "AUTOFOCUS-FINISHED"
def imageSaved : String := "IMAGE-SAVE"
def targetStarted : String := "TS-TARGETSTART"

end Kind

namespace Event

def change? (event : Event) : Option FilterChange := event.details >>= Details.change?

def start? (event : Event) : Option TargetStart := event.details >>= Details.start?

/-- A filter change that reports the same filter twice. -/
def changesNothing (event : Event) : Bool :=
  event.kind == Kind.filterChanged &&
    event.change?.any fun change => change.new.label == change.previous.label

/-- Why an event cannot be identified. One that changes nothing need not be. -/
def objection? (event : Event) : Option EncodingFault :=
  if event.changesNothing then none else event.details >>= Details.fault?

/-- A device was connected or disconnected. -/
def isConnection (event : Event) : Bool :=
  Text.endsWith event.kind "-CONNECTED" || Text.endsWith event.kind "-DISCONNECTED"

end Event

end ObservatoryWatch.Observatory
