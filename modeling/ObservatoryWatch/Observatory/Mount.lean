import ObservatoryWatch.Observatory.Event

/-!
The state of the telescope mount, as far as notifications mention it.
-/

namespace ObservatoryWatch.Observatory

open Payload Payload.Checked

structure Mount where
  connected : Bool
  rightAscensionText : String
  declinationText : String
  altitudeText : String
  azimuthText : String
  sideOfPier : String
  trackingEnabled : Bool
  atPark : Bool
  slewing : Bool
  timeToFlip : Option Binary64
  deriving DecidableEq

namespace Mount

def decode : Decoder Mount := record "MountInfo" fun members =>
  mk <$> Field.optional ⟨"Connected", "connected"⟩ false truth members
    <*> Field.optional ⟨"RightAscensionString", "right_ascension_string"⟩ "" text members
    <*> Field.optional ⟨"DeclinationString", "declination_string"⟩ "" text members
    <*> Field.optional ⟨"AltitudeString", "altitude_string"⟩ "" text members
    <*> Field.optional ⟨"AzimuthString", "azimuth_string"⟩ "" text members
    <*> Field.optional ⟨"SideOfPier", "side_of_pier"⟩ "" text members
    <*> Field.optional ⟨"TrackingEnabled", "tracking_enabled"⟩ false truth members
    <*> Field.optional ⟨"AtPark", "at_park"⟩ false truth members
    <*> Field.optional ⟨"Slewing", "slewing"⟩ false truth members
    <*> Field.optional ⟨"TimeToMeridianFlip", "time_to_meridian_flip"⟩ none
      (nullable number) members

def toJson (mount : Mount) : Json :=
  .object
    [("connected", .bool mount.connected),
      ("right_ascension_string", .string mount.rightAscensionText),
      ("declination_string", .string mount.declinationText),
      ("altitude_string", .string mount.altitudeText),
      ("azimuth_string", .string mount.azimuthText),
      ("side_of_pier", .string mount.sideOfPier),
      ("tracking_enabled", .bool mount.trackingEnabled), ("at_park", .bool mount.atPark),
      ("slewing", .bool mount.slewing),
      ("time_to_meridian_flip", orNull .float mount.timeToFlip)]

end Mount

end ObservatoryWatch.Observatory
