import ObservatoryWatch.Observatory.Event

/-!
Entries of the image history.
-/

namespace ObservatoryWatch.Observatory

open Payload Payload.Checked

structure Image where
  timestamp : String
  cameraName : String
  imageType : String
  filter : String
  exposureTime : Binary64
  temperature : Binary64
  stars : Int
  halfFluxRadius : Binary64
  telescopeName : String
  mean : Binary64
  median : Binary64
  deviation : Binary64
  trackingText : String
  gain : Option Int
  offset : Option Int
  focalLength : Option Binary64
  isBayered : Bool
  deriving DecidableEq

namespace Image

def decode : Decoder Image := record "ImageMetadata" fun members =>
  mk <$> Field.required ⟨"Date", "timestamp"⟩ text members
    <*> Field.required ⟨"CameraName", "camera_name"⟩ text members
    <*> Field.required ⟨"ImageType", "image_type"⟩ text members
    <*> Field.optional ⟨"Filter", "filter"⟩ "" text members
    <*> Field.optional ⟨"ExposureTime", "exposure_time"⟩ (.ofNat 0) number members
    <*> Field.optional ⟨"Temperature", "temperature"⟩ .nan number members
    <*> Field.optional ⟨"Stars", "stars"⟩ 0 whole members
    <*> Field.optional ⟨"HFR", "hfr"⟩ .nan number members
    <*> Field.optional ⟨"TelescopeName", "telescope_name"⟩ "" text members
    <*> Field.optional ⟨"Mean", "mean"⟩ .nan number members
    <*> Field.optional ⟨"Median", "median"⟩ .nan number members
    <*> Field.optional ⟨"StDev", "st_dev"⟩ .nan number members
    <*> Field.optional ⟨"RmsText", "rms_text"⟩ "" text members
    <*> Field.optional ⟨"Gain", "gain"⟩ none (nullable whole) members
    <*> Field.optional ⟨"Offset", "offset"⟩ none (nullable whole) members
    <*> Field.optional ⟨"FocalLength", "focal_length"⟩ none (nullable number) members
    <*> Field.optional ⟨"IsBayered", "is_bayered"⟩ false truth members

def toJson (image : Image) : Json :=
  .object
    [("timestamp", .string image.timestamp), ("camera_name", .string image.cameraName),
      ("image_type", .string image.imageType), ("filter", .string image.filter),
      ("exposure_time", .float image.exposureTime), ("temperature", .float image.temperature),
      ("stars", .integer image.stars), ("hfr", .float image.halfFluxRadius),
      ("telescope_name", .string image.telescopeName), ("mean", .float image.mean),
      ("median", .float image.median), ("st_dev", .float image.deviation),
      ("rms_text", .string image.trackingText), ("gain", orNull .integer image.gain),
      ("offset", orNull .integer image.offset),
      ("focal_length", orNull .float image.focalLength),
      ("is_bayered", .bool image.isBayered)]

/-- Time and camera of an image: two images with the same are one. -/
def fingerprint (image : Image) : List String := [image.timestamp, image.cameraName]

end Image

end ObservatoryWatch.Observatory
