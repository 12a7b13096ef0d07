import ObservatoryWatch.Observatory.Autofocus
import ObservatoryWatch.Observatory.Image
import ObservatoryWatch.Observatory.Mount
import ObservatoryWatch.Proofs.Validity

/-!
Records are read back from what is written of them.

The interface has names of its own for the fields of a record and puts the details of an event
beside its time and kind. Records are written otherwise: with plain names, and with details as a
record of their own that has the tag of its variant. The same decoder reads both forms, and of what
was written it reads what it was written from, numbers that are not finite included.
-/

namespace ObservatoryWatch

namespace Payload

variable {α : Type}

/-- Of whatever is written of a value, the decoder reads that value. -/
def ReadsBack (decode : Decoder α) (write : α → Json) : Prop :=
  ∀ value, decode (write value) = .valid value

namespace ReadsBack

variable {decode : Decoder α} {write : α → Json} (readsBack : ReadsBack decode write)
include readsBack

/-- A value that may be missing is read back if nothing that is there is written as null. -/
theorem nullable (present : ∀ value, write value ≠ .null) :
    ReadsBack (Payload.nullable decode) (Observatory.orNull write) := by
  intro value
  cases value with
  | none => rfl
  | some value =>
      have plain : Payload.nullable decode (write value) = some <$> decode (write value) := by
        unfold Payload.nullable
        split
        next null => exact absurd null (present value)
        next => rfl
      change Payload.nullable decode (write value) = _
      rw [plain, readsBack value, Checked.map_valid]

theorem list : ReadsBack (Payload.list decode) fun values => .array (values.map write) := by
  intro values
  refine list_eq_valid_iff.mpr ⟨_, rfl, ?_⟩
  rw [List.forall₂_map_left_iff, List.forall₂_same]
  exact fun value _ => readsBack value

end ReadsBack

theorem readsBack_text : ReadsBack text .string := fun _ => rfl

theorem readsBack_label : ReadsBack label .ofLabel := by
  intro text
  cases text <;> rfl

theorem readsBack_whole : ReadsBack whole .integer := fun _ => rfl

theorem readsBack_number : ReadsBack number .float := fun _ => rfl

theorem nullable_text (value : Option String) :
    nullable text (Observatory.orNull .string value) = .valid value :=
  readsBack_text.nullable nofun value

theorem nullable_label (value : Option Text.Label) :
    nullable label (Observatory.orNull .ofLabel value) = .valid value :=
  readsBack_label.nullable (fun text => by cases text <;> nofun) value

theorem nullable_whole (value : Option Int) :
    nullable whole (Observatory.orNull .integer value) = .valid value :=
  readsBack_whole.nullable nofun value

theorem nullable_number (value : Option Binary64) :
    nullable number (Observatory.orNull .float value) = .valid value :=
  readsBack_number.nullable (fun _ same => by cases same) value

end Payload

namespace Observatory

open Payload Payload.Checked

/-! ## Details of events

Texts and numbers are read back at once. What is left to a lemma is shown as it stands. -/

theorem Filter.readsBack : ReadsBack decode toJson := by
  intro filter
  have fields : decode filter.toJson = (mk
      <$> (Payload.label (.ofLabel filter.label)).under (.key "name")
      <*> valid filter.number) := rfl
  rw [fields, readsBack_label]
  rfl

theorem Coordinates.readsBack : ReadsBack decode toJson := by
  intro coordinates
  have fields : decode coordinates.toJson = (mk
      <$> (nullable number (orNull .float coordinates.rightAscension)).under (.key "ra")
      <*> (label (.ofLabel coordinates.rightAscensionText)).under (.key "ra_string")
      <*> (nullable number (orNull .float coordinates.declination)).under (.key "dec")
      <*> (label (.ofLabel coordinates.declinationText)).under (.key "dec_string")
      <*> (nullable label (orNull .ofLabel coordinates.epoch)).under (.key "epoch")) := rfl
  rw [fields, nullable_number, nullable_number, readsBack_label, readsBack_label, nullable_label]
  rfl

theorem FilterChange.readsBack : ReadsBack decode toJson := by
  intro change
  have fields : decode change.toJson = ((fun _ previous new => ⟨previous, new⟩)
      <$> valid filterChangeTag
      <*> (Filter.decode change.previous.toJson).under (.key "previous")
      <*> (Filter.decode change.new.toJson).under (.key "new")) := rfl
  rw [fields, Filter.readsBack, Filter.readsBack]
  rfl

theorem TargetStart.readsBack : ReadsBack decode toJson := by
  intro start
  have fields : decode start.toJson = ((fun _ => mk) <$> valid targetStartTag
      <*> (label (.ofLabel start.target)).under (.key "target_name")
      <*> (label (.ofLabel start.project)).under (.key "project_name")
      <*> (Coordinates.decode start.coordinates.toJson).under (.key "coordinates")
      <*> valid start.rotation
      <*> (nullable label (orNull .ofLabel start.endTime)).under (.key "target_end_time")) := rfl
  rw [fields, readsBack_label, readsBack_label, Coordinates.readsBack, nullable_label]
  rfl

/-- Details are read back as what their tag says. -/
theorem Details.readsBack : ReadsBack decode toJson := by
  intro details
  cases details with
  | filterChange change =>
      have tagged : decode (filterChange change).toJson =
          (filterChange <$> FilterChange.decode change.toJson).under (.key filterChangeTag) := rfl
      rw [tagged, FilterChange.readsBack]
      rfl
  | targetStart start =>
      have tagged : decode (targetStart start).toJson =
          (targetStart <$> TargetStart.decode start.toJson).under (.key targetStartTag) := rfl
      rw [tagged, TargetStart.readsBack]
      rfl

/-! ## Records -/

theorem Event.readsBack : ReadsBack decode toJson := by
  intro event
  have fields : decode event.toJson = (mk <$> valid event.time <*> valid event.kind
      <*> (nullable Details.decode (orNull Details.toJson event.details)).under
        (.key detailsKey)) := rfl
  have present (details : Details) : details.toJson ≠ .null := by cases details <;> nofun
  rw [fields, Details.readsBack.nullable present]
  rfl

theorem Image.readsBack : ReadsBack decode toJson := by
  intro image
  have fields : decode image.toJson = (mk <$> valid image.timestamp <*> valid image.cameraName
      <*> valid image.imageType <*> valid image.filter <*> valid image.exposureTime
      <*> valid image.temperature <*> valid image.stars <*> valid image.halfFluxRadius
      <*> valid image.telescopeName <*> valid image.mean <*> valid image.median
      <*> valid image.deviation <*> valid image.trackingText
      <*> (nullable whole (orNull .integer image.gain)).under (.key "gain")
      <*> (nullable whole (orNull .integer image.offset)).under (.key "offset")
      <*> (nullable number (orNull .float image.focalLength)).under (.key "focal_length")
      <*> valid image.isBayered) := rfl
  rw [fields, nullable_whole, nullable_whole, nullable_number]
  rfl

theorem Mount.readsBack : ReadsBack decode toJson := by
  intro mount
  have fields : decode mount.toJson = (mk <$> valid mount.connected
      <*> valid mount.rightAscensionText <*> valid mount.declinationText
      <*> valid mount.altitudeText <*> valid mount.azimuthText <*> valid mount.sideOfPier
      <*> valid mount.trackingEnabled <*> valid mount.atPark <*> valid mount.slewing
      <*> (nullable number (orNull .float mount.timeToFlip)).under
        (.key "time_to_meridian_flip")) := rfl
  rw [fields, nullable_number]
  rfl

theorem FocusPoint.readsBack : ReadsBack decode toJson := fun _ => rfl

theorem Fits.readsBack : ReadsBack decode toJson := fun _ => rfl

theorem Autofocus.readsBack : ReadsBack decode toJson := by
  intro result
  have fields : decode result.toJson = (mk <$> valid result.filter <*> valid result.focuserName
      <*> (nullable text (orNull .string result.timestamp)).under (.key "timestamp")
      <*> valid result.temperature <*> valid result.method <*> valid result.fitting
      <*> valid result.duration
      <*> (FocusPoint.decode result.initialPoint.toJson).under (.key "initial_focus_point")
      <*> (FocusPoint.decode result.foundPoint.toJson).under (.key "calculated_focus_point")
      <*> (Payload.list FocusPoint.decode
        (.array (result.measuredPoints.map FocusPoint.toJson))).under (.key "measure_points")
      <*> (Fits.decode result.fits.toJson).under (.key "r_squares")) := rfl
  rw [fields, nullable_text, FocusPoint.readsBack, FocusPoint.readsBack,
    FocusPoint.readsBack.list, Fits.readsBack]
  rfl

/-- Events with any details or none, images, states of the mount and autofocus runs are all read
back from what is written of them. -/
theorem records_read_back :
    ReadsBack Event.decode Event.toJson ∧ ReadsBack Image.decode Image.toJson ∧
      ReadsBack Mount.decode Mount.toJson ∧ ReadsBack Autofocus.decode Autofocus.toJson :=
  ⟨Event.readsBack, Image.readsBack, Mount.readsBack, Autofocus.readsBack⟩

end Observatory

end ObservatoryWatch
