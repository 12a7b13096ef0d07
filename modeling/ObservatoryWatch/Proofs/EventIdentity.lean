import Mathlib.Data.Option.Defs
import ObservatoryWatch.Observatory.Event
import ObservatoryWatch.Proofs.WrittenJson

/-!
When two events are one.

An event is told from the others by its time, its kind and its details. Details are compared field
by field; a number that is not finite counts as one that is missing, since neither of them has a
numeral.
-/

namespace ObservatoryWatch

/-- The number, if it is finite. -/
def Binary64.finite? (number : Binary64) : Option Binary64 :=
  if number.isFinite then some number else none

namespace Observatory

open Json

/-! ## The same details -/

/-- The same place in the sky. -/
structure Coordinates.Same (one other : Coordinates) : Prop where
  rightAscension : one.rightAscension.bind Binary64.finite? =
    other.rightAscension.bind Binary64.finite?
  rightAscensionText : one.rightAscensionText = other.rightAscensionText
  declination : one.declination.bind Binary64.finite? = other.declination.bind Binary64.finite?
  declinationText : one.declinationText = other.declinationText
  epoch : one.epoch = other.epoch

/-- The same start of a target. -/
structure TargetStart.Same (one other : TargetStart) : Prop where
  target : one.target = other.target
  project : one.project = other.project
  coordinates : one.coordinates.Same other.coordinates
  rotation : one.rotation.finite? = other.rotation.finite?
  endTime : one.endTime = other.endTime

/-- Details of one variant that agree in every field, up to numbers that are not finite. -/
inductive Details.Same : Details → Details → Prop where
  | filterChange (change : FilterChange) : Same (.filterChange change) (.filterChange change)
  | targetStart {one other : TargetStart} (same : one.Same other) :
      Same (.targetStart one) (.targetStart other)

/-! ## Details as values -/

theorem orNull_eq_iff {α : Type} {write : α → Json} (injective : Function.Injective write)
    (present : ∀ value, write value ≠ .null) (one other : Option α) :
    orNull write one = orNull write other ↔ one = other := by
  cases one with
  | none =>
      cases other with
      | none => simp
      | some value => simpa [orNull] using (present value).symm
  | some value =>
      cases other with
      | none => simpa [orNull] using present value
      | some value' => simpa [orNull] using injective.eq_iff

theorem orNull_float_eq_iff (one other : Option Binary64) :
    orNull .float one = orNull .float other ↔ one = other :=
  orNull_eq_iff (fun _ _ => Json.float.inj) (fun _ same => by cases same) one other

theorem ofLabel_injective : Function.Injective ofLabel := by
  intro one other same
  cases one <;> cases other <;> cases same <;> rfl

theorem ofLabel_inj {one other : Text.Label} : ofLabel one = ofLabel other ↔ one = other :=
  ofLabel_injective.eq_iff

theorem orNull_label_eq_iff (one other : Option Text.Label) :
    orNull ofLabel one = orNull ofLabel other ↔ one = other :=
  orNull_eq_iff ofLabel_injective (fun text => by cases text <;> nofun) one other

/-- A number that is not finite and a missing number are null alike. -/
theorem expressible_float (number : Binary64) :
    (Json.float number).expressible = orNull .float number.finite? := by
  unfold Binary64.finite?
  rw [expressible]
  split <;> rfl

theorem expressible_orNull_float (number : Option Binary64) :
    (orNull .float number).expressible = orNull .float (number.bind Binary64.finite?) := by
  cases number with
  | none => rfl
  | some number => exact expressible_float number

theorem expressible_ofLabel (text : Text.Label) : (ofLabel text).expressible = ofLabel text := by
  cases text <;> rfl

theorem expressible_orNull_label (text : Option Text.Label) :
    (orNull ofLabel text).expressible = orNull ofLabel text := by
  cases text with
  | none => rfl
  | some text => exact expressible_ofLabel text

theorem Filter.expressible_toJson (filter : Filter) : filter.toJson.expressible = filter.toJson := by
  simp only [toJson, expressible, expressibleMembers, expressible_ofLabel]

theorem FilterChange.expressible_toJson (change : FilterChange) :
    change.toJson.expressible = change.toJson := by
  simp only [toJson, expressible, expressibleMembers, Filter.expressible_toJson]

theorem FilterChange.toJson_eq_iff (one other : FilterChange) :
    one.toJson = other.toJson ↔ one = other := by
  rcases one with ⟨⟨name, number⟩, ⟨name', number'⟩⟩
  simp only [toJson, Filter.toJson, Json.object.injEq, List.cons.injEq, Prod.mk.injEq,
    ofLabel_inj, Json.integer.injEq, true_and, and_true]
  constructor
  · rintro ⟨⟨rfl, rfl⟩, rfl, rfl⟩
    rfl
  · rintro rfl
    exact ⟨⟨rfl, rfl⟩, rfl, rfl⟩

theorem Coordinates.expressible_toJson (coordinates : Coordinates) :
    coordinates.toJson.expressible =
      .object
        [("ra", orNull .float (coordinates.rightAscension.bind Binary64.finite?)),
          ("ra_string", ofLabel coordinates.rightAscensionText),
          ("dec", orNull .float (coordinates.declination.bind Binary64.finite?)),
          ("dec_string", ofLabel coordinates.declinationText),
          ("epoch", orNull ofLabel coordinates.epoch)] := by
  simp only [toJson, expressible, expressibleMembers, expressible_orNull_float,
    expressible_ofLabel, expressible_orNull_label]

theorem Coordinates.same_iff (one other : Coordinates) :
    one.toJson.expressible = other.toJson.expressible ↔ one.Same other := by
  rw [expressible_toJson, expressible_toJson]
  simp only [Json.object.injEq, List.cons.injEq, Prod.mk.injEq, ofLabel_inj, true_and, and_true,
    orNull_float_eq_iff, orNull_label_eq_iff]
  exact ⟨fun ⟨ascension, ascensionText, declination, declinationText, epoch⟩ =>
      ⟨ascension, ascensionText, declination, declinationText, epoch⟩,
    fun same => ⟨same.1, same.2, same.3, same.4, same.5⟩⟩

theorem TargetStart.expressible_toJson (start : TargetStart) :
    start.toJson.expressible =
      .object
        [(variantKey, .string targetStartTag), ("target_name", ofLabel start.target),
          ("project_name", ofLabel start.project),
          ("coordinates", start.coordinates.toJson.expressible),
          ("rotation", orNull .float start.rotation.finite?),
          ("target_end_time", orNull ofLabel start.endTime)] := by
  rw [toJson, expressible, expressibleMembers]
  simp only [expressibleMembers, expressible_float, expressible_ofLabel, expressible_orNull_label]
  rfl

theorem TargetStart.same_iff (one other : TargetStart) :
    one.toJson.expressible = other.toJson.expressible ↔ one.Same other := by
  rw [expressible_toJson, expressible_toJson]
  simp only [Json.object.injEq, List.cons.injEq, Prod.mk.injEq, ofLabel_inj, true_and, and_true,
    Coordinates.same_iff, orNull_float_eq_iff, orNull_label_eq_iff]
  exact ⟨fun ⟨target, project, coordinates, rotation, endTime⟩ =>
      ⟨target, project, coordinates, rotation, endTime⟩,
    fun same => ⟨same.1, same.2, same.3, same.4, same.5⟩⟩

/-- The tags keep the variants apart. -/
theorem FilterChange.toJson_ne_targetStart (change : FilterChange) (start : TargetStart) :
    change.toJson.expressible ≠ start.toJson.expressible := by
  rw [FilterChange.expressible_toJson, TargetStart.expressible_toJson]
  intro same
  simp [FilterChange.toJson, filterChangeTag, targetStartTag] at same

theorem Details.same_iff (one other : Details) :
    one.toJson.expressible = other.toJson.expressible ↔ one.Same other := by
  cases one with
  | filterChange change =>
      cases other with
      | filterChange change' =>
          change change.toJson.expressible = change'.toJson.expressible ↔ _
          rw [FilterChange.expressible_toJson, FilterChange.expressible_toJson]
          refine (FilterChange.toJson_eq_iff change change').trans ⟨?_, ?_⟩
          · rintro rfl
            exact .filterChange change
          · rintro ⟨⟩
            rfl
      | targetStart start =>
          exact iff_of_false (FilterChange.toJson_ne_targetStart change start) nofun
  | targetStart start =>
      cases other with
      | filterChange change =>
          exact iff_of_false (FilterChange.toJson_ne_targetStart change start).symm nofun
      | targetStart start' =>
          refine (TargetStart.same_iff start start').trans ⟨.targetStart, ?_⟩
          rintro ⟨⟩
          assumption

/-! ## Fingerprints -/

theorem Details.write_ne_empty (details : Details) : details.toJson.write .compact ≠ "" := by
  intro empty
  rcases details.toJson.chars_starts with ⟨first, rest, text, _⟩
  rw [chars, empty] at text
  cases text

/-- Two events have one fingerprint exactly when they agree in time, kind and details. -/
theorem Event.fingerprint_eq_iff (one other : Event) :
    one.fingerprint = other.fingerprint ↔
      one.time = other.time ∧ one.kind = other.kind ∧
        Option.Rel Details.Same one.details other.details := by
  rcases one with ⟨time, kind, details⟩
  rcases other with ⟨time', kind', details'⟩
  simp only [fingerprint, List.cons.injEq, and_true]
  refine and_congr_right fun _ => and_congr_right fun _ => ?_
  cases details with
  | none =>
      cases details' with
      | none => exact iff_of_true rfl .none
      | some details' => exact iff_of_false (Details.write_ne_empty details').symm nofun
  | some details =>
      cases details' with
      | none => exact iff_of_false (Details.write_ne_empty details) nofun
      | some details' =>
          rw [write_compact_eq_iff, Details.same_iff]
          refine ⟨.some, ?_⟩
          rintro ⟨⟩
          assumption

end Observatory

end ObservatoryWatch
