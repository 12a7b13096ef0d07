import Mathlib.Data.List.Forall2
import ObservatoryWatch.Payload.Decoder

/-!
When a payload is valid.

A composed check comes to a value exactly if all of its parts do. A field counts under its wire
name or, where that is not given, under its plain name; a list is valid if every item is, and then
its values stand in the places of the items.
-/

namespace ObservatoryWatch.Payload

variable {α β : Type}

namespace Checked

theorem map_eq_valid_iff {transform : α → β} {checked : Checked α} {result : β} :
    transform <$> checked = valid result ↔
      ∃ value, checked = valid value ∧ transform value = result := by
  cases checked with
  | valid value =>
      change valid (transform value) = valid result ↔ _
      simp
  | invalid problems =>
      change Checked.invalid problems = valid result ↔ _
      simp

theorem seq_eq_valid_iff {function : Checked (α → β)} {argument : Checked α} {result : β} :
    (function <*> argument) = valid result ↔
      ∃ transform, function = valid transform ∧
        ∃ value, argument = valid value ∧ transform value = result := by
  change apply function argument = valid result ↔ _
  cases function <;> cases argument <;> simp [apply]

theorem under_eq_valid_iff {step : Step} {checked : Checked α} {value : α} :
    checked.under step = valid value ↔ checked = valid value := by
  cases checked <;> simp [under]

theorem value?_eq_some_iff {checked : Checked α} {value : α} :
    checked.value? = some value ↔ checked = valid value := by
  cases checked <;> simp [value?]

end Checked

open Checked

/-! ## Values -/

theorem text_eq_valid_iff {value : Json} {words : String} :
    text value = valid words ↔ value.text? = some words := by
  cases value <;> simp [text, Json.text?, complain]

/-- A list is valid exactly if every item is. -/
theorem itemsFrom_eq_valid_iff {decode : Decoder α} {position : Nat} {items : List Json}
    {values : List α} :
    itemsFrom decode position items = valid values ↔
      List.Forall₂ (fun item value => decode item = valid value) items values := by
  induction items generalizing position values with
  | nil => simp [itemsFrom, eq_comm]
  | cons item rest induction =>
      rw [itemsFrom, seq_eq_valid_iff]
      simp only [map_eq_valid_iff, under_eq_valid_iff, induction]
      constructor
      · rintro ⟨_, ⟨value, first, rfl⟩, others, remaining, rfl⟩
        exact .cons first remaining
      · rintro (_ | ⟨first, remaining⟩)
        exact ⟨_, ⟨_, first, rfl⟩, _, remaining, rfl⟩

theorem list_eq_valid_iff {decode : Decoder α} {value : Json} {values : List α} :
    list decode value = valid values ↔
      ∃ items, value = .array items ∧
        List.Forall₂ (fun item value => decode item = valid value) items values := by
  cases value <;> simp [list, complain, itemsFrom_eq_valid_iff]

/-! ## Fields -/

namespace Field

variable {field : Field} {absent value : α} {decode : Decoder α} {members : Json.Members}

/-- What is given for the field. -/
def given? (field : Field) (members : Json.Members) : Option Json :=
  (members.find? field.wire).or (members.find? field.plain)

theorem find?_eq_none_iff : field.find? members = none ↔ field.given? members = none := by
  unfold find? given?
  cases members.find? field.wire <;> simp

theorem given?_of_find? {key : String} {given : Json}
    (found : field.find? members = some (key, given)) : field.given? members = some given := by
  unfold find? at found
  unfold given?
  cases wire : members.find? field.wire with
  | some other =>
      rw [wire] at found
      cases found
      rfl
  | none =>
      rw [wire] at found
      rcases Option.map_eq_some_iff.mp found with ⟨other, plain, same⟩
      cases same
      exact plain

theorem required_eq_valid_iff :
    field.required decode members = valid value ↔
      ∃ given, field.given? members = some given ∧ decode given = valid value := by
  unfold required
  cases found : field.find? members with
  | none =>
      rw [find?_eq_none_iff.mp found]
      simp [complain, under]
  | some entry =>
      rw [given?_of_find? found]
      simp [under_eq_valid_iff]

theorem optional_eq_valid_iff :
    field.optional absent decode members = valid value ↔
      (field.given? members = none ∧ value = absent) ∨
        ∃ given, field.given? members = some given ∧ decode given = valid value := by
  unfold optional
  cases found : field.find? members with
  | none =>
      rw [find?_eq_none_iff.mp found]
      simp [eq_comm]
  | some entry =>
      rw [given?_of_find? found]
      simp [under_eq_valid_iff]

end Field

end ObservatoryWatch.Payload
