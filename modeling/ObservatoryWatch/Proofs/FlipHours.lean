import ObservatoryWatch.Observatory.Sequence
import ObservatoryWatch.Proofs.Rounding

/-!
What the countdown to the meridian flip is read as.

The time of the first flip trigger of the first node counts if it is a number, and the hours are
its nearest finite value. A whole number past the range of double precision has none, and it alone
ends the reading with a fault; whatever else the tree holds, there are just no hours.
-/

namespace ObservatoryWatch

/-! ## Whole numbers past the range -/

namespace Binary64

open Number

/-- Half a step above the largest finite number; from here on whole numbers round past the range. -/
def wholeLimit : Nat := Nat.pow 2 1024 - Nat.pow 2 970

theorem wholeLimit_pastRange : unitLimit ≤ roundUnits (wholeLimit * unitsPerOne) 1 := by
  decide +kernel

theorem below_wholeLimit_inRange : roundUnits ((wholeLimit - 1) * unitsPerOne) 1 < unitLimit := by
  decide +kernel

theorem roundUnits_lt_iff {count : Nat} :
    roundUnits (count * unitsPerOne) 1 < unitLimit ↔ count < wholeLimit := by
  constructor
  · intro inRange
    by_contra past
    have more : roundUnits (wholeLimit * unitsPerOne) 1 ≤ roundUnits (count * unitsPerOne) 1 :=
      roundUnits_mono (Nat.mul_le_mul_right _ (Nat.le_of_not_lt past))
    exact absurd inRange (Nat.not_lt.mpr (wholeLimit_pastRange.trans more))
  · intro less
    have fewer : roundUnits (count * unitsPerOne) 1 ≤
        roundUnits ((wholeLimit - 1) * unitsPerOne) 1 :=
      roundUnits_mono (Nat.mul_le_mul_right _ (Nat.le_sub_one_of_lt less))
    exact fewer.trans_lt below_wholeLimit_inRange

/-- A quotient rounds to a finite number or past the range. -/
theorem ofRatio_eq (negative : Bool) (numerator denominator : Nat) :
    (roundUnits numerator denominator < unitLimit ∧ ∃ units representable,
      ofRatio negative numerator denominator = .finite negative units representable) ∨
    (unitLimit ≤ roundUnits numerator denominator ∧
      ofRatio negative numerator denominator = .infinite negative) := by
  unfold ofRatio
  split
  next inRange => exact .inl ⟨inRange, _, ⟨inRange, roundUnits_dvd numerator denominator⟩, rfl⟩
  next past => exact .inr ⟨Nat.le_of_not_lt past, rfl⟩

/-- A whole number below the limit has a finite nearest value, any other one has none. -/
theorem ofInt?_eq (number : Int) :
    (number.natAbs < wholeLimit ∧ ∃ hours, ofInt? number = some hours ∧ hours.isFinite = true) ∨
    (wholeLimit ≤ number.natAbs ∧ ofInt? number = none) := by
  have limit := @roundUnits_lt_iff number.natAbs
  unfold ofInt?
  rcases ofRatio_eq (number < 0) (number.natAbs * unitsPerOne) 1 with
    ⟨inRange, units, representable, rounded⟩ | ⟨past, rounded⟩
  · rw [rounded]
    have less := limit.mp inRange
    exact .inl ⟨less, .finite (number < 0) units representable, rfl, rfl⟩
  · rw [rounded]
    have more : ¬ number.natAbs < wholeLimit := fun less => Nat.not_lt.mpr past (limit.mpr less)
    exact .inr ⟨Nat.le_of_not_lt more, rfl⟩

theorem ofInt?_eq_none_iff {number : Int} :
    ofInt? number = none ↔ wholeLimit ≤ number.natAbs := by
  rcases ofInt?_eq number with ⟨less, hours, rounds, _⟩ | ⟨past, none⟩
  · rw [rounds]
    exact ⟨nofun, fun past => absurd less (Nat.not_lt.mpr past)⟩
  · exact ⟨fun _ => past, fun _ => none⟩

theorem isFinite_of_ofInt? {number : Int} {value : Binary64} (rounds : ofInt? number = some value) :
    value.isFinite = true := by
  rcases ofInt?_eq number with ⟨_, hours, same, finite⟩ | ⟨_, none⟩
  · cases same.symm.trans rounds
    exact finite
  · cases none.symm.trans rounds

end Binary64

/-! ## Members of objects -/

namespace Json

theorem labelAt?_eq_whole_iff {value : Json} {key words : String} :
    value.labelAt? key = some (.whole words) ↔
      ∃ members : Members, value = .object members ∧
        members.find? key = some (.string words) := by
  cases value with
  | object members =>
      have found : labelAt? (.object members) key =
          (Members.find? members key).bind label? := rfl
      rw [found, Option.bind_eq_some_iff]
      constructor
      · rintro ⟨given, found, read⟩
        cases given <;> cases read
        exact ⟨members, rfl, found⟩
      · rintro ⟨_, ⟨⟩, found⟩
        exact ⟨_, found, rfl⟩
  | _ => simp [labelAt?, members?]

theorem itemsAt_eq_iff {value : Json} {key : String} {items : List Json} (nonempty : items ≠ []) :
    value.itemsAt key = items ↔
      ∃ members : Members, value = .object members ∧
        members.find? key = some (.array items) := by
  cases value with
  | object members =>
      cases found : Members.find? members key with
      | none => simp [itemsAt, members?, found, nonempty.symm]
      | some given => cases given <;> simp [itemsAt, members?, found, nonempty.symm]
  | _ => simp [itemsAt, members?, nonempty.symm]

end Json

namespace Observatory.Sequence

open Number

/-! ## The time of the flip trigger -/

def IsFlipTrigger (value : Json) : Prop :=
  ∃ members : Json.Members, value = .object members ∧
    members.find? "Name" = some (.string "Meridian Flip_Trigger")

/-- The first flip trigger of the first node has this time. -/
def FlipTime (tree : List Json) (time : Json) : Prop :=
  ∃ (node trigger : Json.Members) (others earlier later : List Json),
    tree = .object node :: others ∧
    node.find? "GlobalTriggers" = some (.array (earlier ++ .object trigger :: later)) ∧
    IsFlipTrigger (.object trigger) ∧ (∀ other ∈ earlier, ¬ IsFlipTrigger other) ∧
    trigger.find? "TimeToFlip" = some time

/-- The time is a number, and its nearest finite value is so many hours. -/
inductive Hours : Json → Binary64 → Prop where
  | whole {number : Int} {hours : Binary64} (rounds : Binary64.ofInt? number = some hours) :
      Hours (.integer number) hours
  | float {hours : Binary64} (finite : hours.isFinite = true) : Hours (.float hours) hours

/-- The time is a whole number past the range of double precision. -/
def PastRange (tree : List Json) : Prop :=
  ∃ number, FlipTime tree (.integer number) ∧ Binary64.wholeLimit ≤ number.natAbs

/-! ## Looking the time up -/

/-- The trigger that the countdown is read off. -/
def trigger? (tree : List Json) : Option Json :=
  tree.head?.bind fun root =>
    (root.itemsAt "GlobalTriggers").find? (·.labelAt? "Name" == some (.whole flipTrigger))

/-- The time that the countdown is read off. -/
def time? (tree : List Json) : Option Json :=
  (trigger? tree).bind fun trigger => trigger.members? >>= (·.find? "TimeToFlip")

theorem isFlipTrigger_iff {value : Json} :
    (value.labelAt? "Name" == some (.whole flipTrigger)) = true ↔ IsFlipTrigger value := by
  rw [beq_iff_eq, Json.labelAt?_eq_whole_iff]
  rfl

theorem firstFlipTrigger_iff {triggers : List Json} {trigger : Json} :
    triggers.find? (·.labelAt? "Name" == some (.whole flipTrigger)) = some trigger ↔
      IsFlipTrigger trigger ∧ ∃ earlier later, triggers = earlier ++ trigger :: later ∧
        ∀ other ∈ earlier, ¬ IsFlipTrigger other := by
  simp only [List.find?_eq_some_iff_append, ← isFlipTrigger_iff, Bool.not_eq_true',
    Bool.not_eq_true]

theorem flipTime_iff {tree : List Json} {time : Json} :
    FlipTime tree time ↔ time? tree = some time := by
  constructor
  · rintro ⟨node, trigger, others, earlier, later, rfl, listed, named, unnamed, timed⟩
    have items : Json.itemsAt (.object node) "GlobalTriggers" =
        earlier ++ .object trigger :: later :=
      (Json.itemsAt_eq_iff (by simp)).mpr ⟨node, rfl, listed⟩
    have found : trigger? (.object node :: others) = some (.object trigger) := by
      change (Json.itemsAt (.object node) "GlobalTriggers").find? _ = _
      rw [items]
      exact firstFlipTrigger_iff.mpr ⟨named, earlier, later, rfl, unnamed⟩
    rw [time?, found]
    exact timed
  · intro found
    rcases Option.bind_eq_some_iff.mp found with ⟨trigger, first, timed⟩
    rcases Option.bind_eq_some_iff.mp timed with ⟨members, object, timed⟩
    cases tree with
    | nil => cases first
    | cons root others =>
        obtain ⟨named, earlier, later, items, unnamed⟩ := firstFlipTrigger_iff.mp first
        rcases (Json.itemsAt_eq_iff (by simp)).mp items with ⟨node, rfl, listed⟩
        cases trigger <;> cases object
        exact ⟨node, members, others, earlier, later, rfl, listed, named, unnamed, timed⟩

/-! ## Reading the hours -/

/-- The hours that a time, if there is one, is read as. -/
def hoursOf : Option Json → Except ConversionFault (Option Binary64)
  | some (.integer value) => (ofWhole value).map some
  | some (.float value) => .ok (if value.isFinite then some value else none)
  | _ => .ok none

theorem flipHours_eq (tree : List Json) : flipHours tree = hoursOf (time? tree) := by
  cases tree with
  | nil => rfl
  | cons root others =>
      unfold flipHours time? trigger?
      simp only [List.head?_cons, Option.bind_some]
      cases (root.itemsAt "GlobalTriggers").find? (·.labelAt? "Name" == some (.whole flipTrigger)) <;> rfl

theorem hoursOf_of_some {number : Int} {hours : Binary64}
    (rounds : Binary64.ofInt? number = some hours) :
    hoursOf (some (.integer number)) = .ok (some hours) := by
  -- The rounding stays closed here; opened, it would be computed with thousands of bits.
  change (ofWhole number).map some = _
  rw [ofWhole, rounds]
  rfl

theorem hoursOf_of_none {number : Int} (past : Binary64.ofInt? number = none) :
    hoursOf (some (.integer number)) = .error .pastRange := by
  change (ofWhole number).map some = _
  rw [ofWhole, past]
  rfl

theorem hoursOf_eq_some_iff {time : Option Json} {hours : Binary64} :
    hoursOf time = .ok (some hours) ↔ ∃ given, time = some given ∧ Hours given hours := by
  constructor
  · intro read
    rcases time with _ | given
    · cases read
    · refine ⟨given, rfl, ?_⟩
      cases given with
      | integer number =>
          cases rounds : Binary64.ofInt? number with
          | none => cases (hoursOf_of_none rounds).symm.trans read
          | some found =>
              cases (hoursOf_of_some rounds).symm.trans read
              exact .whole rounds
      | float value =>
          cases finite : value.isFinite with
          | false => simp [hoursOf, finite] at read
          | true =>
              have same : value = hours := by simpa [hoursOf, finite] using read
              exact same ▸ .float finite
      | _ => cases read
  · rintro ⟨_, rfl, rounds | finite⟩
    · exact hoursOf_of_some rounds
    · simp [hoursOf, finite]

theorem hoursOf_eq_error_iff {time : Option Json} {fault : ConversionFault} :
    hoursOf time = .error fault ↔
      fault = .pastRange ∧ ∃ number : Int, time = some (.integer number) ∧
        Binary64.wholeLimit ≤ number.natAbs := by
  constructor
  · intro failed
    rcases time with _ | given
    · cases failed
    · cases given with
      | integer number =>
          cases rounds : Binary64.ofInt? number with
          | some found => cases (hoursOf_of_some rounds).symm.trans failed
          | none =>
              cases (hoursOf_of_none rounds).symm.trans failed
              exact ⟨rfl, number, rfl, Binary64.ofInt?_eq_none_iff.mp rounds⟩
      | _ => cases failed
  · rintro ⟨rfl, number, rfl, past⟩
    exact hoursOf_of_none (Binary64.ofInt?_eq_none_iff.mpr past)

theorem Hours.isFinite {time : Json} {hours : Binary64} (read : Hours time hours) :
    hours.isFinite = true := by
  cases read with
  | whole rounds => exact Binary64.isFinite_of_ofInt? rounds
  | float finite => exact finite

theorem flipHours_eq_some_iff {tree : List Json} {hours : Binary64} :
    flipHours tree = .ok (some hours) ↔ ∃ time, FlipTime tree time ∧ Hours time hours := by
  simp only [flipHours_eq, hoursOf_eq_some_iff, flipTime_iff]

theorem flipHours_eq_error_iff {tree : List Json} {fault : ConversionFault} :
    flipHours tree = .error fault ↔ fault = .pastRange ∧ PastRange tree := by
  simp only [flipHours_eq, hoursOf_eq_error_iff, PastRange, flipTime_iff]

end Observatory.Sequence

end ObservatoryWatch
