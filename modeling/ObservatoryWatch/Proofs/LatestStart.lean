import Mathlib.Data.List.Nodup
import ObservatoryWatch.Proofs.TargetOrigin

/-!
Which announcement is the latest one.

The search for the latest announcement goes through a history once and takes another one only for
a later time; times are texts, and texts compare by code points. What it has found is at each step
the first of the latest announcements up to there. So what it finds in the end depends on the
announcements and their times: where no two of them are of one time, neither the order of the
history nor other events make a difference.
-/

namespace ObservatoryWatch.Target

open Observatory

/-! ## Starts of targets -/

/-- The event has details of a target start, and what it starts is no instruction set. -/
def Starts (event : Event) (start : TargetStart) : Prop :=
  event.details = some (.targetStart start) ∧ start.targetName ≠ instructionSet

theorem starts_iff {event : Event} {start : TargetStart} :
    Starts event start ↔ announcedBy? event = some start := by
  have details : event.start? = some start ↔ event.details = some (.targetStart start) := by
    unfold Event.start?
    cases event.details with
    | none => simp
    | some details => cases details <;> simp [Details.start?]
  rw [announcedBy?_eq_some, details, Starts]

instance (event : Event) : Decidable (∃ start, Starts event start) :=
  decidable_of_iff ((announcedBy? event).isSome = true) (by
    simp only [Option.isSome_iff_exists, starts_iff])

/-- The events of a history that start a target, in their order. -/
def starting (history : List Event) : List Event :=
  history.filter fun event => ∃ start, Starts event start

@[simp] theorem mem_starting {history : List Event} {event : Event} :
    event ∈ starting history ↔ event ∈ history ∧ ∃ start, Starts event start := by
  simp [starting]

@[simp] theorem starting_append (early late : List Event) :
    starting (early ++ late) = starting early ++ starting late := List.filter_append ..

theorem starting_eq_nil_iff {history : List Event} :
    starting history = [] ↔ ∀ event ∈ history, announcedBy? event = none := by
  simp [starting, List.filter_eq_nil_iff, Option.eq_none_iff_forall_ne_some, starts_iff]

/-! ## The first of the latest -/

/-- The event is one of the history. Those before it that start a target are earlier in time, and
those after it are not later. -/
def FirstLatest (history : List Event) (event : Event) : Prop :=
  ∃ before after, history = before ++ event :: after ∧
    (∀ other ∈ starting before, other.time < event.time) ∧
      ∀ other ∈ starting after, other.time ≤ event.time

namespace FirstLatest

variable {history : List Event} {event : Event}

theorem mem (first : FirstLatest history event) : event ∈ history := by
  rcases first with ⟨before, after, parts, _⟩
  simp [parts]

/-- No event that starts a target is later. -/
theorem bound (first : FirstLatest history event) :
    ∀ other ∈ starting history, other.time ≤ event.time := by
  intro other member
  rcases first with ⟨before, after, parts, earlier, notLater⟩
  rw [mem_starting, parts, List.mem_append, List.mem_cons] at member
  rcases member with ⟨inside | same | inside, starts⟩
  · exact Std.le_of_lt (earlier other (mem_starting.mpr ⟨inside, starts⟩))
  · subst same
    exact String.le_refl _
  · exact notLater other (mem_starting.mpr ⟨inside, starts⟩)

/-- More events leave it the first of the latest unless one of them starts a target later. -/
theorem append (first : FirstLatest history event) {more : List Event}
    (notLater : ∀ other ∈ starting more, other.time ≤ event.time) :
    FirstLatest (history ++ more) event := by
  rcases first with ⟨before, after, parts, earlier, others⟩
  refine ⟨before, after ++ more, by simp [parts], earlier, ?_⟩
  intro other member
  rw [starting_append, List.mem_append] at member
  exact member.elim (others other) (notLater other)

/-- A last event that is later than all others. -/
theorem last (later : ∀ other ∈ starting history, other.time < event.time) :
    FirstLatest (history ++ [event]) event :=
  ⟨history, [], rfl, later, by simp [starting]⟩

/-- Of two events that start a target it is not the case that the one in front is earlier and the
one behind is not later. -/
theorem not_in_front {other : Event} {before after : List Event}
    (earlier : ∀ rival ∈ starting before, rival.time < other.time)
    (notLater : ∀ rival ∈ starting after, rival.time ≤ event.time)
    (inFront : event ∈ before) (behind : other ∈ after)
    (starts : ∃ start, Starts event start) (otherStarts : ∃ start, Starts other start) : False := by
  have isEarlier := earlier event (mem_starting.mpr ⟨inFront, starts⟩)
  have isNotEarlier := notLater other (mem_starting.mpr ⟨behind, otherStarts⟩)
  exact String.not_lt.mpr isNotEarlier isEarlier

/-- There is at most one of them that starts a target. -/
theorem unique {other : Event} (first : FirstLatest history event)
    (second : FirstLatest history other) (starts : ∃ start, Starts event start)
    (otherStarts : ∃ start, Starts other start) : event = other := by
  rcases first with ⟨before, after, parts, earlier, notLater⟩
  rcases second with ⟨before', after', parts', earlier', notLater'⟩
  rw [parts] at parts'
  rcases List.append_eq_append_iff.mp parts' with ⟨between, front, back⟩ | ⟨between, front, back⟩
  · cases between with
    | nil => exact List.head_eq_of_cons_eq back
    | cons head rest =>
        rcases List.cons.inj back with ⟨same, tail⟩
        exact (not_in_front earlier' notLater (by simp [front, same]) (by simp [tail]) starts
          otherStarts).elim
  · cases between with
    | nil => exact (List.head_eq_of_cons_eq back).symm
    | cons head rest =>
        rcases List.cons.inj back with ⟨same, tail⟩
        exact (not_in_front earlier notLater' (by simp [front, same]) (by simp [tail]) otherStarts
          starts).elim

/-- Where no two of the events that start a target are of one time, the latest is the first. -/
theorem of_bound (distinct : ((starting history).map Event.time).Nodup)
    (member : event ∈ starting history)
    (latest : ∀ other ∈ starting history, other.time ≤ event.time) :
    FirstLatest history event := by
  have inside := mem_starting.mp member
  rcases List.append_of_mem inside.1 with ⟨before, after, parts⟩
  subst parts
  refine ⟨before, after, rfl, ?_, ?_⟩
  · intro other earlier
    have listed : other ∈ starting (before ++ event :: after) := by
      rw [starting_append]
      exact List.mem_append_left _ earlier
    apply Std.lt_of_le_of_ne (latest other listed)
    intro same
    have self : event ∈ starting (event :: after) := mem_starting.mpr ⟨by simp, inside.2⟩
    rw [starting_append, List.map_append] at distinct
    exact (List.nodup_append.mp distinct).2.2 _ (List.mem_map_of_mem earlier) _
      (List.mem_map_of_mem self) same
  · intro other later
    apply latest
    rw [mem_starting] at later ⊢
    exact ⟨by simp [later.1], later.2⟩

end FirstLatest

/-! ## The search -/

/-- What the search has found when it has gone through a history. -/
def Found (history : List Event) : Option (String × TargetStart) → Prop
  | none => starting history = []
  | some (time, start) =>
    ∃ event, event.time = time ∧ Starts event start ∧ FirstLatest history event

/-- One more event. -/
theorem Found.step {history : List Event} {latest : Option (String × TargetStart)}
    (found : Found history latest) (event : Event) :
    Found (history ++ [event]) (laterStart latest event) := by
  cases announced : announcedBy? event with
  | none =>
      have silent : starting [event] = [] := starting_eq_nil_iff.mpr (by simpa using announced)
      have same : laterStart latest event = latest := by simp [laterStart, announced]
      rw [same]
      cases latest with
      | none =>
          change starting (history ++ [event]) = []
          rw [starting_append, silent, List.append_nil]
          exact found
      | some entry =>
          rcases found with ⟨earlier, time, starts, first⟩
          exact ⟨earlier, time, starts, first.append (by simp [silent])⟩
  | some start =>
      have starts : Starts event start := starts_iff.mpr announced
      cases latest with
      | none =>
          have none : starting history = [] := found
          have taken : laterStart .none event = some (event.time, start) := by
            simp [laterStart, announced]
          rw [taken]
          exact ⟨event, rfl, starts, .last (by simp [none])⟩
      | some entry =>
          rcases entry with ⟨time, former⟩
          rcases found with ⟨earlier, rfl, formerStarts, first⟩
          by_cases later : earlier.time < event.time
          · have taken : laterStart (some (earlier.time, former)) event =
                some (event.time, start) := by simp [laterStart, announced, later]
            rw [taken]
            exact ⟨event, rfl, starts, .last fun other member =>
              Std.lt_of_le_of_lt (first.bound other member) later⟩
          · have kept : laterStart (some (earlier.time, former)) event =
                some (earlier.time, former) := by simp [laterStart, announced, later]
            rw [kept]
            refine ⟨earlier, rfl, formerStarts, first.append ?_⟩
            intro other member
            rw [List.mem_singleton.mp (mem_starting.mp member).1]
            exact String.not_lt.mp later

/-- All the events of a history, one after the other. -/
theorem Found.foldl {history : List Event} {latest : Option (String × TargetStart)}
    (found : Found history latest) (more : List Event) :
    Found (history ++ more) (more.foldl laterStart latest) := by
  induction more generalizing history latest with
  | nil => simpa using found
  | cons event rest induction =>
      have next := induction (found.step event)
      rwa [List.append_assoc, List.singleton_append] at next

theorem latest?_eq_none_iff {history : List Event} :
    latest? history = none ↔ starting history = [] := by
  rw [latest?_eq_none, starting_eq_nil_iff]

theorem latest?_eq_some_iff {history : List Event} {target : Target} :
    latest? history = some target ↔
      ∃ event start, FirstLatest history event ∧ Starts event start ∧
        target = .announced start := by
  have found : Found history (history.foldl laterStart none) :=
    Found.foldl (show Found [] none from rfl) history
  constructor
  · intro latest
    rcases Option.map_eq_some_iff.mp latest with ⟨⟨time, start⟩, entry, rfl⟩
    rw [entry] at found
    rcases found with ⟨event, _, starts, first⟩
    exact ⟨event, start, first, starts, rfl⟩
  · intro ⟨event, start, first, starts, same⟩
    cases entry : history.foldl laterStart none with
    | none =>
        rw [entry] at found
        have member : event ∈ starting history := mem_starting.mpr ⟨first.mem, start, starts⟩
        have none : starting history = [] := found
        rw [none] at member
        cases member
    | some entry' =>
        rcases entry' with ⟨time, start'⟩
        rw [entry] at found
        rcases found with ⟨event', _, starts', first'⟩
        have equal := first.unique first' ⟨start, starts⟩ ⟨start', starts'⟩
        subst equal
        have details := starts.1.symm.trans starts'.1
        cases details
        rw [latest?, entry, same]
        rfl

/-- Only the events that start a target count, and where no two of them are of one time their order
does not count. -/
theorem latest?_eq_of_perm {history other : List Event}
    (distinct : ((starting history).map Event.time).Nodup)
    (same : (starting other).Perm (starting history)) : latest? other = latest? history := by
  cases latest : latest? history with
  | none =>
      rw [latest?_eq_none_iff] at latest ⊢
      rw [latest] at same
      exact same.eq_nil
  | some target =>
      rcases latest?_eq_some_iff.mp latest with ⟨event, start, first, starts, rfl⟩
      have listed : event ∈ starting history := mem_starting.mpr ⟨first.mem, start, starts⟩
      have otherDistinct : ((starting other).map Event.time).Nodup :=
        (same.map Event.time).nodup_iff.mpr distinct
      have otherFirst : FirstLatest other event :=
        .of_bound otherDistinct (same.mem_iff.mpr listed) fun other member =>
          first.bound other (same.mem_iff.mp member)
      exact latest?_eq_some_iff.mpr ⟨event, start, otherFirst, starts, rfl⟩

/-- No target is announced last exactly if no event of the history starts one. Otherwise it is the
one that is started by the first of those events whose time is the latest; and where no two of them
are of one time, any history that has the same such events, in whatever order and with whatever
other events between them, gives the same target. -/
theorem latest_start_chosen_by_time (history : List Event) :
    (latest? history = none ↔ ∀ event ∈ history, ∀ start, ¬ Starts event start) ∧
    (∀ target, latest? history = some target ↔
      ∃ event start, FirstLatest history event ∧ Starts event start ∧
        target = .announced start) ∧
    (((starting history).map Event.time).Nodup →
      ∀ other, (starting other).Perm (starting history) → latest? other = latest? history) := by
  refine ⟨?_, fun target => latest?_eq_some_iff, fun distinct other same =>
    latest?_eq_of_perm distinct same⟩
  rw [latest?_eq_none_iff, starting, List.filter_eq_nil_iff]
  simp

/-- An event of this time that starts the target of this name. -/
def startAt (time name : String) : Event :=
  ⟨time, Kind.targetStarted, some (.targetStart ⟨.whole name, .whole "", .unknown, 0, none⟩)⟩

/-- Two targets and, with the latest time of all, an instruction set. -/
def startsInOrder : List Event :=
  [startAt "2025-01-01T20:00:00" "M31", startAt "2025-01-01T21:00:00" "M42",
    startAt "2025-01-01T22:00:00" instructionSet]

/-- The same targets the other way round, and another event between them. -/
def startsTurned : List Event :=
  [startAt "2025-01-01T21:00:00" "M42", ⟨"2025-01-01T20:30:00", "CAMERA-CONNECTED", none⟩,
    startAt "2025-01-01T20:00:00" "M31"]

theorem latest_start_chosen_by_time_turned :
    ((starting startsInOrder).map Event.time).Nodup ∧
      (starting startsTurned).Perm (starting startsInOrder) ∧
      latest? startsTurned = latest? startsInOrder ∧
      (latest? startsInOrder).map name = some "M42" := by
  have distinct : ((starting startsInOrder).map Event.time).Nodup := by decide +kernel
  have same : (starting startsTurned).Perm (starting startsInOrder) := by decide +kernel
  exact ⟨distinct, same,
    (latest_start_chosen_by_time startsInOrder).2.2 distinct startsTurned same, by decide +kernel⟩

end ObservatoryWatch.Target
