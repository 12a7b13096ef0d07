import ObservatoryWatch.Proofs.TargetPrecedence

/-!
An announced name stays, unless the sequence showed it before.

The target is renewed by name alone. So an event that announces the name which the sequence has
shown already leaves the target as one of the sequence, and the next name that the sequence shows
takes its place. In every other case the name stays until an event announces a target again.
-/

namespace ObservatoryWatch.Monitor

open Observatory

variable {W : Type} {watcher : Watcher (StateM W)}

/-- A new event that announces a target was dealt with. -/
structure Announced (watcher : Watcher (StateM W)) (before after : Scene W) (event : Event)
    (start : TargetStart) : Prop where
  yields : Yields (watcher.witnessed.considerEvent watcher.handleNoted event) before () after
  new : event.fingerprint ∉ before.state.seenEvents.fingerprints
  announces : Target.Announces event start

/-- No event that announces a target was handed over in between. -/
def Unannounced (before after : Scene W) : Prop :=
  ∃ between, after.journal = before.journal ++ between ∧
    ∀ event start, .newEvent event ∈ between → ¬ Target.Announces event start

/-- A look at the sequence hands no event over. -/
theorem Unannounced.of_pollSequence {before after : Scene W} {value : Unit}
    (yields : Yields watcher.witnessed.pollSequence before value after) :
    Unannounced before after := by
  have aside : ∀ answer entries, after.journal = before.journal ++ [.sequence answer] ++ entries →
      (∀ entry ∈ entries, entry.isAside = true) → Unannounced before after := by
    intro answer entries journal lines
    refine ⟨.sequence answer :: entries, by simp [journal], ?_⟩
    intro event start member _
    rcases List.mem_cons.mp member with same | member
    · cases same
    · have := lines _ member
      simp [Entry.isAside] at this
  rcases Watcher.pollSequence_yields yields with ⟨fault, last⟩ | ⟨tree, flipHours, _, last⟩
  · rcases last.journal with ⟨entries, journal, lines⟩
    exact aside _ entries journal lines
  · rcases last.journal with ⟨entries, journal, lines⟩
    exact aside _ entries journal lines

namespace Announced

variable {before after : Scene W} {event : Event} {start : TargetStart}

/-- Events that announce a target say something. -/
theorem changesNothing_eq_false (announces : Target.Announces event start) :
    event.changesNothing = false := by
  have different : (event.kind == Kind.filterChanged) = false := by
    rw [announces.kind]
    decide
  rw [Event.changesNothing, different, Bool.false_and]

theorem target_eq (announced : Announced watcher before after event start) :
    after.state.target = Target.renewed before.state.target (.announced start) := by
  rcases Watcher.considerEvent_yields announced.yields with
    ⟨_, silent | known⟩ | ⟨_, seen, _, aside⟩
  · rw [changesNothing_eq_false announced.announces] at silent
    cases silent
  · exact absurd known announced.new
  · rw [aside.target]
    exact Target.afterEvent_of_announces announced.announces

/-- Unless the sequence has shown the name before, the target is then an announced one of that
name. -/
theorem exists_start (announced : Announced watcher before after event start)
    (unshown : before.state.target ≠ some (.sequenced start.targetName)) :
    ∃ known, after.state.target = some (.announced known) ∧
      known.targetName = start.targetName := by
  rw [announced.target_eq]
  unfold Target.renewed
  split
  next same =>
    cases current : before.state.target with
    | none => simp [current] at same
    | some target =>
        rw [current, Option.any_some, beq_iff_eq] at same
        cases target with
        | sequenced name => exact absurd (current.trans (congrArg _ (congrArg _ same))) unshown
        | announced known => exact ⟨known, rfl, same⟩
  next => exact ⟨start, rfl, rfl⟩

/-- If the sequence has shown the name before, the target stays as it was seen there. -/
theorem target_of_shown (announced : Announced watcher before after event start)
    (shown : before.state.target = some (.sequenced start.targetName)) :
    after.state.target = some (.sequenced start.targetName) := by
  rw [announced.target_eq, shown]
  simp [Target.renewed, Target.name]

end Announced

/-- After an event has announced a target whose name the sequence had not shown before, that name
is the target's until an event announces a target again, whatever the sequence shows. If the
sequence had shown it, the target stays one of the sequence, and its name is the next one that
the sequence shows. -/
theorem announced_name_sticks_unless_shown {before after : Scene W} {event : Event}
    {start : TargetStart} (announced : Announced watcher before after event start) :
    (before.state.target ≠ some (.sequenced start.targetName) →
      ∀ rest later, Leads watcher ⟨after, rest⟩ later → Unannounced after later.scene →
        later.scene.state.target.map Target.name = some start.targetName) ∧
    (before.state.target = some (.sequenced start.targetName) →
      after.state.target = some (.sequenced start.targetName) ∧
      ∀ later last tree entries other, later.state.target = after.state.target →
        Yields watcher.witnessed.pollSequence later () last →
          last.journal = later.journal ++ .sequence (.ok tree) :: entries →
            Sequence.target? tree = some other →
              last.state.target.map Target.name = some other) := by
  constructor
  · rintro unshown rest later leads ⟨between, journal, unannounced⟩
    rcases announced.exists_start unshown with ⟨known, current, name⟩
    have succession := Succession.of_leads leads
    rcases succession.journal with ⟨lines, all, cause⟩
    rw [journal] at all
    rw [← List.append_cancel_left all] at cause
    -- The target of the event is an announced one, so only another event could replace it.
    rcases cause with same | ⟨other, start, member, announces, _⟩ | ⟨replaceable, _⟩
    · rw [same, current]
      exact congrArg some name
    · exact absurd announces (unannounced other start member)
    · exact absurd ⟨known, current⟩ replaceable
  · intro shown
    have stays := announced.target_of_shown shown
    refine ⟨stays, ?_⟩
    intro later last tree entries other same yields journal next
    rw [Watcher.pollSequence_target yields journal, same, stays, Target.afterSequence, next]
    unfold Target.renewed
    by_cases same : start.targetName = other
    · simp [Target.isAnnounced, Target.name, same]
    · simp [Target.isAnnounced, Target.name, same]

namespace Dictation

/-- The sequence works on one target at the start, then an event announces another one, and then
the sequence goes on to a third. -/
def announcing (shown : String) : Dictation where
  events := [.ok [], .ok [announcement "1" "M31"]]
  images := [.ok []]
  sequences := [.ok (working shown), .ok (working "M42")]
  readings := []

def fetched (shown : String) : Scene Dictation :=
  past ((Dictation.watcher 1).witnessed.historyOrNone (Dictation.watcher 1).witnessed.station.events
    "events") ((announcing shown).start 1)

def told (shown : String) : Scene Dictation :=
  past ((Dictation.watcher 1).witnessed.considerEvent (Dictation.watcher 1).handleNoted
    (announcement "1" "M31")) (fetched shown)

def lookedAgain (shown : String) : Scene Dictation :=
  past (Dictation.watcher 1).witnessed.pollSequence (told shown)

end Dictation

theorem announced_name_sticks_unless_shown_other :
    Announced (Dictation.watcher 1) (Dictation.fetched "M33") (Dictation.told "M33")
        (Dictation.announcement "1" "M31") (Dictation.targetStart "M31") ∧
      (Dictation.fetched "M33").state.target = some (.sequenced "M33") ∧
      (Dictation.lookedAgain "M33").state.target.map Target.name = some "M31" := by
  have announced : Announced (Dictation.watcher 1) (Dictation.fetched "M33")
      (Dictation.told "M33") (Dictation.announcement "1" "M31") (Dictation.targetStart "M31") :=
    ⟨Dictation.yields_past (by decide +kernel), by decide +kernel, rfl, rfl, by decide⟩
  have looked : Yields (Dictation.watcher 1).witnessed.pollSequence (Dictation.told "M33") ()
      (Dictation.lookedAgain "M33") := Dictation.yields_past (by decide +kernel)
  have unshown : (Dictation.fetched "M33").state.target ≠
      some (.sequenced (Dictation.targetStart "M31").targetName) := by decide +kernel
  have leads : Leads (Dictation.watcher 1) ⟨Dictation.told "M33", []⟩
      ⟨Dictation.lookedAgain "M33", []⟩ := .single (.sequence looked)
  have between : Unannounced (Dictation.told "M33") (Dictation.lookedAgain "M33") :=
    .of_pollSequence looked
  have sticks := (announced_name_sticks_unless_shown announced).1 unshown [] _ leads
  dsimp only at sticks
  exact ⟨announced, by decide +kernel, sticks between⟩

/-- An announced name is lost if the sequence had shown it before and goes on to another one. -/
theorem announced_name_lost :
    ¬ ∀ (before after later : Scene Dictation) event start rest agenda,
      Reached (Dictation.watcher 1) ⟨before, .event event :: rest⟩ →
        Announced (Dictation.watcher 1) before after event start →
          Leads (Dictation.watcher 1) ⟨after, rest⟩ ⟨later, agenda⟩ → Unannounced after later →
            later.state.target.map Target.name = some start.targetName := by
  intro sticks
  have asked : Yields
      ((Dictation.watcher 1).witnessed.historyOrNone (Dictation.watcher 1).witnessed.station.events
        "events") ((Dictation.announcing "M31").start 1) [Dictation.announcement "1" "M31"]
      (Dictation.fetched "M31") := Dictation.yields_past (by decide +kernel)
  have reached : Reached (Dictation.watcher 1)
      ⟨Dictation.fetched "M31", [.event (Dictation.announcement "1" "M31")]⟩ :=
    ⟨(Dictation.announcing "M31").start 1, Dictation.begins (by decide +kernel),
      .single (.events asked)⟩
  have announced : Announced (Dictation.watcher 1) (Dictation.fetched "M31")
      (Dictation.told "M31") (Dictation.announcement "1" "M31") (Dictation.targetStart "M31") :=
    ⟨Dictation.yields_past (by decide +kernel), by decide +kernel, rfl, rfl, by decide⟩
  have looked : Yields (Dictation.watcher 1).witnessed.pollSequence (Dictation.told "M31") ()
      (Dictation.lookedAgain "M31") := Dictation.yields_past (by decide +kernel)
  have leads : Leads (Dictation.watcher 1) ⟨Dictation.told "M31", []⟩
      ⟨Dictation.lookedAgain "M31", []⟩ := .single (.sequence looked)
  have name := sticks (Dictation.fetched "M31") (Dictation.told "M31")
    (Dictation.lookedAgain "M31") (Dictation.announcement "1" "M31")
    (Dictation.targetStart "M31") [] [] reached announced leads (.of_pollSequence looked)
  have lost : (Dictation.lookedAgain "M31").state.target.map Target.name = some "M42" := by
    decide +kernel
  rw [lost] at name
  exact absurd name (by decide)

end ObservatoryWatch.Monitor
