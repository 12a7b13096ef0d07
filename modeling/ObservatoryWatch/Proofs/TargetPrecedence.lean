import ObservatoryWatch.Proofs.Dictation

/-!
An announced target takes precedence over the sequence.

Three places set the target: the start, a look at the sequence, and an event. Once a target is
known there always is one, once it was announced it stays an announced one, and from then on only
events change it. The relation of two scenes that says so holds across every step.
-/

namespace ObservatoryWatch

open Observatory

/-! ## One change of the target -/

namespace Target

/-- The event is the start of this target, which is a real one. -/
structure Announces (event : Event) (start : TargetStart) : Prop where
  kind : event.kind = Kind.targetStarted
  details : event.start? = some start
  real : start.targetName ≠ instructionSet

theorem Announces.announcedBy? {event : Event} {start : TargetStart}
    (announces : Announces event start) : announcedBy? event = some start := by
  simp [Target.announcedBy?, Option.filter_eq_some_iff, announces.details, announces.real]

theorem announces_of_announcedBy? {event : Event} {start : TargetStart}
    (kind : event.kind = Kind.targetStarted) (announced : announcedBy? event = some start) :
    Announces event start := by
  simp only [Target.announcedBy?, Option.filter_eq_some_iff, bne_iff_ne] at announced
  exact ⟨kind, announced.1, announced.2⟩

theorem renewed_ne_none {current : Option Target} {target : Target} :
    renewed current target ≠ none := by
  unfold renewed
  cases current with
  | none => simp
  | some known => split <;> simp

theorem afterSequence_ne_none {current : Option Target} {tree : List Json}
    (known : current ≠ none) : afterSequence current tree ≠ none := by
  unfold afterSequence
  split
  · exact known
  · split
    · exact renewed_ne_none
    · exact known

theorem afterEvent_ne_none {current : Option Target} {event : Event} (known : current ≠ none) :
    afterEvent current event ≠ none := by
  unfold afterEvent
  split
  · split
    · exact renewed_ne_none
    · exact known
  · exact known

theorem afterEvent_of_announces {current : Option Target} {event : Event} {start : TargetStart}
    (announces : Announces event start) :
    afterEvent current event = renewed current (.announced start) := by
  unfold afterEvent
  rw [if_pos (beq_iff_eq.mpr announces.kind), announces.announcedBy?]

/-- An event changes the target to what it announces, or not at all. -/
theorem afterEvent_cases (current : Option Target) (event : Event) :
    afterEvent current event = current ∨
      ∃ start, Announces event start ∧ afterEvent current event = some (.announced start) := by
  unfold afterEvent
  split
  next started =>
    cases announced : announcedBy? event with
    | none => exact .inl rfl
    | some start =>
        dsimp only
        unfold renewed
        split
        · exact .inl rfl
        · exact .inr ⟨start, announces_of_announcedBy? (beq_iff_eq.mp started) announced, rfl⟩
  next => exact .inl rfl

end Target

namespace Monitor

variable {W : Type} {watcher : Watcher (StateM W)}

/-! ## Successions -/

/-- The target was announced by an event. -/
def TargetAnnounced (scene : Scene W) : Prop :=
  ∃ start, scene.state.target = some (.announced start)

/-- The target is what one of the events announces that were handed over in between. -/
def AnnouncedIn (journal : Journal) (target : Option Target) : Prop :=
  ∃ event start, .newEvent event ∈ journal ∧ Target.Announces event start ∧
    target = some (.announced start)

/-- The target is the name that is found in one of the sequences that were obtained in between. -/
def SequencedIn (journal : Journal) (target : Option Target) : Prop :=
  ∃ tree name, .sequence (.ok tree) ∈ journal ∧ Sequence.target? tree = some name ∧
    target = some (.sequenced name)

/-- The target of a later scene respects that of an earlier one. -/
structure Succession (before after : Scene W) : Prop where
  known : before.state.target ≠ none → after.state.target ≠ none
  announced : TargetAnnounced before → TargetAnnounced after
  journal : ∃ between, after.journal = before.journal ++ between ∧
    (after.state.target = before.state.target ∨ AnnouncedIn between after.state.target ∨
      ¬ TargetAnnounced before ∧ SequencedIn between after.state.target)

namespace Succession

theorem of_same {before after : Scene W} {between : Journal}
    (same : after.state.target = before.state.target)
    (journal : after.journal = before.journal ++ between) : Succession before after := by
  refine ⟨fun known => same ▸ known, ?_, between, journal, .inl same⟩
  rintro ⟨start, announced⟩
  exact ⟨start, same.trans announced⟩

theorem refl (scene : Scene W) : Succession scene scene :=
  of_same rfl (List.append_nil scene.journal).symm

theorem trans {first second third : Scene W} (left : Succession first second)
    (right : Succession second third) : Succession first third := by
  rcases left.journal with ⟨early, leftJournal, leftCause⟩
  rcases right.journal with ⟨late, rightJournal, rightCause⟩
  refine ⟨right.known ∘ left.known, right.announced ∘ left.announced, early ++ late, ?_, ?_⟩
  · rw [rightJournal, leftJournal, List.append_assoc]
  · -- The last of the two changes counts, with the cause that it had where it happened.
    rcases rightCause with
      same | ⟨event, start, member, cause⟩ | ⟨unannounced, tree, name, member, cause⟩
    · rw [same]
      rcases leftCause with
        same | ⟨event, start, member, cause⟩ | ⟨unannounced, tree, name, member, cause⟩
      · exact .inl same
      · exact .inr (.inl ⟨event, start, List.mem_append_left late member, cause⟩)
      · exact .inr (.inr ⟨unannounced, tree, name, List.mem_append_left late member, cause⟩)
    · exact .inr (.inl ⟨event, start, List.mem_append_right early member, cause⟩)
    · exact .inr (.inr ⟨mt left.announced unannounced, tree, name,
        List.mem_append_right early member, cause⟩)

theorem of_aside {before after : Scene W} (aside : Aside before after) :
    Succession before after := by
  rcases aside.journal with ⟨entries, journal, _⟩
  exact of_same aside.target journal

theorem target_withSequence {before : Scene W} {tree : List Json} {flipHours : Option Binary64}
    (announced : TargetAnnounced before) :
    (before.withSequence tree flipHours).state.target = before.state.target := by
  rcases announced with ⟨start, announced⟩
  refine Target.afterSequence_of_announced ?_
  change before.state.target.any (·.isAnnounced) = true
  rw [announced]
  rfl

theorem of_sequence {before : Scene W} {tree : List Json} {flipHours : Option Binary64} :
    Succession before (before.withSequence tree flipHours) := by
  refine ⟨Target.afterSequence_ne_none, ?_, [.sequence (.ok tree)], rfl, ?_⟩
  · rintro ⟨start, announced⟩
    exact ⟨start, (target_withSequence ⟨start, announced⟩).trans announced⟩
  · by_cases announced : TargetAnnounced before
    · exact .inl (target_withSequence announced)
    · rcases Target.afterSequence_cases before.state.target tree with same | ⟨name, shown, changed⟩
      · exact .inl same
      · exact .inr (.inr ⟨announced, tree, name, List.mem_singleton_self _, shown, changed⟩)

theorem of_event {before : Scene W} {event : Event} {seen : Seen} :
    Succession before (before.withEvent event seen) := by
  rcases Target.afterEvent_cases before.state.target event with
    same | ⟨start, announces, changed⟩
  · exact of_same same rfl
  · refine ⟨Target.afterEvent_ne_none, fun _ => ⟨start, changed⟩, [.newEvent event], rfl, ?_⟩
    exact .inr (.inl ⟨event, start, List.mem_singleton_self _, announces, changed⟩)

/-- A look at the sequence leaves an announced target alone, whatever it shows. -/
theorem of_pollSequence_announced {before after : Scene W} {value : Unit}
    (announced : TargetAnnounced before)
    (yields : Yields watcher.witnessed.pollSequence before value after) :
    after.state.target = before.state.target := by
  rcases Watcher.pollSequence_yields yields with ⟨fault, aside⟩ | ⟨tree, flipHours, _, aside⟩
  · exact aside.target
  · exact aside.target.trans (target_withSequence announced)

theorem of_step {earlier later : Stage W} (taken : Step watcher earlier later) :
    Succession earlier.scene later.scene := by
  cases taken.effect with
  | @sequenceMissed before after fault aside =>
      have told : Succession before (before.jotted (.sequence (.error fault))) := of_same rfl rfl
      exact told.trans (of_aside aside)
  | sequenceSeen tree flipHours aside => exact of_sequence.trans (of_aside aside)
  | eventsAsked answer world => exact of_same rfl rfl
  | imagesAsked answer world => exact of_same rfl rfl
  | eventPassed old => exact refl _
  | eventTaken seen telling added aside => exact of_event.trans (of_aside aside)
  | imagePassed old => exact refl _
  | imageTaken seen world added handled frame =>
      rcases frame.journal with ⟨entries, journal, _⟩
      exact of_same frame.target journal
  | paused aside => exact of_aside aside

theorem of_leads {earlier later : Stage W} (leads : Leads watcher earlier later) :
    Succession earlier.scene later.scene := by
  induction leads with
  | refl => exact refl earlier.scene
  | tail _ taken induction => exact induction.trans (of_step taken)

end Succession

/-- At the start a target that the history announces takes precedence. After any stage of a course
there is a target if there was one. One that no event has announced was the target before, or it was
found in a sequence that was obtained in between, and of that it has its name and nothing else. Once
the target was announced it stays an announced one, no look at the sequence changes it any more, and
if it is another one later, then an event announced that one which was handed over in between. -/
theorem announced_target_takes_precedence {earlier later : Stage W}
    (leads : Leads watcher earlier later) :
    (∀ start, Begins watcher start → ∃ history, start.journal.eventHistories = [history] ∧
      ∀ target, Target.latest? history = some target → start.state.target = some target) ∧
    (earlier.scene.state.target ≠ none → later.scene.state.target ≠ none) ∧
    ∃ between, later.scene.journal = earlier.scene.journal ++ between ∧
      (∀ target, later.scene.state.target = some target → target.isAnnounced = false →
        (earlier.scene.state.target = some target ∨ SequencedIn between (some target)) ∧
          target.coordinates? = none ∧ target.project? = none ∧ target.rotation? = none) ∧
      (TargetAnnounced earlier.scene → TargetAnnounced later.scene ∧
        (∀ after, Yields watcher.witnessed.pollSequence later.scene () after →
          after.state.target = later.scene.state.target) ∧
        (later.scene.state.target ≠ earlier.scene.state.target →
          AnnouncedIn between later.scene.state.target)) := by
  have succession := Succession.of_leads leads
  rcases succession.journal with ⟨between, journal, cause⟩
  refine ⟨?_, succession.known, between, journal, ?_, ?_⟩
  · rintro start ⟨cooldown, gate, world, _, yields⟩
    rcases Watcher.baseline_started yields with ⟨history, answer, images, started⟩
    rcases started.journal with ⟨entries, journal, lines⟩
    refine ⟨history, ?_, ?_⟩
    · rw [journal, Journal.eventHistories_append, Journal.eventHistories_of_aside lines]
      rfl
    · intro target latest
      rw [started.target, Target.atStart, latest]
      rfl
  · rintro (name | start) shown sequenced
    · refine ⟨?_, rfl, rfl, rfl⟩
      rw [shown] at cause
      rcases cause with same | ⟨_, _, _, _, announced⟩ | ⟨_, found⟩
      · exact .inl same.symm
      · cases announced
      · exact .inr found
    · cases sequenced
  · intro announced
    refine ⟨succession.announced announced, ?_, fun changed => ?_⟩
    · intro after yields
      exact Succession.of_pollSequence_announced (succession.announced announced) yields
    · exact (cause.resolve_left changed).resolve_right fun found => found.1 announced

namespace Dictation

/-- A target is announced in the history at the start, while the sequence works on another one.
Later a second one is announced, while the sequence goes on to a third. -/
def twoAnnounced : Dictation where
  events :=
    [.ok [announcement "1" "M31"],
      .ok [announcement "1" "M31", announcement "2" "M33", announcement "3" Target.instructionSet]]
  images := [.ok []]
  sequences := [.ok (working "M42"), .ok (working "M42"), .ok (working "M45")]
  readings := []

end Dictation

theorem announced_target_takes_precedence_twice :
    ∃ earlier later : Stage Dictation,
      Leads (Dictation.watcher 1) earlier later ∧
      earlier.scene.state.target = some (.announced (Dictation.targetStart "M31")) ∧
      later.scene.state.target = some (.announced (Dictation.targetStart "M33")) ∧
      ∃ between, later.scene.journal = earlier.scene.journal ++ between ∧
        AnnouncedIn between later.scene.state.target := by
  refine ⟨⟨Dictation.twoAnnounced.start 1, []⟩,
    ⟨Dictation.after (Dictation.twoAnnounced.start 1) 1 [.sequence, .events, .sequence], []⟩,
    Dictation.leads (by decide +kernel), by decide +kernel, by decide +kernel, ?_⟩
  have leads : Leads (Dictation.watcher 1) ⟨Dictation.twoAnnounced.start 1, []⟩
      ⟨Dictation.after (Dictation.twoAnnounced.start 1) 1 [.sequence, .events, .sequence], []⟩ :=
    Dictation.leads (by decide +kernel)
  rcases announced_target_takes_precedence leads with ⟨_, _, between, journal, _, precedence⟩
  rcases precedence ⟨Dictation.targetStart "M31", by decide +kernel⟩ with ⟨_, _, cause⟩
  exact ⟨between, journal, cause (by decide +kernel)⟩

end Monitor

end ObservatoryWatch
