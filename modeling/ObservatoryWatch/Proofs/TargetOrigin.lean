import ObservatoryWatch.Proofs.TargetPrecedence

/-!
Where the target comes from.

A target that was announced has the details of an event in some history that was obtained, and
one of the sequence has a name that some tree showed. The start does not look at the kind of the
event, and the sequence knows nothing of instruction sets. So an announced target need not come
from the start of a target, and the name of an instruction set may be tracked.
-/

namespace ObservatoryWatch

open Observatory

namespace Target

/-! ## One change of the target -/

/-- The search for the latest announcement ends with one of the events. -/
theorem exists_of_foldl_laterStart {events : List Event} {latest : Option (String × TargetStart)}
    {time : String} {start : TargetStart}
    (found : events.foldl laterStart latest = some (time, start)) :
    latest = some (time, start) ∨
      ∃ event ∈ events, event.time = time ∧ announcedBy? event = some start := by
  induction events generalizing latest with
  | nil => exact .inl found
  | cons event rest induction =>
      rcases induction found with here | ⟨later, member, announced⟩
      · unfold laterStart at here
        split at here
        next => exact .inl here
        next announced =>
          cases here
          exact .inr ⟨event, List.mem_cons_self, rfl, announced⟩
        next announced =>
          split at here
          · cases here
            exact .inr ⟨event, List.mem_cons_self, rfl, announced⟩
          · exact .inl here
      · exact .inr ⟨later, List.mem_cons_of_mem event member, announced⟩

/-- What is announced last is announced by an event of the history. -/
theorem exists_of_latest? {events : List Event} {target : Target}
    (latest : latest? events = some target) :
    ∃ event ∈ events, ∃ start, announcedBy? event = some start ∧ target = .announced start := by
  rcases Option.map_eq_some_iff.mp latest with ⟨⟨time, start⟩, found, rfl⟩
  rcases exists_of_foldl_laterStart found with none | ⟨event, member, _, announced⟩
  · cases none
  · exact ⟨event, member, start, announced, rfl⟩

theorem foldl_laterStart_eq_none {events : List Event} {latest : Option (String × TargetStart)} :
    events.foldl laterStart latest = none ↔
      latest = none ∧ ∀ event ∈ events, announcedBy? event = none := by
  induction events generalizing latest with
  | nil => simp
  | cons event rest induction =>
      rw [List.foldl_cons, induction, List.forall_mem_cons, ← and_assoc]
      refine and_congr_left' ?_
      unfold laterStart
      split
      next silent => simp [silent]
      next announced => simp [announced]
      next announced => split <;> simp

/-- Nothing is announced last only if no event announces anything. -/
theorem latest?_eq_none {events : List Event} :
    latest? events = none ↔ ∀ event ∈ events, announcedBy? event = none := by
  rw [latest?, Option.map_eq_none_iff, foldl_laterStart_eq_none]
  simp

/-- Whatever the kind of the event, it is never an instruction set that it announces. -/
theorem announcedBy?_eq_some {event : Event} {start : TargetStart} :
    announcedBy? event = some start ↔
      event.start? = some start ∧ start.targetName ≠ instructionSet := by
  simp [announcedBy?, Option.filter_eq_some_iff]

end Target

namespace Monitor

variable {W : Type} {watcher : Watcher (StateM W)}

/-! ## Origins -/

namespace Journal

-- Trees that could not be had are left out.
def sequences (journal : Journal) : List (List Json) :=
  journal.filterMap fun
    | .sequence (.ok tree) => some tree
    | _ => none

@[simp] theorem sequences_append (early late : Journal) :
    sequences (early ++ late) = sequences early ++ sequences late :=
  List.filterMap_append

end Journal

/-- The event was in a history that was obtained. -/
def Met (journal : Journal) (event : Event) : Prop :=
  ∃ history ∈ journal.eventHistories, event ∈ history

/-- An event of a history that was obtained is the start of this target. -/
def HasStart (journal : Journal) (start : TargetStart) : Prop :=
  ∃ event, Met journal event ∧ Target.Announces event start

/-- How a target may have become known. -/
inductive Origin (journal : Journal) : Target → Prop where
  /-- The first history announces it last; nobody looked at the kind of the event. -/
  | chosen {history : List Event} {later : List (List Event)} {start : TargetStart}
      (histories : journal.eventHistories = history :: later)
      (latest : Target.latest? history = some (.announced start)) :
      Origin journal (.announced start)
  | heard {start : TargetStart} (has : HasStart journal start) :
      Origin journal (.announced start)
  | seen {tree : List Json} {name : String} (obtained : tree ∈ journal.sequences)
      (shown : Sequence.target? tree = some name) :
      Origin journal (.sequenced name)

theorem Met.append {journal : Journal} {event : Event} (met : Met journal event)
    (entries : Journal) : Met (journal ++ entries) event := by
  rcases met with ⟨history, obtained, member⟩
  exact ⟨history, by simp [obtained], member⟩

theorem Origin.append {journal : Journal} {target : Target} (origin : Origin journal target)
    (entries : Journal) : Origin (journal ++ entries) target := by
  cases origin with
  | @chosen history later start histories latest =>
      have all : (journal ++ entries).eventHistories =
          history :: (later ++ entries.eventHistories) := by
        rw [Journal.eventHistories_append, histories, List.cons_append]
      exact .chosen all latest
  | heard has =>
      rcases has with ⟨event, met, announces⟩
      exact .heard ⟨event, met.append entries, announces⟩
  | seen obtained shown => exact .seen (by simp [obtained]) shown

/-! ## Stages -/

/-- The target has an origin, and so has every event that may announce the next one. -/
structure Traced (stage : Stage W) : Prop where
  pending : ∀ event ∈ stage.pendingEvents, Met stage.scene.journal event
  target : ∀ target, stage.scene.state.target = some target → Origin stage.scene.journal target

namespace Traced

variable {earlier later : Stage W}

/-- More lines in the journal and fewer events to come do no harm. -/
theorem extend (traced : Traced earlier) (entries : Journal)
    (journal : later.scene.journal = earlier.scene.journal ++ entries)
    (pending : ∀ event ∈ later.pendingEvents, event ∈ earlier.pendingEvents)
    (target : later.scene.state.target = earlier.scene.state.target) : Traced later := by
  constructor
  · intro event member
    rw [journal]
    exact (traced.pending event (pending event member)).append entries
  · intro found known
    rw [journal]
    exact (traced.target found (target ▸ known)).append entries

theorem aside {before after : Scene W} {agenda : List Item} (traced : Traced ⟨before, agenda⟩)
    (aside : Aside before after) : Traced ⟨after, agenda⟩ := by
  rcases aside.journal with ⟨entries, journal, _⟩
  exact traced.extend entries journal (fun _ member => member) aside.target

theorem begin {start : Scene W} (begins : Begins watcher start) : Traced ⟨start, []⟩ := by
  rcases begins with ⟨cooldown, gate, world, _, yields⟩
  rcases Watcher.baseline_started yields with ⟨history, answer, images, started⟩
  rcases started.journal with ⟨entries, journal, _⟩
  refine ⟨fun event member => absurd member List.not_mem_nil, ?_⟩
  intro target known
  have chosen := started.target.symm.trans known
  change Origin start.journal target
  rw [journal]
  suffices origin :
      Origin [.events (.ok history), .sequence answer, .images (.ok images)] target from
    origin.append entries
  rcases Option.or_eq_some_iff.mp chosen with latest | ⟨_, working⟩
  · rcases Target.exists_of_latest? latest with ⟨_, _, start, _, rfl⟩
    exact .chosen (show _ = [history] from rfl) latest
  · rcases Option.map_eq_some_iff.mp working with ⟨name, told, rfl⟩
    rcases Option.bind_eq_some_iff.mp told with ⟨tree, obtained, shown⟩
    cases answer with
    | error fault => cases obtained
    | ok answer =>
        cases obtained
        exact .seen (List.mem_singleton_self _) shown

theorem withSequence {before : Scene W} {tree : List Json} {flipHours : Option Binary64}
    (traced : Traced ⟨before, []⟩) : Traced ⟨before.withSequence tree flipHours, []⟩ := by
  rcases Target.afterSequence_cases before.state.target tree with same | ⟨name, shown, changed⟩
  · exact traced.extend [.sequence (.ok tree)] rfl (fun _ member => member) same
  · refine ⟨fun event member => absurd member List.not_mem_nil, ?_⟩
    intro target known
    cases changed.symm.trans known
    refine .seen ?_ shown
    simp [Scene.withSequence, Journal.sequences]

theorem withEvent {before : Scene W} {event : Event} {seen : Seen} {rest : List Item}
    (traced : Traced ⟨before, .event event :: rest⟩) :
    Traced ⟨before.withEvent event seen, rest⟩ := by
  have fewer : ∀ other ∈ Stage.pendingEvents ⟨before, rest⟩,
      other ∈ Stage.pendingEvents ⟨before, .event event :: rest⟩ :=
    fun other member => List.mem_cons_of_mem event member
  rcases Target.afterEvent_cases before.state.target event with same | ⟨start, announces, changed⟩
  · exact traced.extend [.newEvent event] rfl fewer same
  · constructor
    · intro other member
      exact (traced.pending other (fewer other member)).append [.newEvent event]
    · intro target known
      cases changed.symm.trans known
      have met : Met before.journal event := traced.pending event List.mem_cons_self
      exact .heard ⟨event, met.append [.newEvent event], announces⟩

/-- A history that was obtained is where its events come from. -/
theorem fetched {before : Scene W} {answer : Except Fault (List Event)} {world : W}
    (traced : Traced ⟨before, []⟩) :
    Traced ⟨(before.jotted (.events answer)).inWorld world,
      Item.ofEvents (answer.toOption.getD [])⟩ := by
  constructor
  · rw [Stage.pendingEvents_ofEvents]
    intro event member
    cases answer with
    | error fault => cases member
    | ok history =>
        refine ⟨history, ?_, member⟩
        simp [Journal.eventHistories]
  · intro target known
    exact (traced.target target known).append [.events answer]

theorem step (traced : Traced earlier) (taken : Step watcher earlier later) : Traced later := by
  cases taken.effect with
  | @sequenceMissed before _ fault aside =>
      have told : Traced ⟨before.jotted (.sequence (.error fault)), []⟩ :=
        traced.extend _ rfl (fun _ member => member) rfl
      exact told.aside aside
  | sequenceSeen tree flipHours aside => exact traced.withSequence.aside aside
  | eventsAsked answer world => exact traced.fetched
  | imagesAsked answer world =>
      refine traced.extend [.images answer] rfl ?_ rfl
      rw [Stage.pendingEvents_ofImages]
      exact fun _ member => absurd member List.not_mem_nil
  | eventPassed old =>
      exact traced.extend [] (List.append_nil _).symm
        (fun event member => List.mem_cons_of_mem _ member) rfl
  | eventTaken seen telling added aside => exact traced.withEvent.aside aside
  | imagePassed old =>
      exact traced.extend [] (List.append_nil _).symm (fun _ member => member) rfl
  | imageTaken seen world added handled frame =>
      rcases frame.journal with ⟨entries, journal, _⟩
      exact traced.extend entries journal (fun _ member => member) frame.target
  | paused aside => exact traced.aside aside

theorem of_reached {stage : Stage W} (reached : Reached watcher stage) : Traced stage :=
  reached.induction (fun _ => begin) fun _ _ taken traced => traced.step taken

end Traced

/-! ## Announced targets -/

/-- A target that was announced is the start of a target in some history that was obtained. Or else
the first history announces it last, by an event of another kind that has the details of a start.
The start of the monitor does not look at the kind: whatever events of its history have the
details of a real target, one of them makes an announced target. -/
theorem announced_target_has_start_unless_chosen {stage : Stage W}
    (reached : Reached watcher stage) :
    (∀ start, stage.scene.state.target = some (.announced start) →
      HasStart stage.scene.journal start ∨
        ∃ history later, stage.scene.journal.eventHistories = history :: later ∧
          Target.latest? history = some (.announced start) ∧
          ∃ event ∈ history, event.start? = some start ∧
            start.targetName ≠ Target.instructionSet ∧ event.kind ≠ Kind.targetStarted) ∧
    ∀ begun, Begins watcher begun → ∃ history, begun.journal.eventHistories = [history] ∧
      ∀ event ∈ history, Target.announcedBy? event ≠ none →
        ∃ start, Target.latest? history = some (.announced start) ∧
          begun.state.target = some (.announced start) := by
  constructor
  · intro start known
    cases (Traced.of_reached reached).target _ known with
    | heard has => exact .inl has
    | @chosen history later _ histories latest =>
        rcases Target.exists_of_latest? latest with ⟨event, member, _, announced, ⟨⟩⟩
        rcases Target.announcedBy?_eq_some.mp announced with ⟨details, real⟩
        by_cases kind : event.kind = Kind.targetStarted
        · have met : Met stage.scene.journal event := ⟨history, by simp [histories], member⟩
          exact .inl ⟨event, met, kind, details, real⟩
        · exact .inr ⟨history, later, histories, latest, event, member, details, real, kind⟩
  · rintro begun ⟨cooldown, gate, world, _, yields⟩
    rcases Watcher.baseline_started yields with ⟨history, answer, images, started⟩
    rcases started.journal with ⟨entries, journal, lines⟩
    refine ⟨history, ?_, ?_⟩
    · rw [journal, Journal.eventHistories_append, Journal.eventHistories_of_aside lines]
      rfl
    · intro event member announces
      have some : Target.latest? history ≠ none := by
        intro none
        exact announces (Target.latest?_eq_none.mp none event member)
      rcases Option.ne_none_iff_exists'.mp some with ⟨target, latest⟩
      rcases Target.exists_of_latest? latest with ⟨_, _, start, _, rfl⟩
      refine ⟨start, latest, ?_⟩
      rw [started.target, Target.atStart, latest]
      rfl

namespace Dictation

/-- A camera is connected, and beside it stands the name of a target. -/
def misplaced : Event :=
  ⟨"1", "CAMERA-CONNECTED", some (.targetStart (targetStart "M31"))⟩

/-- At the start such an event is all that is known. Later a target is started. -/
def misplacing : Dictation where
  events := [.ok [misplaced], .ok [misplaced, announcement "2" "M33"]]
  images := [.ok []]
  sequences := []
  readings := []

def afterMisplacing : Stage Dictation :=
  ⟨after (misplacing.start 1) 1 [.sequence, .events], []⟩

end Dictation

theorem announced_target_has_start_unless_chosen_later :
    Reached (Dictation.watcher 1) Dictation.afterMisplacing ∧
      Dictation.afterMisplacing.scene.state.target =
        some (.announced (Dictation.targetStart "M33")) ∧
      HasStart Dictation.afterMisplacing.scene.journal (Dictation.targetStart "M33") := by
  have reached : Reached (Dictation.watcher 1) Dictation.afterMisplacing :=
    ⟨_, Dictation.begins (by decide +kernel), Dictation.leads (by decide +kernel)⟩
  have known : Dictation.afterMisplacing.scene.state.target =
      some (.announced (Dictation.targetStart "M33")) := by decide +kernel
  refine ⟨reached, known, ?_⟩
  rcases (announced_target_has_start_unless_chosen reached).1 _ known with
    has | ⟨history, later, histories, latest, _⟩
  · exact has
  · have first : Dictation.afterMisplacing.scene.journal.eventHistories.head? =
        some [Dictation.misplaced] := by decide +kernel
    rw [histories, List.head?_cons, Option.some.injEq] at first
    subst history
    exact absurd latest (by decide)

/-- At the start a target's name is enough, whatever has happened. -/
theorem announced_target_without_start :
    ¬ ∀ (stage : Stage Dictation) start, Reached (Dictation.watcher 1) stage →
      stage.scene.state.target = some (.announced start) →
        HasStart stage.scene.journal start := by
  intro traced
  have reached : Reached (Dictation.watcher 1) ⟨Dictation.misplacing.start 1, []⟩ :=
    ⟨_, Dictation.begins (by decide +kernel), .refl⟩
  rcases traced _ (Dictation.targetStart "M31") reached (by decide +kernel) with
    ⟨event, ⟨history, obtained, member⟩, announces⟩
  have all : (Dictation.misplacing.start 1).journal.eventHistories = [[Dictation.misplaced]] := by
    decide +kernel
  rw [all, List.mem_singleton] at obtained
  subst history
  rw [List.mem_singleton] at member
  subst event
  exact absurd announces.kind (by decide)

/-! ## Instruction sets -/

/-- If the name of an instruction set is that of the target, a tree that was obtained shows it as
its running target; no event brings it. While no target was announced, a tree that shows it makes
it the target. -/
theorem instruction_set_tracked_only_if_shown {stage : Stage W}
    (reached : Reached watcher stage) :
    (∀ target, stage.scene.state.target = some target → target.name = Target.instructionSet →
      target = .sequenced Target.instructionSet ∧
        ∃ tree ∈ stage.scene.journal.sequences,
          Sequence.target? tree = some Target.instructionSet) ∧
    ∀ after tree entries, ¬ TargetAnnounced stage.scene →
      Yields watcher.witnessed.pollSequence stage.scene () after →
        after.journal = stage.scene.journal ++ .sequence (.ok tree) :: entries →
          Sequence.target? tree = some Target.instructionSet →
            after.state.target = some (.sequenced Target.instructionSet) := by
  constructor
  · intro target known name
    cases (Traced.of_reached reached).target target known with
    | chosen histories latest =>
        rcases Target.exists_of_latest? latest with ⟨event, _, start, announced, ⟨⟩⟩
        exact absurd name (Target.announcedBy?_eq_some.mp announced).2
    | heard has =>
        rcases has with ⟨event, _, announces⟩
        exact absurd name announces.real
    | @seen tree shownName obtained shown =>
        change shownName = Target.instructionSet at name
        subst shownName
        exact ⟨rfl, tree, obtained, shown⟩
  · intro after tree entries unannounced yields journal shown
    rw [Watcher.pollSequence_target yields journal]
    exact Target.afterSequence_of_shown (fun start known => unannounced ⟨start, known⟩) shown

namespace Dictation

/-- An instruction set is announced, and then the sequence works on one. -/
def instructing : Dictation where
  events := [.ok [], .ok [announcement "1" Target.instructionSet]]
  images := [.ok []]
  sequences := [.ok [], .ok (working Target.instructionSet)]
  readings := []

def afterInstructing : Stage Dictation :=
  ⟨after (instructing.start 1) 1 [.events, .sequence], []⟩

end Dictation

theorem Dictation.afterInstructing_reached :
    Reached (Dictation.watcher 1) Dictation.afterInstructing :=
  ⟨_, Dictation.begins (by decide +kernel), Dictation.leads (by decide +kernel)⟩

theorem instruction_set_tracked_only_if_shown_working :
    Reached (Dictation.watcher 1) Dictation.afterInstructing ∧
      Dictation.afterInstructing.scene.state.target =
        some (.sequenced Target.instructionSet) ∧
      ∃ tree ∈ Dictation.afterInstructing.scene.journal.sequences,
        Sequence.target? tree = some Target.instructionSet := by
  have known : Dictation.afterInstructing.scene.state.target =
      some (.sequenced Target.instructionSet) := by decide +kernel
  have only := instruction_set_tracked_only_if_shown Dictation.afterInstructing_reached
  exact ⟨Dictation.afterInstructing_reached, known, (only.1 _ known rfl).2⟩

/-- The sequence knows nothing of instruction sets. -/
theorem instruction_set_tracked :
    ¬ ∀ (stage : Stage Dictation) target, Reached (Dictation.watcher 1) stage →
      stage.scene.state.target = some target → target.name ≠ Target.instructionSet := by
  intro real
  exact real _ (.sequenced Target.instructionSet) Dictation.afterInstructing_reached
    (by decide +kernel) rfl

end Monitor

end ObservatoryWatch
