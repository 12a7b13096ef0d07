import ObservatoryWatch.Proofs.Dictation

/-!
Each event is dealt with once.

At every stage of a course the events handed over are the newcomers among those taken into
account so far, and the fingerprints remembered are those of all events that say anything. The
invariant is about the histories obtained, however they overlap: what is taken into account and
what is still pending make up all of them.
-/

namespace ObservatoryWatch.Monitor

open Observatory

variable {W : Type} {watcher : Watcher (StateM W)}

/-- How the events stand after so many of the later histories were taken into account. -/
structure EventsKept (history considered : List Event) (stage : Stage W) : Prop where
  obtained : Obtained stage.scene.journal.eventHistories history considered stage.pendingEvents
  tally : Tally Event.fingerprint ((telling history).map Event.fingerprint) (telling considered)
    stage.scene.journal.handedEvents stage.scene.state.seenEvents

namespace EventsKept

variable {history considered : List Event} {earlier later : Stage W}

/-- Only event histories, their entries and what becomes of these matter. -/
theorem frame (kept : EventsKept history considered earlier)
    (pending : later.pendingEvents = earlier.pendingEvents)
    (seen : later.scene.state.seenEvents = earlier.scene.state.seenEvents)
    (histories : later.scene.journal.eventHistories = earlier.scene.journal.eventHistories)
    (handed : later.scene.journal.handedEvents = earlier.scene.journal.handedEvents) :
    EventsKept history considered later := by
  constructor
  · rw [histories, pending]
    exact kept.obtained
  · rw [handed, seen]
    exact kept.tally

theorem aside {before after : Scene W} {agenda : List Item}
    (kept : EventsKept history considered ⟨before, agenda⟩) (aside : Aside before after) :
    EventsKept history considered ⟨after, agenda⟩ := by
  rcases aside.journal with ⟨entries, journal, lines⟩
  refine kept.frame rfl aside.seenEvents ?_ ?_
  · simp [journal, Journal.eventHistories_of_aside lines]
  · simp [journal, Journal.handedEvents_of_aside lines]

theorem jotted {scene : Scene W} {agenda : List Item} {entry : Entry}
    (kept : EventsKept history considered ⟨scene, agenda⟩)
    (histories : Journal.eventHistories [entry] = [])
    (handed : Journal.handedEvents [entry] = []) :
    EventsKept history considered ⟨scene.jotted entry, agenda⟩ := by
  refine kept.frame rfl rfl ?_ ?_
  · rw [Scene.journal_jotted, Journal.eventHistories_append, histories, List.append_nil]
  · rw [Scene.journal_jotted, Journal.handedEvents_append, handed, List.append_nil]

/-- The start hands nothing over and remembers the history. -/
theorem begin {start : Scene W} (begins : Begins watcher start) :
    ∃ history, EventsKept history [] ⟨start, []⟩ := by
  rcases begins with ⟨cooldown, gate, world, _, yields⟩
  rcases Watcher.baseline_started yields with ⟨history, answer, images, started⟩
  rcases started.journal with ⟨entries, journal, lines⟩
  refine ⟨history, ⟨[], ?_, rfl⟩, ?_, ?_⟩
  · rw [journal, Journal.eventHistories_append, Journal.eventHistories_of_aside lines]
    rfl
  · rw [journal, Journal.handedEvents_append, Journal.handedEvents_of_aside lines]
    rfl
  · intro fingerprint
    rw [started.seenEvents, Seen.mem_foldl_addEvent]
    simp [Scene.fresh, State.fresh, Seen.empty, telling]

/-- An event that was passed over is accounted for all the same. -/
theorem pass {scene : Scene W} {event : Event} {rest : List Item}
    (kept : EventsKept history considered ⟨scene, .event event :: rest⟩)
    (old : event.changesNothing = true ∨
      event.fingerprint ∈ scene.state.seenEvents.fingerprints) :
    EventsKept history (considered ++ [event]) ⟨scene, rest⟩ :=
  ⟨kept.obtained.consider, kept.tally.pass_event old⟩

theorem take {before : Scene W} {event : Event} {rest : List Item} {seen : Seen}
    (kept : EventsKept history considered ⟨before, .event event :: rest⟩)
    (telling : event.changesNothing = false)
    (added : before.state.seenEvents.add? event.fingerprint = some seen) :
    EventsKept history (considered ++ [event]) ⟨before.withEvent event seen, rest⟩ := by
  constructor
  · rw [Scene.withEvent, Scene.journal_updated, Scene.journal_jotted,
      Journal.eventHistories_append]
    exact (List.append_nil _).symm ▸ kept.obtained.consider
  · rw [Scene.withEvent, Scene.journal_updated, Scene.journal_jotted,
      Journal.handedEvents_append]
    exact kept.tally.take_event telling added

/-- A history that was obtained is pending as a whole. -/
theorem fetched {before : Scene W} {answer : Except Fault (List Event)} {world : W}
    (kept : EventsKept history considered ⟨before, []⟩) :
    EventsKept history considered
      ⟨(before.jotted (.events answer)).inWorld world,
        Item.ofEvents (answer.toOption.getD [])⟩ := by
  cases answer with
  | error fault =>
      have told : EventsKept history considered ⟨before.jotted (.events (.error fault)), []⟩ :=
        kept.jotted rfl rfl
      exact told.frame rfl rfl rfl rfl
  | ok entries =>
      constructor
      · rw [Scene.journal_inWorld, Scene.journal_jotted, Journal.eventHistories_append,
          Stage.pendingEvents_ofEvents]
        exact kept.obtained.fetch entries
      · rw [Scene.journal_inWorld, Scene.journal_jotted, Journal.handedEvents_append]
        exact (List.append_nil _).symm ▸ kept.tally

/-- Each step takes at most one more event into account. -/
theorem step (kept : EventsKept history considered earlier) (taken : Step watcher earlier later) :
    ∃ considered, EventsKept history considered later := by
  cases taken.effect with
  | sequenceMissed fault aside => exact ⟨considered, (kept.jotted rfl rfl).aside aside⟩
  | @sequenceSeen before _ tree flipHours aside =>
      have told : EventsKept history considered ⟨before.jotted (.sequence (.ok tree)), []⟩ :=
        kept.jotted rfl rfl
      have taught : EventsKept history considered ⟨before.withSequence tree flipHours, []⟩ :=
        told.frame rfl rfl rfl rfl
      exact ⟨considered, taught.aside aside⟩
  | eventsAsked answer world => exact ⟨considered, kept.fetched⟩
  | @imagesAsked before answer world =>
      have told : EventsKept history considered ⟨before.jotted (.images answer), []⟩ :=
        kept.jotted (by cases answer <;> rfl) rfl
      exact ⟨considered, told.frame (Stage.pendingEvents_ofImages _ _) rfl rfl rfl⟩
  | eventPassed old => exact ⟨_, kept.pass old⟩
  | eventTaken seen telling added aside => exact ⟨_, (kept.take telling added).aside aside⟩
  | imagePassed old => exact ⟨considered, kept.frame rfl rfl rfl rfl⟩
  | imageTaken seen world added handled frame =>
      rcases frame.journal with ⟨entries, journal, lines⟩
      refine ⟨considered, kept.frame rfl frame.seenEvents ?_ ?_⟩
      · simp [journal, Journal.eventHistories_of_image lines]
      · simp [journal, Journal.handedEvents_of_image lines]
  | paused aside => exact ⟨considered, kept.aside aside⟩

theorem of_reached {stage : Stage W} (reached : Reached watcher stage) :
    ∃ history considered, EventsKept history considered stage := by
  refine reached.induction
    (motive := fun stage => ∃ history considered, EventsKept history considered stage) ?_ ?_
  · intro start begins
    rcases begin begins with ⟨history, kept⟩
    exact ⟨history, [], kept⟩
  · rintro earlier later taken ⟨history, considered, kept⟩
    exact ⟨history, kept.step taken⟩

end EventsKept

/-- At every stage of every course: after the history at the start, the events of all later
histories that were obtained are those taken into account so far and those still pending. What
was handed over are the newcomers among the former, in their order, so nothing is handed over
twice and nothing new is lost. What is remembered are the fingerprints of all events met so far
that say anything. -/
theorem events_handed_over_once {stage : Stage W} (reached : Reached watcher stage) :
    ∃ history later considered,
      stage.scene.journal.eventHistories = history :: later ∧
      later.flatten = considered ++ stage.pendingEvents ∧
      stage.scene.journal.handedEvents = newEvents history considered ∧
      (stage.scene.journal.handedEvents.map Event.fingerprint).Nodup ∧
      (∀ event ∈ considered, event.changesNothing = false →
        (∃ old ∈ history, old.changesNothing = false ∧ old.fingerprint = event.fingerprint) ∨
          ∃ handed ∈ stage.scene.journal.handedEvents,
            handed.fingerprint = event.fingerprint) ∧
      ∀ fingerprint, fingerprint ∈ stage.scene.state.seenEvents.fingerprints ↔
        ∃ event ∈ history ++ considered,
          event.changesNothing = false ∧ event.fingerprint = fingerprint := by
  rcases EventsKept.of_reached reached with ⟨history, considered, kept⟩
  rcases kept.obtained with ⟨later, histories, entries⟩
  refine ⟨history, later, considered, histories, entries, kept.tally.handed_eq, ?_, ?_, ?_⟩
  · rw [kept.tally.handed_eq]
    exact (nodup_newcomers _).1
  · intro event member telling
    have seen := (kept.tally.mem_seen event.fingerprint).mpr
      (.inr (List.mem_map_of_mem (mem_telling.mpr ⟨member, telling⟩)))
    rcases kept.tally.mem_seen_iff.mp seen with old | handed
    · rcases List.mem_map.mp old with ⟨old, member, same⟩
      rcases mem_telling.mp member with ⟨member, telling⟩
      exact .inl ⟨old, member, telling, same⟩
    · exact .inr (List.mem_map.mp handed)
  · -- Known events and those taken into account count alike for what is remembered.
    intro fingerprint
    rw [kept.tally.mem_seen, ← List.mem_append, ← List.map_append, ← telling_append]
    simp only [List.mem_map, mem_telling, and_assoc]

namespace Dictation

/-- A filter that is changed for itself. -/
def sameFilter : Event :=
  ⟨"1", Kind.filterChanged, some (.filterChange ⟨⟨.whole "L", 0⟩, ⟨.whole "L", 1⟩⟩)⟩

/-- Histories that overlap, repeat an entry, lose one and get it back, and one that fails. -/
def overlapping : Dictation where
  events :=
    [.ok [plain "0" "SAFE", sameFilter],
      .ok [plain "0" "SAFE", plain "2" "UNSAFE", plain "2" "UNSAFE", sameFilter],
      .error refusal,
      .ok [plain "3" "SAFE"],
      .ok [plain "0" "SAFE", plain "2" "UNSAFE", plain "3" "SAFE"]]
  images := [.ok []]
  sequences := []
  readings := []

def afterOverlapping : Stage Dictation :=
  ⟨after (overlapping.start 1) 1 [.events, .events, .sequence, .events, .events], []⟩

end Dictation

theorem events_handed_over_once_overlapping :
    Reached (Dictation.watcher 1) Dictation.afterOverlapping ∧
      Dictation.afterOverlapping.scene.journal.handedEvents =
        [Dictation.plain "2" "UNSAFE", Dictation.plain "3" "SAFE"] ∧
      ∃ history later considered,
        Dictation.afterOverlapping.scene.journal.eventHistories = history :: later ∧
        later.flatten = considered ++ Dictation.afterOverlapping.pendingEvents ∧
        newEvents history considered =
          [Dictation.plain "2" "UNSAFE", Dictation.plain "3" "SAFE"] := by
  have reached : Reached (Dictation.watcher 1) Dictation.afterOverlapping :=
    ⟨_, Dictation.begins (by decide +kernel), Dictation.leads (by decide +kernel)⟩
  have handed : Dictation.afterOverlapping.scene.journal.handedEvents =
      [Dictation.plain "2" "UNSAFE", Dictation.plain "3" "SAFE"] := by decide +kernel
  rcases events_handed_over_once reached with
    ⟨history, later, considered, histories, entries, newcomers, _⟩
  exact ⟨reached, handed, history, later, considered, histories, entries, newcomers ▸ handed⟩

end ObservatoryWatch.Monitor
