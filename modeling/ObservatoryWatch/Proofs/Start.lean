import Mathlib.Data.List.TakeWhile
import ObservatoryWatch.Proofs.Handling

/-!
What the monitor knows once it has started.

Both histories count as seen. The target is the one announced last, or else the one that
the sequence shows. Nothing is handed over as new.
-/

namespace ObservatoryWatch.Monitor

open Observatory

variable {W : Type}

/-- What the start leaves behind. -/
structure Started (before after : Scene W) (history : List Event)
    (answer : Except Fault (List Json)) (images : List Image) : Prop where
  identified : ∀ event ∈ history, event.objection? = none
  gate : after.state.gate = before.state.gate
  seenEvents : after.state.seenEvents = history.foldl Seen.addEvent before.state.seenEvents
  seenImages : after.state.seenImages = images.foldl Seen.addImage before.state.seenImages
  target : after.state.target = Target.atStart history answer
  journal : ∃ entries, after.journal = before.journal ++
      [.events (.ok history), .sequence answer, .images (.ok images)] ++ entries ∧
    ∀ entry ∈ entries, entry.isAside = true

namespace Scene

/-- The scene once the events of the past are known. -/
def withHistory (scene : Scene W) (history : List Event) : Scene W :=
  (scene.jotted (.events (.ok history))).updated fun state =>
    { state with
      seenEvents := history.foldl Seen.addEvent state.seenEvents
      target := Target.latest? history }

/-- The scene once the images of the past are known. -/
def withGallery (scene : Scene W) (images : List Image) : Scene W :=
  (scene.jotted (.images (.ok images))).updated fun state =>
    { state with seenImages := images.foldl Seen.addImage state.seenImages }

end Scene

namespace Watcher

variable {watcher : Watcher (StateM W)} {before after : Scene W}

/-- What the sequence tells at the start, if it can be had. -/
theorem learnSequence_yields {value : Unit}
    (yields : Yields watcher.witnessed.learnSequence before value after) :
    ∃ (answer : Except Imaging.Fault (List Json)) (flipHours : Option Binary64)
        (sequenceSeen : Bool) (world : W),
      after = ((before.jotted (.sequence (answer.mapError .imaging))).updated fun state =>
        { state with
          sequenceSeen
          flipHours
          target := state.target.or
            ((answer.toOption.bind Sequence.target?).map .sequenced) }).inWorld world ∧
      ∀ tree, answer = .ok tree →
        Sequence.flipHours tree = .ok flipHours ∧ sequenceSeen = true := by
  unfold learnSequence at yields
  rw [yields_bind] at yields
  rcases yields with ⟨answer, middle, asked, yields⟩
  rcases yields_attempt_noted asked with ⟨world, rfl⟩
  cases answer with
  | error fault =>
      rcases note_yields yields with ⟨later, rfl⟩
      refine ⟨.error fault, before.state.flipHours, before.state.sequenceSeen, later, ?_, nofun⟩
      simp [Scene.updated, Scene.jotted, Scene.inWorld, Except.toOption]
  | ok tree =>
      simp only [yields_bind, yields_get] at yields
      rcases yields with ⟨_, learned, learning, _, _, ⟨rfl, rfl⟩, yields⟩
      rcases learnFlip_yields learning with ⟨flipHours, read, rfl⟩
      have taught : ∀ other, Except.ok (ε := Imaging.Fault) tree = .ok other →
          Sequence.flipHours other = .ok flipHours ∧ true = true := by
        rintro _ ⟨⟩
        exact ⟨read, rfl⟩
      refine ⟨.ok tree, flipHours, true, world, ?_, taught⟩
      cases known : before.state.target with
      | none =>
          simp only [Scene.state_updated, Scene.state_inWorld, Scene.state_jotted, known,
            Option.isNone_none, if_true, yields_modify] at yields
          subst after
          simp [Scene.updated, Scene.jotted, Scene.inWorld, Except.mapError, Except.toOption,
            known]
      | some target =>
          simp only [Scene.state_updated, Scene.state_inWorld, Scene.state_jotted, known,
            Option.isNone_some, Bool.false_eq_true, if_false, yields_pure] at yields
          rw [← yields.2]
          simp [Scene.updated, Scene.jotted, Scene.inWorld, Except.mapError, known]

/-- Whoever there is to read it gets one card, with what is known then. -/
theorem greet_cases {value : Unit}
    (yields : Yields watcher.witnessed.greet before value after) :
    (watcher.channels = [] ∧ after = before) ∨
      ∃ (events images channels : Int) (mount : Option Mount) (now : Calendar.Moment)
          (middle : Scene W),
        Hushed before middle ∧
          Yields (watcher.witnessed.post (Card.welcome before.state.target events images channels
            before.state.flipHours mount now)) middle () after := by
  unfold greet at yields
  rw [hasChannels_witnessed] at yields
  split at yields
  · simp only [yields_bind, yields_get] at yields
    rcases yields with ⟨mount, _, asked, now, _, told, state, _, ⟨rfl, rfl⟩, posted⟩
    have hushed := (mount?_hushed asked).trans (localTime_hushed told)
    rw [hushed.state] at posted
    exact .inr ⟨_, _, _, mount, now, _, hushed, posted⟩
  next silent =>
    rw [hasChannels_iff, ne_eq, not_not] at silent
    exact .inl ⟨silent, (yields_pure.mp yields).2.symm⟩

theorem greet_aside {value : Unit}
    (yields : Yields watcher.witnessed.greet before value after) : Aside before after := by
  rcases greet_cases yields with
    ⟨_, rfl⟩ | ⟨events, images, channels, mount, now, middle, hushed, posted⟩
  · exact .refl after
  · exact (Aside.of_hushed hushed).trans (post_aside (Card.isOfImage_welcome ..) posted)

/-- A history that is recorded can be identified all through. -/
theorem recordEvents_yields {history : List Event} {value : Unit}
    (yields : Yields (recordEvents history) before value after) :
    (∀ event ∈ history, event.objection? = none) ∧
      after = before.updated fun state =>
        { state with seenEvents := history.foldl Seen.addEvent state.seenEvents } := by
  simp only [recordEvents, yields_bind, yields_modify, yields_check] at yields
  rcases yields with ⟨_, _, rfl, none, rfl⟩
  have identified := List.findSome?_eq_none_iff.mp none
  refine ⟨identified, ?_⟩
  rw [List.takeWhile_eq_self_iff.mpr fun event member => by rw [identified event member]; rfl]

/-- The start is the histories, what the sequence tells, and a greeting. -/
theorem baseline_cases {value : Unit}
    (yields : Yields watcher.witnessed.baseline before value after) :
    ∃ history images world learned ready, (∀ event ∈ history, event.objection? = none) ∧
      Yields watcher.witnessed.learnSequence ((before.withHistory history).inWorld world) ()
        learned ∧
      Hushed (learned.withGallery images) ready ∧
      Yields watcher.witnessed.greet ready () after := by
  simp only [baseline, yields_bind, yields_modify, yields_get] at yields
  rcases yields with ⟨_, _, told, history, _, askedEvents, _, _, recorded, _, _, rfl, _, learned,
    learning, images, _, askedImages, _, _, rfl, _, _, ⟨rfl, rfl⟩, _, _, counted, _, ready, named,
    greeting⟩
  rcases note_yields told with ⟨_, rfl⟩
  rcases ends_perform_noted.mp askedEvents with ⟨world, _, rfl⟩
  rcases recordEvents_yields recorded with ⟨identified, rfl⟩
  rcases ends_perform_noted.mp askedImages with ⟨later, _, rfl⟩
  refine ⟨history, images, world, learned, ready, identified, learning, ?_, greeting⟩
  have gallery : Hushed (learned.withGallery images) ((learned.withGallery images).inWorld later) :=
    .of_world later
  exact gallery.trans <| (note_hushed counted).trans (noteTarget_hushed named)

theorem baseline_started {value : Unit}
    (yields : Yields watcher.witnessed.baseline before value after) :
    ∃ history answer images, Started before after history answer images := by
  rcases baseline_cases yields with
    ⟨history, images, _, learned, ready, identified, learning, hushed, greeting⟩
  rcases learnSequence_yields learning with ⟨answer, flipHours, sequenceSeen, _, rfl, _⟩
  have last := (Aside.of_hushed hushed).trans (greet_aside greeting)
  rcases last.journal with ⟨entries, journal, aside⟩
  refine ⟨history, answer.mapError .imaging, images, identified, last.gate, last.seenEvents,
    last.seenImages, ?_, entries, ?_, aside⟩
  · rw [last.target, Target.atStart, toOption_mapError]
    rfl
  · simpa [Scene.withHistory, Scene.withGallery] using journal

end Watcher

end ObservatoryWatch.Monitor
