import ObservatoryWatch.Proofs.Dictation
import ObservatoryWatch.Proofs.Settled

/-!
Rounds in which nothing is news.

A round that gets the answers on which the monitor is settled asks its three questions and does
nothing else: no card is sent, no further question is asked, and nothing is remembered that was
not known before. So the round after the start, and the round after a round, is silent if the
observatory answers as before.
-/

namespace ObservatoryWatch.Monitor

open Observatory

variable {W : Type} {watcher : Watcher (StateM W)}

/-- In the next round from this scene on the surroundings give these answers. -/
structure Answered (watcher : Watcher (StateM W)) (scene : Scene W) (answers : Answers) :
    Prop where
  sequence : (watcher.station.sequence.run.run scene.world).1 =
    answers.sequence.mapError .imaging
  events : ∀ middle, Yields watcher.witnessed.pollSequence scene () middle →
    (watcher.station.events.run.run middle.world).1 = answers.events.mapError .imaging
  images : ∀ middle last, Yields watcher.witnessed.pollSequence scene () middle →
    Yields watcher.witnessed.pollEvents middle () last →
    (watcher.station.images.run.run last.world).1 = answers.images.mapError .imaging

namespace Watcher

variable {scene : Scene W}

theorem note_quiet (record : Log.Record) :
    ∃ world, Yields (watcher.witnessed.note record) scene () (scene.inWorld world) :=
  ⟨_, yields_lift_lift.mpr ⟨_, rfl, rfl⟩⟩

/-! ## The sequence -/

theorem update_quiet {target : Target}
    (known : scene.state.target.any (·.name == target.name) = true) :
    Yields (watcher.witnessed.update target) scene () scene := by
  refine yields_state.bind ?_
  dsimp only
  rw [if_pos known]
  exact yields_unchanged

theorem learnFlip_quiet {tree : List Json} (knows : KnowsTree tree scene.state) :
    Yields (learnFlip tree : Watched W Unit) scene () scene := by
  have same : (scene.updated fun state => { state with sequenceSeen := true }) = scene := by
    unfold Scene.updated
    rw [← knows.sequenceSeen]
  have seen : Yields (modify fun state => { state with sequenceSeen := true } : Watched W PUnit)
      scene ⟨⟩ scene := yields_modify.mpr same
  exact seen.bind <| (yields_converted.mpr ⟨knows.flipHours, rfl⟩).bind (yields_modify.mpr rfl)

/-- A look at a sequence that tells no news only asks for it. -/
theorem pollSequence_quiet {answer : Except Imaging.Fault (List Json)}
    (answered : (watcher.station.sequence.run.run scene.world).1 = answer.mapError .imaging)
    (knows : ∀ tree, answer = .ok tree → KnowsTree tree scene.state) :
    ∃ world, Yields watcher.witnessed.pollSequence scene ()
      ((scene.jotted (.sequence (answer.mapError .imaging))).inWorld world) := by
  rcases attempt_noted_yields .sequence answered with ⟨world, asked⟩
  generalize told : (scene.jotted (.sequence (answer.mapError .imaging))).inWorld world = middle
    at asked
  have same : middle.state = scene.state := by rw [← told]; rfl
  cases answer with
  | error fault =>
      have complaint : ∃ later, Yields (if !middle.state.sequenceSeen then
          watcher.witnessed.note (.warning
            ("Error fetching sequence (will retry silently): " ++ fault.message))
          else pure ()) middle () (middle.inWorld later) := by
        split
        · exact note_quiet _
        · exact ⟨middle.world, yields_unchanged⟩
      rcases complaint with ⟨later, noted⟩
      have looked : Yields watcher.witnessed.pollSequence scene () (middle.inWorld later) :=
        asked.bind (yields_state.bind noted)
      rw [← told] at looked
      exact ⟨later, looked⟩
  | ok tree =>
      have known : KnowsTree tree middle.state := same ▸ knows tree rfl
      refine ⟨world, ?_⟩
      rw [told]
      refine asked.bind <| (learnFlip_quiet known).bind <| yields_state.bind ?_
      split
      next => exact yields_unchanged
      next replaceable =>
        -- What the tree shows would take the target's place, so it must be its name.
        have target := known.target
        rw [Target.afterSequence_of_not_announced replaceable] at target
        cases shown : Sequence.target? tree with
        | none => exact yields_unchanged
        | some name =>
            rw [shown] at target
            exact update_quiet (Target.any_name_of_renewed target)

/-! ## Histories -/

theorem historyOrNone_quiet {α : Type} {history : Action (StateM W) (List α)}
    {answer : Except Imaging.Fault (List α)} (entry : Except Fault (List α) → Entry)
    (subject : String)
    (answered : (history.run.run scene.world).1 = answer.mapError .imaging) :
    ∃ world, Yields (watcher.witnessed.historyOrNone (noted entry history) subject) scene
      (answer.toOption.getD [])
      ((scene.jotted (entry (answer.mapError .imaging))).inWorld world) := by
  rcases attempt_noted_yields entry answered with ⟨world, asked⟩
  cases answer with
  | ok entries => exact ⟨world, asked.bind (yields_pure.mpr ⟨rfl, rfl⟩)⟩
  | error fault =>
      rcases note_quiet (.error ("Error fetching " ++ subject ++ ": " ++ fault.message))
        with ⟨later, noted⟩
      exact ⟨later, asked.bind (noted.bind (yields_pure.mpr ⟨rfl, rfl⟩))⟩

theorem considerEvent_quiet {deal : Event → Watched W Unit} {event : Event}
    (identified : event.objection? = none)
    (old : event.changesNothing = true ∨
      event.fingerprint ∈ scene.state.seenEvents.fingerprints) :
    Yields (watcher.witnessed.considerEvent deal event) scene () scene := by
  unfold considerEvent
  split
  next => exact yields_unchanged
  next telling =>
    have known := Seen.add?_eq_none.mpr (old.resolve_left telling)
    have checked : Yields (check event.objection?) scene () scene :=
      yields_check.mpr ⟨identified, rfl⟩
    refine checked.bind (yields_state.bind ?_)
    rw [known]
    exact yields_unchanged

theorem considerImage_quiet {deal : Nat → Image → Watched W Unit} {index : Nat} {image : Image}
    (old : image.fingerprint ∈ scene.state.seenImages.fingerprints) :
    Yields (watcher.witnessed.considerImage deal index image) scene () scene := by
  refine yields_state.bind ?_
  rw [Seen.add?_eq_none.mpr old]
  exact yields_unchanged

theorem pollEvents_quiet {answer : Except Imaging.Fault (List Event)}
    (answered : (watcher.station.events.run.run scene.world).1 = answer.mapError .imaging)
    (knows : ∀ history, answer = .ok history → KnowsEvents history scene.state.seenEvents) :
    ∃ world, Yields watcher.witnessed.pollEvents scene ()
      ((scene.jotted (.events (answer.mapError .imaging))).inWorld world) := by
  rcases historyOrNone_quiet .events "events" answered with ⟨world, asked⟩
  refine ⟨world, asked.bind (yields_forM_unchanged _ fun event member => ?_)⟩
  cases answer with
  | error fault => cases member
  | ok history =>
      have known := knows history rfl event member
      exact considerEvent_quiet known.1 known.2

theorem pollImages_quiet {answer : Except Imaging.Fault (List Image)}
    (answered : (watcher.station.images.run.run scene.world).1 = answer.mapError .imaging)
    (knows : ∀ history, answer = .ok history → KnowsImages history scene.state.seenImages) :
    ∃ world, Yields watcher.witnessed.pollImages scene ()
      ((scene.jotted (.images (answer.mapError .imaging))).inWorld world) := by
  rcases historyOrNone_quiet .images "images" answered with ⟨world, asked⟩
  refine ⟨world, asked.bind (yields_forM_unchanged _ ?_)⟩
  rintro ⟨image, index⟩ member
  cases answer with
  | error fault => cases member
  | ok history =>
      exact considerImage_quiet (knows history rfl image (List.fst_mem_of_mem_zipIdx member))

/-! ## Rounds -/

/-- A round in which nothing is news asks three questions and does nothing else. -/
theorem tick_quiet {answers : Answers} (settled : Settled answers scene.state)
    (answered : Answered watcher scene answers) :
    ∃ world, Yields watcher.witnessed.tick scene ()
      ⟨scene.state, scene.journal ++ answers.entries, world⟩ := by
  rcases pollSequence_quiet answered.sequence settled.sequence with ⟨first, looked⟩
  rcases pollEvents_quiet (answered.events _ looked) settled.events with ⟨second, heard⟩
  rcases pollImages_quiet (answered.images _ _ looked heard) settled.images with ⟨third, viewed⟩
  have done : Yields watcher.witnessed.tick scene () _ := looked.bind (heard.bind viewed)
  refine ⟨third, ?_⟩
  simpa [Scene.jotted, Scene.inWorld, Answers.entries] using done

end Watcher

/-- The start and every round are told three answers, each a value or a fault of the interface. If
the next round is given the same three, it comes to its end and changes nothing: all that the
journal has of it are the three questions, so no card is sent and nothing else is asked. -/
theorem repeated_round_is_silent {before middle : Scene W}
    (done : Yields watcher.witnessed.baseline before () middle ∨
      Yields watcher.witnessed.tick before () middle) :
    ∃ answers lines, middle.journal = before.journal ++ lines ∧
      (∀ told : Answers, told.Told lines ↔ told = answers) ∧
      (Answered watcher middle answers →
        ∃ world, Yields watcher.witnessed.tick middle ()
          ⟨middle.state, middle.journal ++ answers.entries, world⟩) := by
  have settles : ∃ (answers : Answers) (lines : Journal),
      middle.journal = before.journal ++ lines ∧ answers.Told lines ∧
        Settled answers middle.state := by
    rcases done with started | rounded
    · exact Watcher.baseline_settles started
    · exact Watcher.tick_settles rounded
  rcases settles with ⟨answers, lines, journal, told, settled⟩
  refine ⟨answers, lines, journal, fun other => ⟨fun same => same.unique told, ?_⟩,
    Watcher.tick_quiet settled⟩
  rintro rfl
  exact told

namespace Dictation

/-- A round of news, and a second one that is answered alike. -/
def repeating : Dictation where
  events := [.ok [], .ok [announcement "1" "M31"], .ok [announcement "1" "M31"]]
  images := [.ok [], .ok [photo "1"], .ok [photo "1"]]
  sequences := [.error refusal, .ok (working "M42"), .ok (working "M42")]
  readings := []

def repeated : Answers :=
  ⟨.ok (working "M42"), .ok [announcement "1" "M31"], .ok [photo "1"]⟩

def afterNews : Scene Dictation := past (Dictation.watcher 1).witnessed.tick (repeating.start 1)

theorem afterNews_answered : Answered (Dictation.watcher 1) afterNews repeated where
  sequence := by rfl
  events := by
    intro middle looked
    rw [← past_of_yields looked]
    rfl
  images := by
    intro middle last looked heard
    rw [← past_of_yields heard, ← past_of_yields looked]
    exact eq_ok_of_toOption (by decide +kernel)

theorem afterNews_told :
    repeated.Told (afterNews.journal.drop (repeating.start 1).journal.length) := by
  refine .of_eq ?_
  rfl

end Dictation

theorem repeated_round_is_silent_after_news :
    Yields (Dictation.watcher 1).witnessed.tick (Dictation.repeating.start 1) ()
        Dictation.afterNews ∧
      (Dictation.afterNews.journal.cardsAt 0).length = 4 ∧
      Answered (Dictation.watcher 1) Dictation.afterNews Dictation.repeated ∧
      ∃ world, Yields (Dictation.watcher 1).witnessed.tick Dictation.afterNews ()
        ⟨Dictation.afterNews.state,
          Dictation.afterNews.journal ++ Dictation.repeated.entries, world⟩ := by
  have news : Yields (Dictation.watcher 1).witnessed.tick (Dictation.repeating.start 1) ()
      Dictation.afterNews := Dictation.yields_past (by decide +kernel)
  rcases repeated_round_is_silent (.inr news) with ⟨answers, lines, journal, told, silent⟩
  have same : Dictation.repeated = answers := by
    have all := Dictation.afterNews_told
    rw [journal, List.drop_left] at all
    exact (told Dictation.repeated).mp all
  subst answers
  exact ⟨news, by decide +kernel, Dictation.afterNews_answered,
    silent Dictation.afterNews_answered⟩

end ObservatoryWatch.Monitor
