import ObservatoryWatch.Proofs.TargetPrecedence

/-!
A monitor to which nothing is news.

Three answers make a round: the sequence, the events and the images, each a value or a fault of
the interface. A monitor is settled on them if it knows all that they tell. The start and every
round leave it settled on the answers that they got, although a round looks at the sequence before
the events: what events change about the target makes it an announced one, and such a target a
tree leaves alone.
-/

namespace ObservatoryWatch

open Observatory

namespace Target

/-- A name that would change nothing is that of the target. -/
theorem any_name_of_renewed {current : Option Target} {target : Target}
    (same : renewed current target = current) :
    current.any (·.name == target.name) = true := by
  unfold renewed at same
  split at same
  next known => exact known
  next =>
    rw [← same]
    simp

theorem afterSequence_afterSequence (current : Option Target) (tree : List Json) :
    afterSequence (afterSequence current tree) tree = afterSequence current tree := by
  rcases afterSequence_cases current tree with same | ⟨name, shown, changed⟩
  · rw [same, same]
  · rw [changed]
    exact afterSequence_of_shown (by simp) shown

/-- The tree that was seen at the start changes nothing about the target of the start. -/
theorem afterSequence_atStart (history : List Event) (tree : List Json) :
    afterSequence (atStart history (.ok tree)) tree = atStart history (.ok tree) := by
  unfold atStart
  cases latest : latest? history with
  | some target =>
      rcases Option.map_eq_some_iff.mp latest with ⟨_, _, rfl⟩
      exact afterSequence_of_announced rfl
  | none =>
      cases shown : Sequence.target? tree with
      | none => simp [afterSequence, shown, Except.toOption]
      | some name =>
          simp only [Except.toOption, Option.bind_some, shown, Option.map_some, Option.none_or]
          exact afterSequence_of_shown (by simp) shown

end Target

namespace Monitor

variable {W : Type} {watcher : Watcher (StateM W)}

/-! ## Answers -/

/-- What a round is answered. -/
structure Answers where
  sequence : Except Imaging.Fault (List Json)
  events : Except Imaging.Fault (List Event)
  images : Except Imaging.Fault (List Image)

def Entry.isLook : Entry → Bool
  | sequence _ | events _ | images _ => true
  | _ => false

namespace Journal

def looks (journal : Journal) : Journal := journal.filter Entry.isLook

theorem looks_append (early late : Journal) : looks (early ++ late) = looks early ++ looks late :=
  List.filter_append early late

theorem looks_eq_nil {allowed : Entry → Bool} {entries : Journal}
    (lines : ∀ entry ∈ entries, allowed entry = true)
    (blind : ∀ entry, allowed entry = true → ¬ entry.isLook = true) : looks entries = [] :=
  List.filter_eq_nil_iff.mpr fun entry member => blind entry (lines entry member)

theorem looks_of_aside {entries : Journal} (lines : ∀ entry ∈ entries, entry.isAside = true) :
    looks entries = [] :=
  looks_eq_nil lines fun entry line => by
    cases entry <;> simp [Entry.isAside, Entry.isLook] at line ⊢

theorem looks_of_image {entries : Journal} (lines : ∀ entry ∈ entries, entry.isOfImage = true) :
    looks entries = [] :=
  looks_eq_nil lines fun entry line => by
    cases entry <;> simp [Entry.isOfImage, Entry.isLook] at line ⊢

end Journal

namespace Answers

/-- The answers as they are noted, in the order of a round. -/
def entries (answers : Answers) : Journal :=
  [.sequence (answers.sequence.mapError .imaging), .events (answers.events.mapError .imaging),
    .images (answers.images.mapError .imaging)]

/-- Each of the three questions was asked once, and answered so. -/
def Told (answers : Answers) (lines : Journal) : Prop := lines.looks.Perm answers.entries

/-- No two rounds of answers are told by the same lines. -/
theorem Told.unique {answers others : Answers} {lines : Journal} (told : answers.Told lines)
    (alike : others.Told lines) : answers = others := by
  have same : answers.entries ⊆ others.entries := (told.symm.trans alike).subset
  have injective : ∀ {α : Type} {one other : Except Imaging.Fault α},
      one.mapError Fault.imaging = other.mapError Fault.imaging → one = other := by
    rintro α (_ | _) (_ | _) equal <;> cases equal <;> rfl
  rcases answers with ⟨sequence, events, images⟩
  simp only [entries, List.cons_subset, List.mem_cons, Entry.sequence.injEq, Entry.events.injEq,
    Entry.images.injEq, reduceCtorEq, List.not_mem_nil, or_false, false_or] at same
  rcases same with ⟨sequence, events, images, _⟩
  rw [injective sequence, injective events, injective images]

end Answers

/-! ## Settled monitors -/

/-- Nothing that a tree tells is news. -/
structure KnowsTree (tree : List Json) (state : State) : Prop where
  flipHours : Sequence.flipHours tree = .ok state.flipHours
  sequenceSeen : state.sequenceSeen = true
  target : Target.afterSequence state.target tree = state.target

def KnowsEvents (history : List Event) (seen : Seen) : Prop :=
  ∀ event ∈ history, event.objection? = none ∧
    (event.changesNothing = true ∨ event.fingerprint ∈ seen.fingerprints)

def KnowsImages (history : List Image) (seen : Seen) : Prop :=
  ∀ image ∈ history, image.fingerprint ∈ seen.fingerprints

structure Settled (answers : Answers) (state : State) : Prop where
  sequence : ∀ tree, answers.sequence = .ok tree → KnowsTree tree state
  events : ∀ history, answers.events = .ok history → KnowsEvents history state.seenEvents
  images : ∀ history, answers.images = .ok history → KnowsImages history state.seenImages

/-- Events change the target to an announced one, or not at all, so a tree stays known. -/
theorem KnowsTree.frame {tree : List Json} {before after : State} (knows : KnowsTree tree before)
    (flipHours : after.flipHours = before.flipHours)
    (sequenceSeen : after.sequenceSeen = before.sequenceSeen)
    (target : after.target = before.target ∨ ∃ start, after.target = some (.announced start)) :
    KnowsTree tree after := by
  refine ⟨flipHours ▸ knows.flipHours, sequenceSeen ▸ knows.sequenceSeen, ?_⟩
  rcases target with same | ⟨start, announced⟩
  · rw [same]
    exact knows.target
  · rw [announced]
    exact Target.afterSequence_of_announced rfl

/-! ## Histories that are heard -/

/-- What becomes of a monitor that deals with a history of events. -/
structure Heard (history : List Event) (before after : Scene W) : Prop where
  known : KnowsEvents history after.state.seenEvents
  remembered : before.state.seenEvents.fingerprints ⊆ after.state.seenEvents.fingerprints
  target : after.state.target = before.state.target ∨
    ∃ start, after.state.target = some (.announced start)
  flipHours : after.state.flipHours = before.state.flipHours
  sequenceSeen : after.state.sequenceSeen = before.state.sequenceSeen
  journal : ∃ entries, after.journal = before.journal ++ entries ∧
    ∀ entry ∈ entries, entry.isAside = true

namespace Heard

theorem nil (scene : Scene W) : Heard [] scene scene :=
  ⟨by simp [KnowsEvents], fun _ member => member, .inl rfl, rfl, rfl, [], by simp⟩

theorem append {first second third : Scene W} {early late : List Event}
    (left : Heard early first second) (right : Heard late second third) :
    Heard (early ++ late) first third := by
  rcases left.journal with ⟨before, leftJournal, leftLines⟩
  rcases right.journal with ⟨after, rightJournal, rightLines⟩
  refine ⟨?_, fun _ member => right.remembered (left.remembered member), ?_,
    right.flipHours.trans left.flipHours, right.sequenceSeen.trans left.sequenceSeen,
    before ++ after, ?_, List.forall_mem_append.mpr ⟨leftLines, rightLines⟩⟩
  · exact List.forall_mem_append.mpr
      ⟨fun event member => (left.known event member).imp_right
        (Or.imp_right (@right.remembered _)), right.known⟩
  · rcases right.target with same | announced
    · rw [same]
      exact left.target
    · exact .inr announced
  · rw [rightJournal, leftJournal, List.append_assoc]

theorem of_considerEvent {event : Event} {before after : Scene W} {value : Unit}
    (yields : Yields (watcher.witnessed.considerEvent watcher.witnessed.handle event)
      before value after) : Heard [event] before after := by
  rcases Watcher.considerEvent_dealt yields with
    ⟨identified, ⟨rfl, old⟩ | ⟨_, seen, world, added, handled⟩⟩
  · refine ⟨?_, fun _ member => member, .inl rfl, rfl, rfl, [], by simp⟩
    exact List.forall_mem_singleton.mpr ⟨identified, old⟩
  · have aside := Watcher.handle_aside handled
    have all : after.state.seenEvents.fingerprints =
        event.fingerprint :: before.state.seenEvents.fingerprints := by
      rw [aside.seenEvents]
      exact (Seen.add?_eq_some.mp added).2
    refine ⟨?_, ?_, ?_, aside.flipHours, aside.sequenceSeen, aside.journal⟩
    · exact List.forall_mem_singleton.mpr ⟨identified, .inr (by simp [all])⟩
    · rw [all]
      exact List.subset_cons_self _ _
    · rcases Target.afterEvent_cases before.state.target event with same | ⟨start, _, changed⟩
      · exact .inl (aside.target.trans same)
      · exact .inr ⟨start, aside.target.trans changed⟩

theorem of_forM (history : List Event) {before after : Scene W} {value : Unit}
    (yields : Yields (history.forM
      (watcher.witnessed.considerEvent watcher.witnessed.handle)) before value after) :
    Heard history before after :=
  yields_forM_relates nil of_considerEvent append history yields

end Heard

/-- What becomes of a monitor that deals with a history of images. -/
structure Viewed (history : List Image) (before after : Scene W) : Prop where
  known : KnowsImages history after.state.seenImages
  remembered : before.state.seenImages.fingerprints ⊆ after.state.seenImages.fingerprints
  frame : ImageFrame before after

namespace Viewed

theorem nil (scene : Scene W) : Viewed [] scene scene :=
  ⟨by simp [KnowsImages], fun _ member => member, .refl scene⟩

theorem append {first second third : Scene W} {early late : List Image}
    (left : Viewed early first second) (right : Viewed late second third) :
    Viewed (early ++ late) first third := by
  refine ⟨?_, fun _ member => right.remembered (left.remembered member),
    left.frame.trans right.frame⟩
  exact List.forall_mem_append.mpr
    ⟨fun image member => right.remembered (left.known image member), right.known⟩

theorem of_considerImage {index : Nat} {image : Image} {before after : Scene W} {value : Unit}
    (yields : Yields (watcher.witnessed.considerImage watcher.witnessed.handleImage index image)
      before value after) : Viewed [image] before after := by
  rcases Watcher.considerImage_dealt yields with ⟨rfl, old⟩ | ⟨seen, world, added, handled⟩
  · refine ⟨?_, fun _ member => member, .refl after⟩
    exact List.forall_mem_singleton.mpr old
  · rcases Watcher.handleImage_frame handled with ⟨frame, same⟩
    have all : after.state.seenImages.fingerprints =
        image.fingerprint :: before.state.seenImages.fingerprints := by
      rw [same]
      exact (Seen.add?_eq_some.mp added).2
    refine ⟨?_, ?_, frame.seenEvents, frame.target, frame.flipHours, frame.sequenceSeen,
      frame.journal⟩
    · exact List.forall_mem_singleton.mpr (by simp [all])
    · rw [all]
      exact List.subset_cons_self _ _

theorem of_forM (entries : List (Image × Nat)) {before after : Scene W} {value : Unit}
    (yields : Yields (entries.forM fun (image, index) =>
      watcher.witnessed.considerImage watcher.witnessed.handleImage index image)
      before value after) : Viewed (entries.map Prod.fst) before after := by
  refine yields_forM_relates (motive := fun entries => Viewed (entries.map Prod.fst)) nil
    of_considerImage ?_ entries yields
  intro early late first second third left right
  rw [List.map_append]
  exact left.append right

end Viewed

/-! ## What a round leaves behind -/

/-- The looks of a round, of which the first two are answered so. -/
structure Looked (watcher : Watcher (StateM W)) (answers : Answers)
    (before first second after : Scene W) : Prop where
  sequence : Yields watcher.witnessed.pollSequence before () first
  events : Yields watcher.witnessed.pollEvents first () second
  images : Yields watcher.witnessed.pollImages second () after
  sequenceTold : ∃ entries, first.journal =
    before.journal ++ .sequence (answers.sequence.mapError .imaging) :: entries
  eventsTold : ∃ entries, second.journal =
    first.journal ++ .events (answers.events.mapError .imaging) :: entries

namespace Watcher

variable {before after : Scene W}

theorem pollSequence_settles {value : Unit}
    (yields : Yields watcher.witnessed.pollSequence before value after) :
    ∃ (answer : Except Imaging.Fault (List Json)) (entries : Journal),
      after.journal = before.journal ++ .sequence (answer.mapError .imaging) :: entries ∧
      (∀ entry ∈ entries, entry.isAside = true) ∧
      ∀ tree, answer = .ok tree → KnowsTree tree after.state := by
  rcases pollSequence_yields yields with ⟨fault, aside⟩ | ⟨tree, flipHours, read, aside⟩
  · rcases aside.journal with ⟨entries, journal, lines⟩
    exact ⟨.error fault, entries, by simpa [Except.mapError] using journal, lines, nofun⟩
  · rcases aside.journal with ⟨entries, journal, lines⟩
    refine ⟨.ok tree, entries, by simpa [Scene.withSequence, Except.mapError] using journal,
      lines, ?_⟩
    rintro _ ⟨⟩
    refine ⟨read.trans (congrArg _ aside.flipHours.symm), aside.sequenceSeen, ?_⟩
    rw [aside.target]
    exact Target.afterSequence_afterSequence before.state.target tree

theorem pollEvents_settles {value : Unit}
    (yields : Yields watcher.witnessed.pollEvents before value after) :
    ∃ (answer : Except Imaging.Fault (List Event)) (entries : Journal),
      after.journal = before.journal ++ .events (answer.mapError .imaging) :: entries ∧
      (∀ entry ∈ entries, entry.isAside = true) ∧
      (∀ history, answer = .ok history → KnowsEvents history after.state.seenEvents) ∧
      ∀ tree, KnowsTree tree before.state → KnowsTree tree after.state := by
  rcases yields_bind.mp yields with ⟨history, middle, asked, worked⟩
  rcases historyOrNone_yields asked with ⟨answer, world, rfl, rfl⟩
  have heard := Heard.of_forM _ worked
  rcases heard.journal with ⟨entries, journal, lines⟩
  refine ⟨answer, entries, by simpa using journal, lines, ?_, ?_⟩
  · rintro history rfl
    exact heard.known
  · exact fun tree knows => knows.frame heard.flipHours heard.sequenceSeen heard.target

theorem pollImages_settles {value : Unit}
    (yields : Yields watcher.witnessed.pollImages before value after) :
    ∃ (answer : Except Imaging.Fault (List Image)) (entries : Journal),
      after.journal = before.journal ++ .images (answer.mapError .imaging) :: entries ∧
      (∀ entry ∈ entries, entry.isOfImage = true) ∧
      (∀ history, answer = .ok history → KnowsImages history after.state.seenImages) ∧
      after.state.seenEvents = before.state.seenEvents ∧
      ∀ tree, KnowsTree tree before.state → KnowsTree tree after.state := by
  rcases yields_bind.mp yields with ⟨history, middle, asked, worked⟩
  rcases historyOrNone_yields asked with ⟨answer, world, rfl, rfl⟩
  have viewed := Viewed.of_forM _ worked
  rw [List.zipIdx_map_fst] at viewed
  rcases viewed.frame.journal with ⟨entries, journal, lines⟩
  refine ⟨answer, entries, by simpa using journal, lines, ?_, viewed.frame.seenEvents, ?_⟩
  · rintro history rfl
    exact viewed.known
  · exact fun tree knows =>
      knows.frame viewed.frame.flipHours viewed.frame.sequenceSeen (.inl viewed.frame.target)

/-- A round is three looks, and each question is answered once. -/
theorem tick_cases {value : Unit}
    (yields : Yields watcher.witnessed.tick before value after) :
    ∃ (answers : Answers) (lines : Journal) (first second : Scene W),
      after.journal = before.journal ++ lines ∧ answers.Told lines ∧
        Settled answers after.state ∧ Looked watcher answers before first second after := by
  simp only [tick, yields_bind] at yields
  rcases yields with ⟨_, first, looked, _, second, heard, viewed⟩
  rcases pollSequence_settles looked with ⟨sequence, early, firstJournal, earlyLines, knowsTree⟩
  rcases pollEvents_settles heard with
    ⟨events, between, secondJournal, betweenLines, knowsEvents, keepsTree⟩
  rcases pollImages_settles viewed with
    ⟨images, late, journal, lateLines, knowsImages, sameEvents, staysTree⟩
  refine ⟨⟨sequence, events, images⟩,
    .sequence (sequence.mapError .imaging) :: early ++
      (.events (events.mapError .imaging) :: between ++
        .images (images.mapError .imaging) :: late), first, second, ?_, ?_, ⟨?_, ?_, knowsImages⟩,
    looked, heard, viewed, ⟨early, firstJournal⟩, ⟨between, secondJournal⟩⟩
  · rw [journal, secondJournal, firstJournal]
    simp
  · refine .of_eq ?_
    have start : ∀ entry lines, entry.isLook = true →
        Journal.looks (entry :: lines) = entry :: Journal.looks lines :=
      fun _ _ look => List.filter_cons_of_pos look
    rw [Journal.looks_append, Journal.looks_append, start _ _ rfl, start _ _ rfl, start _ _ rfl,
      Journal.looks_of_aside earlyLines, Journal.looks_of_aside betweenLines,
      Journal.looks_of_image lateLines]
    rfl
  · -- The tree was seen first; neither the events nor the images make news of it.
    exact fun tree same => staysTree tree (keepsTree tree (knowsTree tree same))
  · intro history same
    rw [sameEvents]
    exact knowsEvents history same

theorem tick_settles {value : Unit}
    (yields : Yields watcher.witnessed.tick before value after) :
    ∃ (answers : Answers) (lines : Journal), after.journal = before.journal ++ lines ∧
      answers.Told lines ∧ Settled answers after.state := by
  rcases tick_cases yields with ⟨answers, lines, _, _, journal, told, settled, _⟩
  exact ⟨answers, lines, journal, told, settled⟩

theorem baseline_settles {value : Unit}
    (yields : Yields watcher.witnessed.baseline before value after) :
    ∃ (answers : Answers) (lines : Journal), after.journal = before.journal ++ lines ∧
      answers.Told lines ∧ Settled answers after.state := by
  rcases baseline_cases yields with
    ⟨history, images, _, learned, ready, identified, learning, hushed, greeting⟩
  rcases learnSequence_yields learning with ⟨answer, flipHours, sequenceSeen, _, rfl, taught⟩
  have last := (Aside.of_hushed hushed).trans (greet_aside greeting)
  rcases last.journal with ⟨entries, journal, lines⟩
  refine ⟨⟨answer, .ok history, .ok images⟩,
    .events (.ok history) :: .sequence (answer.mapError .imaging) ::
      .images (.ok images) :: entries,
    ?_, ?_, ?_, ?_, ?_⟩
  · simpa [Scene.withHistory, Scene.withGallery] using journal
  · change (Journal.looks (_ :: _ :: _ :: entries)).Perm _
    simp only [Journal.looks, List.filter_cons, Entry.isLook, if_true]
    rw [← Journal.looks, Journal.looks_of_aside lines]
    exact List.Perm.swap _ _ _
  · rintro tree rfl
    rcases taught tree rfl with ⟨read, seen⟩
    refine ⟨read.trans (congrArg _ last.flipHours.symm), last.sequenceSeen.trans seen, ?_⟩
    rw [last.target]
    exact Target.afterSequence_atStart history tree
  · rintro _ ⟨⟩ event member
    refine ⟨identified event member, ?_⟩
    cases silent : event.changesNothing with
    | true => exact .inl rfl
    | false =>
        refine .inr ?_
        rw [last.seenEvents]
        refine (Seen.mem_foldl_addEvent history).mpr (.inr (List.mem_map_of_mem ?_))
        exact mem_telling.mpr ⟨member, silent⟩
  · rintro _ ⟨⟩ image member
    rw [last.seenImages]
    exact (Seen.mem_foldl_addImage images).mpr (.inr (List.mem_map_of_mem member))

end Watcher

end Monitor

end ObservatoryWatch
