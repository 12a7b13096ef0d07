import ObservatoryWatch.Proofs.Newcomers
import ObservatoryWatch.Proofs.Passage

/-!
What becomes of the target and of events.

A new name takes the place of the target, a known one does not; where the target was
learned makes no difference to that. Dealing with an event is an aside but for the target
that it may announce. A look at the sequence is an aside but for what the sequence tells.
-/

namespace ObservatoryWatch

open Observatory

/-! ## The next target -/

namespace Target

/-- The target after a name was heard: a known one stays as it was learned first. -/
def renewed (current : Option Target) (target : Target) : Option Target :=
  if current.any (·.name == target.name) then current else some target

/-- The target after an event was dealt with. -/
def afterEvent (current : Option Target) (event : Event) : Option Target :=
  if event.kind == Kind.targetStarted then
    match announcedBy? event with
    | some start => renewed current (.announced start)
    | none => current
  else current

/-- The target after the sequence was seen: one that was announced stays. -/
def afterSequence (current : Option Target) (tree : List Json) : Option Target :=
  if current.any (·.isAnnounced) then current
  else match Sequence.target? tree with
    | some name => renewed current (.sequenced name)
    | none => current

theorem afterSequence_of_announced {current : Option Target} {tree : List Json}
    (announced : current.any (·.isAnnounced) = true) : afterSequence current tree = current :=
  if_pos announced

theorem afterSequence_of_not_announced {current : Option Target} {tree : List Json}
    (replaceable : ¬ current.any (·.isAnnounced) = true) :
    afterSequence current tree = match Sequence.target? tree with
      | some name => renewed current (.sequenced name)
      | none => current :=
  if_neg replaceable

/-- A tree changes the target to what it shows, or not at all. -/
theorem afterSequence_cases (current : Option Target) (tree : List Json) :
    afterSequence current tree = current ∨
      ∃ name, Sequence.target? tree = some name ∧
        afterSequence current tree = some (.sequenced name) := by
  unfold afterSequence
  split
  · exact .inl rfl
  · cases shown : Sequence.target? tree with
    | none => exact .inl rfl
    | some name =>
        dsimp only
        unfold renewed
        split
        · exact .inl rfl
        · exact .inr ⟨name, rfl, rfl⟩

/-- A target that was not announced gives way to what a tree shows, by whatever name. -/
theorem afterSequence_of_shown {current : Option Target} {tree : List Json} {name : String}
    (unannounced : ∀ start, current ≠ some (.announced start))
    (shown : Sequence.target? tree = some name) :
    afterSequence current tree = some (.sequenced name) := by
  rcases current with _ | (known | start)
  · simp [afterSequence, renewed, shown]
  · by_cases same : known = name <;>
      simp [afterSequence, renewed, shown, isAnnounced, Target.name, same]
  · exact absurd rfl (unannounced start)

/-- The target that is known once the monitor has started. -/
def atStart (history : List Event) (answer : Except Fault (List Json)) : Option Target :=
  (latest? history).or (answer.toOption.bind Sequence.target? |>.map .sequenced)

end Target

namespace Monitor

variable {W : Type}

namespace Scene

def withTarget (scene : Scene W) (target : Option Target) : Scene W :=
  scene.updated fun state => { state with target }

/-- The scene once an event is known, and the target that it may announce. -/
def withEvent (scene : Scene W) (event : Event) (seen : Seen) : Scene W :=
  (scene.jotted (.newEvent event)).updated fun state =>
    { state with
      seenEvents := seen
      target := Target.afterEvent state.target event }

/-- The scene once a tree is known, but not yet its target. -/
def withFlip (scene : Scene W) (tree : List Json) (flipHours : Option Binary64) : Scene W :=
  (scene.jotted (.sequence (.ok tree))).updated fun state =>
    { state with sequenceSeen := true, flipHours }

def withSequence (scene : Scene W) (tree : List Json) (flipHours : Option Binary64) : Scene W :=
  (scene.jotted (.sequence (.ok tree))).updated fun state =>
    { state with
      sequenceSeen := true
      flipHours
      target := Target.afterSequence state.target tree }

@[simp] theorem withTarget_self (scene : Scene W) :
    scene.withTarget scene.state.target = scene := rfl

end Scene

theorem yields_converted {α : Type} {result : Except Number.ConversionFault α}
    {before after : Scene W} {value : α} :
    Yields (Watcher.converted result) before value after ↔
      result = .ok value ∧ before = after := by
  unfold Watcher.converted
  cases result with
  | ok found =>
      change Yields (pure found) before value after ↔ _
      simp
  | error fault =>
      change Yields (throw (Fault.conversion fault)) before value after ↔ _
      simp

theorem yields_check {objection : Option Text.EncodingFault} {before after : Scene W}
    {value : Unit} :
    Yields (Watcher.check objection) before value after ↔ objection = none ∧ before = after := by
  cases objection with
  | none =>
      change Yields (pure ()) before value after ↔ _
      simp
  | some fault =>
      change Yields (throw (Fault.record fault)) before value after ↔ _
      simp

namespace Watcher

variable {watcher : Watcher (StateM W)} {before after : Scene W}

/-! ## A new target -/

theorem noteFlip_hushed {flipHours : Option Binary64} {value : Unit}
    (yields : Yields (watcher.witnessed.noteFlip flipHours) before value after) :
    Hushed before after := by
  cases flipHours with
  | none => exact .of_pure yields
  | some hours =>
      rw [noteFlip, yields_bind] at yields
      rcases yields with ⟨now, middle, asked, noted⟩
      exact (localTime_hushed asked).trans (note_hushed noted)

theorem noteTarget_hushed {target : Option Target} {value : Unit}
    (yields : Yields (watcher.witnessed.noteTarget target) before value after) :
    Hushed before after := by
  cases target with
  | none => exact .of_pure yields
  | some target => exact note_hushed yields

/-- A card about the target is sent if there is anybody to read it. -/
theorem reportTarget_posts {target : Target} {previous : Option Target}
    {flipHours : Option Binary64} {value : Unit}
    (yields : Yields (watcher.witnessed.reportTarget target previous flipHours)
      before value after) :
    (watcher.channels = [] ∧ after = before) ∨ ∃ mount now middle, Hushed before middle ∧
      Yields (watcher.witnessed.post (Card.newTarget target previous flipHours mount now))
        middle () after := by
  unfold reportTarget at yields
  rw [hasChannels_witnessed] at yields
  split at yields
  · simp only [yields_bind] at yields
    rcases yields with ⟨mount, first, asked, now, second, told, posted⟩
    exact .inr ⟨mount, now, second, (mount?_hushed asked).trans (localTime_hushed told), posted⟩
  next silent =>
    rw [hasChannels_iff, ne_eq, not_not] at silent
    exact .inl ⟨silent, (yields_pure.mp yields).2.symm⟩

/-- What becomes of a target that was heard of: one that is known by name is passed over, and any
other one takes the place of the former, of which the card tells if one is sent. -/
theorem update_cases {target : Target} {value : Unit}
    (yields : Yields (watcher.witnessed.update target) before value after) :
    (before.state.target.any (·.name == target.name) = true ∧ after = before) ∨
      before.state.target.any (·.name == target.name) = false ∧ ∃ middle,
        Hushed (before.withTarget (some target)) middle ∧
          ((watcher.channels = [] ∧ after = middle) ∨ ∃ flipHours mount now,
            Yields (watcher.witnessed.post
              (Card.newTarget target before.state.target flipHours mount now))
              middle () after) := by
  unfold update at yields
  rw [yields_bind] at yields
  rcases yields with ⟨state, same, got, yields⟩
  rcases yields_get.mp got with ⟨rfl, rfl⟩
  dsimp only at yields
  split at yields
  next known => exact .inl ⟨known, (yields_pure.mp yields).2.symm⟩
  next new =>
    simp only [yields_bind, yields_modify, yields_get] at yields
    rcases yields with ⟨_, _, rfl, _, noted, told, state, _, ⟨rfl, rfl⟩, _, flipped, flip, reported⟩
    have hushed : Hushed (before.withTarget (some target)) flipped :=
      (note_hushed told).trans (noteFlip_hushed flip)
    refine .inr ⟨by simpa using new, ?_⟩
    rcases reportTarget_posts reported with ⟨silent, rfl⟩ | ⟨mount, now, middle, asked, posted⟩
    · exact ⟨after, hushed, .inl ⟨silent, rfl⟩⟩
    · exact ⟨middle, hushed.trans asked, .inr ⟨_, mount, now, posted⟩⟩

/-- A target is reported as an aside, once it is taken note of. -/
theorem update_aside {target : Target} {value : Unit}
    (yields : Yields (watcher.witnessed.update target) before value after) :
    Aside (before.withTarget (Target.renewed before.state.target target)) after := by
  unfold Target.renewed
  rcases update_cases yields with ⟨known, rfl⟩ | ⟨new, middle, hushed, reported⟩
  · rw [if_pos known]
    exact .refl after
  · rw [if_neg (by simp [new])]
    rcases reported with ⟨_, rfl⟩ | ⟨flipHours, mount, now, posted⟩
    · exact .of_hushed hushed
    · exact (Aside.of_hushed hushed).trans
        (post_aside (Card.isOfImage_newTarget target _ flipHours mount now) posted)

/-! ## Events -/

/-- An autofocus run ends with its card or with no card. -/
theorem handleAutofocus_cases {value : Unit}
    (yields : Yields watcher.witnessed.handleAutofocus before value after) :
    Hushed before after ∨ ∃ result card middle, Card.autofocus result = .ok card ∧
      Hushed before middle ∧ Yields (watcher.witnessed.post card) middle () after := by
  unfold handleAutofocus at yields
  rw [yields_bind] at yields
  rcases yields with ⟨answer, middle, asked, yields⟩
  have first : Hushed before middle := .of_attempt (fun _ => rfl) asked
  cases answer with
  | error fault => exact .inl (first.trans (note_hushed yields))
  | ok result =>
      simp only [yields_bind, yields_converted] at yields
      rcases yields with ⟨change, _, ⟨_, rfl⟩, _, noted, told, yields⟩
      split at yields
      · simp only [yields_bind, yields_converted] at yields
        rcases yields with ⟨card, _, ⟨written, rfl⟩, posted⟩
        exact .inr ⟨result, card, noted, written, first.trans (note_hushed told), posted⟩
      · exact .inl (first.trans <| (note_hushed told).trans (.of_pure yields))

/-- The ways in which an event is dealt with. -/
inductive Handled (watcher : Watcher (StateM W)) (event : Event) (before after : Scene W) :
    Prop where
  | ignored (same : after = before)
      (silent : event.kind = Kind.targetStarted → Target.announcedBy? event = none)
  | started (start : TargetStart) (kind : event.kind = Kind.targetStarted)
      (announced : Target.announcedBy? event = some start)
      (yields : Yields (watcher.witnessed.update (.announced start)) before () after)
  | focused (other : event.kind ≠ Kind.targetStarted)
      (yields : Yields watcher.witnessed.handleAutofocus before () after)
  | moved (other : event.kind ≠ Kind.targetStarted) (kind : event.kind ∈ mountKinds)
      (mount : Option Mount) (middle : Scene W) (asked : Hushed before middle)
      (posted : Yields
        (watcher.witnessed.post (Card.mountEvent event before.state.target mount))
        middle () after)
  | told (other : event.kind ≠ Kind.targetStarted)
      (posted : Yields (watcher.witnessed.post (Card.event event)) before () after)

theorem handle_handled {event : Event} {value : Unit}
    (yields : Yields (watcher.witnessed.handle event) before value after) :
    Handled watcher event before after := by
  unfold handle at yields
  split at yields
  next started =>
    have kind := beq_iff_eq.mp started
    cases announced : Target.announcedBy? event with
    | some start =>
        rw [announced] at yields
        exact .started start kind announced yields
    | none =>
        rw [announced, yields_pure] at yields
        exact .ignored yields.2.symm fun _ => announced
  next other =>
    have other : event.kind ≠ Kind.targetStarted := by simpa using other
    have ignored (yields : Yields (pure ()) before value after) :
        Handled watcher event before after :=
      .ignored (yields_pure.mp yields).2.symm fun started => absurd started other
    split at yields
    · exact .focused other yields
    · split at yields
      next kind =>
        split at yields
        · simp only [yields_bind, yields_get] at yields
          rcases yields with ⟨mount, middle, asked, state, _, ⟨rfl, rfl⟩, posted⟩
          have hushed := mount?_hushed asked
          rw [hushed.state] at posted
          exact .moved other (by simpa using kind) mount middle hushed posted
        · exact ignored yields
      next =>
        split at yields
        · exact ignored yields
        · split at yields
          · exact .told other yields
          · exact ignored yields

/-- Dealing with an event is an aside but for the target that it announces. -/
theorem handle_aside {event : Event} {value : Unit}
    (yields : Yields (watcher.witnessed.handle event) before value after) :
    Aside (before.withTarget (Target.afterEvent before.state.target event)) after := by
  have same : event.kind ≠ Kind.targetStarted →
      before.withTarget (Target.afterEvent before.state.target event) = before := by
    intro other
    rw [Target.afterEvent, if_neg (by simpa using other), Scene.withTarget_self]
  cases handle_handled yields with
  | ignored unchanged silent =>
      subst after
      unfold Target.afterEvent
      split
      next started =>
        rw [silent (beq_iff_eq.mp started)]
        exact .refl before
      next => exact .refl before
  | started start kind announced yields =>
      rw [Target.afterEvent, if_pos (beq_iff_eq.mpr kind), announced]
      exact update_aside yields
  | focused other yields =>
      rw [same other]
      rcases handleAutofocus_cases yields with
        hushed | ⟨result, card, middle, written, hushed, posted⟩
      · exact .of_hushed hushed
      · exact (Aside.of_hushed hushed).trans (post_aside (Card.isOfImage_autofocus written) posted)
  | moved other kind mount middle asked posted =>
      rw [same other]
      exact (Aside.of_hushed asked).trans
        (post_aside (Card.isOfImage_mountEvent event before.state.target mount) posted)
  | told other posted =>
      rw [same other]
      exact post_aside (Card.isOfImage_event event) posted

theorem handleNoted_aside {event : Event} {value : Unit}
    (yields : Yields (watcher.handleNoted event) before value after) :
    Aside (before.withEvent event before.state.seenEvents) after := by
  rw [handleNoted, yields_bind] at yields
  rcases yields with ⟨_, middle, noted, handled⟩
  rw [← yields_lift_jot.mp noted] at handled
  exact handle_aside handled

/-- An event of the history can be identified. It is left alone if it says nothing or is known;
else it is remembered, once and for all, and dealt with. -/
theorem considerEvent_dealt {deal : Event → Watched W Unit} {event : Event} {value : Unit}
    (yields : Yields (watcher.witnessed.considerEvent deal event) before value after) :
    event.objection? = none ∧
      ((after = before ∧
          (event.changesNothing = true ∨
            event.fingerprint ∈ before.state.seenEvents.fingerprints)) ∨
        event.changesNothing = false ∧ ∃ seen world,
          before.state.seenEvents.add? event.fingerprint = some seen ∧
            Yields (deal event)
              ((before.updated fun state => { state with seenEvents := seen }).inWorld world)
              value after) := by
  unfold considerEvent at yields
  split at yields
  next silent =>
    rw [yields_pure] at yields
    exact ⟨if_pos silent, .inl ⟨yields.2.symm, .inl silent⟩⟩
  next telling =>
    simp only [yields_bind, yields_check, yields_get] at yields
    rcases yields with ⟨_, _, ⟨identified, rfl⟩, _, _, ⟨rfl, rfl⟩, yields⟩
    refine ⟨identified, ?_⟩
    cases added : before.state.seenEvents.add? event.fingerprint with
    | none =>
        rw [added, yields_pure] at yields
        exact .inl ⟨yields.2.symm, .inr (Seen.add?_eq_none.mp added)⟩
    | some seen =>
        simp only [added, yields_bind, yields_modify] at yields
        rcases yields with ⟨_, _, rfl, _, middle, noted, handled⟩
        rcases note_yields noted with ⟨world, rfl⟩
        exact .inr ⟨by simpa using telling, seen, world, rfl, handled⟩

/-- A new event is noted when it is dealt with. -/
theorem considerEvent_yields {event : Event} {value : Unit}
    (yields : Yields (watcher.witnessed.considerEvent watcher.handleNoted event)
      before value after) :
    (after = before ∧
        (event.changesNothing = true ∨
          event.fingerprint ∈ before.state.seenEvents.fingerprints)) ∨
      event.changesNothing = false ∧ ∃ seen,
        before.state.seenEvents.add? event.fingerprint = some seen ∧
          Aside (before.withEvent event seen) after := by
  rcases (considerEvent_dealt yields).2 with same | ⟨telling, seen, world, added, handled⟩
  · exact .inl same
  · exact .inr ⟨telling, seen, added,
      (Aside.of_world world).trans (handleNoted_aside handled)⟩

/-! ## Histories -/

/-- A history that cannot be had counts as an empty one; what came of the question is noted. -/
theorem historyOrNone_yields {α : Type} {history : Action (StateM W) (List α)}
    {entry : Except Fault (List α) → Entry} {subject : String} {entries : List α}
    (yields : Yields (watcher.witnessed.historyOrNone (noted entry history) subject)
      before entries after) :
    ∃ (answer : Except Imaging.Fault (List α)) (world : W),
      entries = answer.toOption.getD [] ∧
        after = (before.jotted (entry (answer.mapError .imaging))).inWorld world := by
  unfold historyOrNone at yields
  rw [yields_bind] at yields
  rcases yields with ⟨answer, middle, asked, yields⟩
  rcases yields_attempt_noted asked with ⟨world, rfl⟩
  cases answer with
  | ok history =>
      rw [yields_pure] at yields
      exact ⟨.ok history, world, yields.1.symm, yields.2.symm⟩
  | error fault =>
      simp only [yields_bind, yields_pure] at yields
      rcases yields with ⟨_, _, noted, rfl, rfl⟩
      rcases note_yields noted with ⟨later, rfl⟩
      exact ⟨.error fault, later, rfl, rfl⟩

/-! ## The sequence -/

theorem learnFlip_yields {tree : List Json} {value : Unit}
    (yields : Yields (learnFlip tree : Watched W Unit) before value after) :
    ∃ flipHours, Sequence.flipHours tree = .ok flipHours ∧
      after = before.updated fun state => { state with sequenceSeen := true, flipHours } := by
  simp only [learnFlip, yields_bind, yields_modify, yields_converted] at yields
  rcases yields with ⟨_, _, rfl, flipHours, _, ⟨read, rfl⟩, rfl⟩
  exact ⟨flipHours, read, rfl⟩

/-- What a look at the sequence comes to: it cannot be had, or it leaves the target as it is, or it
shows another one where none was announced. -/
theorem pollSequence_cases {value : Unit}
    (yields : Yields watcher.witnessed.pollSequence before value after) :
    (∃ fault world, after = (before.jotted (.sequence (.error (.imaging fault)))).inWorld world) ∨
      ∃ tree flipHours world, Sequence.flipHours tree = .ok flipHours ∧
        ((after = (before.withFlip tree flipHours).inWorld world ∧
            Target.afterSequence before.state.target tree = before.state.target) ∨
          ∃ name,
            Target.afterSequence before.state.target tree =
              Target.renewed before.state.target (.sequenced name) ∧
            Yields (watcher.witnessed.update (.sequenced name))
              ((before.withFlip tree flipHours).inWorld world) () after) := by
  unfold pollSequence at yields
  rw [yields_bind] at yields
  rcases yields with ⟨answer, middle, asked, yields⟩
  rcases yields_attempt_noted asked with ⟨world, rfl⟩
  cases answer with
  | error fault =>
      simp only [yields_bind, yields_get] at yields
      rcases yields with ⟨_, _, ⟨rfl, rfl⟩, yields⟩
      split at yields
      · rcases note_yields yields with ⟨later, rfl⟩
        exact .inl ⟨fault, later, rfl⟩
      · exact .inl ⟨fault, world, (yields_pure.mp yields).2.symm⟩
  | ok tree =>
      simp only [yields_bind, yields_get] at yields
      rcases yields with ⟨_, learned, learning, _, _, ⟨rfl, rfl⟩, yields⟩
      rcases learnFlip_yields learning with ⟨flipHours, read, rfl⟩
      refine .inr ⟨tree, flipHours, world, read, ?_⟩
      split at yields
      next announced =>
        exact .inl ⟨(yields_pure.mp yields).2.symm, Target.afterSequence_of_announced announced⟩
      next replaceable =>
        have replaceable : ¬ before.state.target.any (·.isAnnounced) = true := replaceable
        rw [Target.afterSequence_of_not_announced replaceable]
        cases shown : Sequence.target? tree with
        | some name =>
            rw [shown] at yields
            exact .inr ⟨name, rfl, yields⟩
        | none =>
            rw [shown, yields_pure] at yields
            exact .inl ⟨yields.2.symm, rfl⟩

/-- A sequence that cannot be had changes nothing. -/
theorem pollSequence_yields {value : Unit}
    (yields : Yields watcher.witnessed.pollSequence before value after) :
    (∃ fault, Aside (before.jotted (.sequence (.error (.imaging fault)))) after) ∨
      ∃ tree flipHours, Sequence.flipHours tree = .ok flipHours ∧
        Aside (before.withSequence tree flipHours) after := by
  rcases pollSequence_cases yields with
    ⟨fault, world, rfl⟩ | ⟨tree, flipHours, world, read, outcome⟩
  · exact .inl ⟨fault, .of_world world⟩
  · have taught : (before.withSequence tree flipHours).inWorld world =
        ((before.withFlip tree flipHours).inWorld world).withTarget
          (Target.afterSequence before.state.target tree) := rfl
    refine .inr ⟨tree, flipHours, read, (Aside.of_world world).trans ?_⟩
    rw [taught]
    rcases outcome with ⟨rfl, same⟩ | ⟨name, renewed, updated⟩
    · rw [same]
      exact .refl _
    · rw [renewed]
      exact update_aside updated

/-- What a tree that was obtained makes of the target. -/
theorem pollSequence_target {tree : List Json} {entries : Journal} {value : Unit}
    (yields : Yields watcher.witnessed.pollSequence before value after)
    (obtained : after.journal = before.journal ++ .sequence (.ok tree) :: entries) :
    after.state.target = Target.afterSequence before.state.target tree := by
  rcases pollSequence_yields yields with ⟨fault, aside⟩ | ⟨found, flipHours, _, aside⟩
  · rcases aside.journal with ⟨rest, journal, _⟩
    rw [obtained, Scene.journal_jotted, List.append_assoc] at journal
    cases List.append_cancel_left journal
  · rcases aside.journal with ⟨rest, journal, _⟩
    rw [obtained, Scene.withSequence, Scene.journal_updated, Scene.journal_jotted,
      List.append_assoc] at journal
    cases List.append_cancel_left journal
    exact aside.target

end Watcher

end Monitor

end ObservatoryWatch
