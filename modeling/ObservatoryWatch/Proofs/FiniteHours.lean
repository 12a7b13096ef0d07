import ObservatoryWatch.Proofs.FlipHours
import ObservatoryWatch.Proofs.Footprint

/-!
The hours that are remembered are finite.

Only the reading of a sequence ever changes the hours, and what it reads is a finite number. So
whatever the monitor does, and whether it comes to its end or is broken off, hours that were finite
are so again.
-/

namespace ObservatoryWatch.Monitor

open Observatory

variable {W α : Type}

/-! ## Parts of a look at the sequence -/

namespace Watcher

/-- What is done with a sequence once the hours are known. -/
def heed {m : Type → Type} [Monad m] (watcher : Watcher m) (tree : List Json) : Watch m Unit := do
  if (← get).target.any (·.isAnnounced) then return
  match Sequence.target? tree with
  | some name => watcher.update (.sequenced name)
  | none => return

theorem play_learnFlip_ok {tree : List Json} {hours : Option Binary64}
    (known : Sequence.flipHours tree = .ok hours) (scene : Scene W) :
    play (learnFlip tree : Watched W Unit) scene =
      (.ok (), scene.updated fun state =>
        { state with sequenceSeen := true, flipHours := hours }) := by
  unfold learnFlip
  rw [known]
  rfl

theorem play_learnFlip_error {tree : List Json} {fault : Number.ConversionFault}
    (failed : Sequence.flipHours tree = .error fault) (scene : Scene W) :
    play (learnFlip tree : Watched W Unit) scene =
      (.error (.conversion fault), scene.updated fun state =>
        { state with sequenceSeen := true }) := by
  unfold learnFlip
  rw [failed]
  rfl

end Watcher

/-- Where two monitors take each step together and hear of targets alike, they heed a sequence
alike. -/
theorem Lockstep.heed {m n : Type → Type} [Monad m] [Monad n] {likeness : Likeness m n}
    {left : Watcher m} {right : Watcher n} (together : Lockstep likeness left right)
    (update : ∀ target, likeness.Alike [] (left.update target) (right.update target))
    (tree : List Json) : likeness.Alike [] (left.heed tree) (right.heed tree) := by
  refine together.inspect fun state => likeness.ite (likeness.pure ()) ?_
  cases Sequence.target? tree with
  | some name => exact update _
  | none => exact likeness.pure ()

/-! ## The hours that are remembered -/

/-- The hours that are remembered, if any are, are a finite number. -/
def State.HoursFinite (state : State) : Prop :=
  ∀ hours, state.flipHours = some hours → hours.isFinite = true

/-- Whatever comes of a watch, hours that were finite are so again. -/
def finiteKept : Footprint W where
  Leaves _ before after := before.state.HoursFinite → after.state.HoursFinite
  Fails _ := True
  refl _ := id
  trans first second := second ∘ first

namespace FiniteKept

theorem perform {entry : Except Fault α → Entry} {action : Action (StateM W) α} :
    finiteKept.Keeps [] (Watch.perform (noted entry action)) := by
  intro scene
  rw [play_noted]
  cases (action.run.run scene.world).1 with
  | ok value => exact id
  | error fault => exact ⟨trivial, [], List.prefix_refl [], id⟩

theorem attempt {ε : Type} {select : Fault → Option ε} {entry : Except Fault α → Entry}
    {action : Action (StateM W) α} :
    finiteKept.Keeps [] (Watch.perform ((noted entry action).attemptFor select)) :=
  Footprint.keeps_attempt _ (fun _ _ _ => trivial) fun _ => id

theorem lift (action : StateM W α) :
    finiteKept.Keeps [] (liftM (StateT.lift action : Witnessed (StateM W) α) : Watched W α) :=
  fun _ => id

theorem jotted (entry : Entry) :
    finiteKept.Keeps [] (liftM (jot entry : Witnessed (StateM W) Unit) : Watched W Unit) :=
  fun _ => id

/-- A change that has nothing to do with the hours. -/
theorem aside {change : State → State}
    (same : ∀ state, (change state).flipHours = state.flipHours) :
    finiteKept.Keeps [] (modify change : Watched W PUnit) := by
  intro scene finite hours known
  exact finite hours ((same scene.state).symm.trans known)

variable (watcher : Watcher (StateM W))

theorem lockstep : Lockstep finiteKept.alone watcher.witnessed watcher.witnessed where
  channels := rfl
  note _ := lift _
  clock _ := id
  localTime := lift _
  timestamp := lift _
  inspect := Footprint.keeps_get _
  regate _ := aside fun _ => rfl
  deal _ _ := Footprint.keeps_deal _ (fun _ => lift _) (fun _ _ _ => attempt) (aside fun _ => rfl)
  thumbnail _ := attempt

/-!
### What is done for events and images

That monitors which report alike are alike in what they do does not help here. They are taken to
learn whatever there may be, also hours that are not finite, so the program is gone through with
the changes that it does make.
-/

theorem update (target : Target) :
    finiteKept.Keeps [] (watcher.witnessed.update target) := by
  have together := lockstep watcher
  have learnt : finiteKept.Keeps [] (modify fun state => { state with target := some target } :
    Watched W PUnit) := aside fun _ => rfl
  refine Footprint.keeps_get _ fun state => ?_
  dsimp only
  split
  · exact finiteKept.keeps_pure ()
  · refine finiteKept.keeps_andThen learnt fun _ => ?_
    refine finiteKept.keeps_andThen (together.note _) fun _ => ?_
    refine Footprint.keeps_get _ fun state => ?_
    exact finiteKept.keeps_andThen (together.noteFlip _) fun _ =>
      together.reportTarget attempt target _ _

theorem converted (result : Except Number.ConversionFault α) :
    finiteKept.Keeps [] (Watcher.converted result : Watched W α) := by
  cases result with
  | ok value => exact finiteKept.keeps_pure value
  | error fault => exact fun _ => ⟨trivial, [], List.prefix_refl [], id⟩

theorem check (objection : Option Text.EncodingFault) :
    finiteKept.Keeps [] (Watcher.check objection : Watched W Unit) := by
  cases objection with
  | none => exact finiteKept.keeps_pure ()
  | some fault => exact fun _ => ⟨trivial, [], List.prefix_refl [], id⟩

theorem handleAutofocus : finiteKept.Keeps [] watcher.witnessed.handleAutofocus := by
  have together := lockstep watcher
  refine finiteKept.keeps_andThen attempt fun answer => ?_
  cases answer with
  | error fault => exact together.note _
  | ok result =>
      refine finiteKept.keeps_andThen (converted _) fun change => ?_
      refine finiteKept.keeps_andThen (together.note _) fun _ => ?_
      split
      · exact finiteKept.keeps_andThen (converted _) fun card => together.post card
      · exact finiteKept.keeps_pure ()

theorem handle (event : Event) : finiteKept.Keeps [] (watcher.witnessed.handle event) := by
  have together := lockstep watcher
  unfold Watcher.handle
  split_ifs
  · cases Target.announcedBy? event with
    | some start => exact update watcher (.announced start)
    | none => exact finiteKept.keeps_pure ()
  · exact handleAutofocus watcher
  · refine finiteKept.keeps_andThen (together.mount? attempt) fun mount => ?_
    exact Footprint.keeps_get _ fun state => together.post _
  · exact finiteKept.keeps_pure ()
  · exact finiteKept.keeps_pure ()
  · exact together.post _
  · exact finiteKept.keeps_pure ()

theorem considerEvent (event : Event) :
    finiteKept.Keeps [] (watcher.witnessed.considerEvent watcher.handleNoted event) := by
  unfold Watcher.considerEvent
  split_ifs
  · exact finiteKept.keeps_pure ()
  · refine finiteKept.keeps_andThen (check _) fun _ => ?_
    refine Footprint.keeps_get _ fun state => ?_
    cases state.seenEvents.add? event.fingerprint with
    | none => exact finiteKept.keeps_pure ()
    | some seen =>
        refine finiteKept.keeps_andThen (aside fun _ => rfl) fun _ => ?_
        refine finiteKept.keeps_andThen ((lockstep watcher).note _) fun _ => ?_
        exact finiteKept.keeps_andThen (jotted _) fun _ => handle watcher event

theorem considerImage (index : Nat) (image : Image) :
    finiteKept.Keeps []
      (watcher.witnessed.considerImage watcher.handleImageNoted index image) := by
  refine Footprint.keeps_get _ fun state => ?_
  cases state.seenImages.add? image.fingerprint with
  | none => exact finiteKept.keeps_pure ()
  | some seen =>
      refine finiteKept.keeps_andThen (aside fun _ => rfl) fun _ => ?_
      refine finiteKept.keeps_andThen ((lockstep watcher).note _) fun _ => ?_
      exact finiteKept.keeps_andThen (jotted _) fun _ =>
        (lockstep watcher).handleImage index image

/-! ### Looks -/

theorem historyOrNone {entry : Except Fault (List α) → Entry} {history : Action (StateM W) (List α)}
    (subject : String) :
    finiteKept.Keeps [] (watcher.witnessed.historyOrNone (noted entry history) subject) := by
  refine finiteKept.keeps_andThen attempt fun answer => ?_
  cases answer with
  | ok entries => exact finiteKept.keeps_pure entries
  | error fault =>
      exact finiteKept.keeps_andThen ((lockstep watcher).note _) fun _ => finiteKept.keeps_pure []

/-- The hours that are read are finite, and these are the ones that are remembered. -/
theorem learnFlip (tree : List Json) :
    finiteKept.Keeps [] (Watcher.learnFlip tree : Watched W Unit) := by
  intro scene
  cases known : Sequence.flipHours tree with
  | error fault =>
      rw [Watcher.play_learnFlip_error known]
      exact ⟨trivial, [], List.prefix_refl [], id⟩
  | ok read =>
      rw [Watcher.play_learnFlip_ok known]
      -- What was remembered before does not matter: the hours that were read take its place.
      rintro _ hours rfl
      rcases Sequence.flipHours_eq_some_iff.mp known with ⟨_, _, found⟩
      exact found.isFinite

theorem pollSequence : finiteKept.Keeps [] watcher.witnessed.pollSequence := by
  refine finiteKept.keeps_andThen attempt fun answer => ?_
  cases answer with
  | error fault =>
      refine Footprint.keeps_get _ fun state => ?_
      split
      · exact (lockstep watcher).note _
      · exact finiteKept.keeps_pure ()
  | ok tree =>
      exact finiteKept.keeps_andThen (learnFlip tree) fun _ =>
        (lockstep watcher).heed (update watcher) tree

theorem learnSequence : finiteKept.Keeps [] watcher.witnessed.learnSequence := by
  refine finiteKept.keeps_andThen attempt fun answer => ?_
  cases answer with
  | error fault => exact (lockstep watcher).note _
  | ok tree =>
      refine finiteKept.keeps_andThen (learnFlip tree) fun _ => ?_
      refine Footprint.keeps_get _ fun state => ?_
      split
      · exact aside fun _ => rfl
      · exact finiteKept.keeps_pure ()

theorem phase (phase : Phase) : finiteKept.Keeps [] (watcher.phase phase) := by
  cases phase with
  | sequence => exact pollSequence watcher
  | events =>
      have each (event : Event) : finiteKept.alone.Alike [] _
          (watcher.witnessed.considerEvent watcher.handleNoted event) := considerEvent watcher event
      exact finiteKept.keeps_andThen (historyOrNone watcher "events") fun events =>
        finiteKept.alone.forM events fun event _ => each event
  | images =>
      have each (entry : Image × Nat) : finiteKept.alone.Alike [] _
          (watcher.witnessed.considerImage watcher.handleImageNoted entry.2 entry.1) :=
        considerImage watcher entry.2 entry.1
      exact finiteKept.keeps_andThen (historyOrNone watcher "images") fun images =>
        finiteKept.alone.forM images.zipIdx fun entry _ => each entry
  | pause => exact perform

theorem noteTarget (target : Option Target) :
    finiteKept.Keeps [] (watcher.witnessed.noteTarget target) := by
  cases target with
  | none => exact finiteKept.keeps_pure ()
  | some target => exact (lockstep watcher).note _

theorem baseline : finiteKept.Keeps [] watcher.witnessed.baseline := by
  have together := lockstep watcher
  refine finiteKept.keeps_andThen (together.note _) fun _ => ?_
  refine finiteKept.keeps_andThen perform fun events => ?_
  have recorded : finiteKept.Keeps [] (Watcher.recordEvents events : Watched W Unit) :=
    finiteKept.keeps_andThen (aside fun _ => rfl) fun _ => check _
  refine finiteKept.keeps_andThen recorded fun _ => ?_
  refine finiteKept.keeps_andThen (aside fun _ => rfl) fun _ => ?_
  refine finiteKept.keeps_andThen (learnSequence watcher) fun _ => ?_
  refine finiteKept.keeps_andThen perform fun images => ?_
  refine finiteKept.keeps_andThen (aside fun _ => rfl) fun _ => ?_
  refine Footprint.keeps_get _ fun state => ?_
  refine finiteKept.keeps_andThen (together.note _) fun _ => ?_
  refine finiteKept.keeps_andThen (noteTarget watcher state.target) fun _ => ?_
  exact together.greet attempt

end FiniteKept

/-! ## States there can be -/

/-- Something that the monitor does. -/
inductive Deed where
  | start
  | look (phase : Phase)
  | event (event : Event)
  | image (index : Nat) (image : Image)

def Watcher.deed (watcher : Watcher (StateM W)) : Deed → Watched W Unit
  | .start => watcher.witnessed.baseline
  | .look phase => watcher.phase phase
  | .event event => watcher.witnessed.considerEvent watcher.handleNoted event
  | .image index image => watcher.witnessed.considerImage watcher.handleImageNoted index image

/-- A scene that the monitor can come to. At first nothing is known; whatever is done then may end
by a fault, and something else may be done after it. -/
inductive Visited (watcher : Watcher (StateM W)) : Scene W → Prop where
  | fresh (gate : Gate) (world : W) : Visited watcher (.fresh gate world)
  | after {deed : Deed} {before after : Scene W} {outcome : Except Fault Unit}
      (earlier : Visited watcher before) (ended : Ends (watcher.deed deed) before outcome after) :
      Visited watcher after

theorem finiteKept_deed (watcher : Watcher (StateM W)) (deed : Deed) :
    finiteKept.Keeps [] (watcher.deed deed) := by
  cases deed with
  | start => exact FiniteKept.baseline watcher
  | look phase => exact FiniteKept.phase watcher phase
  | event event => exact FiniteKept.considerEvent watcher event
  | image index image => exact FiniteKept.considerImage watcher index image

theorem Visited.hoursFinite {watcher : Watcher (StateM W)} {scene : Scene W}
    (visited : Visited watcher scene) : scene.state.HoursFinite := by
  induction visited with
  | fresh gate world =>
      rintro hours known
      cases known
  | @after deed before after outcome _ ended finite =>
      rcases finiteKept.leaves_of_keeps (finiteKept_deed watcher deed) before with ⟨_, kept⟩
      have left : (play (watcher.deed deed) before).2 = after := congrArg Prod.snd ended
      exact left ▸ kept finite

end ObservatoryWatch.Monitor
