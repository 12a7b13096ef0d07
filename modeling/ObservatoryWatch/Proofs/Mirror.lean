import ObservatoryWatch.Proofs.Lockstep

/-!
Watched or not, the monitor does the same.

The witness adds lines to the journal and does nothing else. So whatever the monitor does on its
own, it does under the eyes of the witness too, with the same outcome, the same memory and the
same surroundings in the end. What is shown for courses therefore holds of every run.
-/

namespace ObservatoryWatch.Monitor

open Observatory

variable {W α β : Type}

/-! ## Playing without a witness -/

/-- The outcome of a watch that nobody sees, and the memory and the surroundings that it leaves. -/
def playUnseen (watch : Watch (StateM W) α) (state : State) (world : W) :
    Except Fault α × State × W :=
  let ((outcome, state), world) := (watch.run.run state).run world
  (outcome, state, world)

theorem playUnseen_bind (first : Watch (StateM W) α) (next : α → Watch (StateM W) β)
    (state : State) (world : W) :
    playUnseen (first >>= next) state world =
      match playUnseen first state world with
      | (.ok value, state, world) => playUnseen (next value) state world
      | (.error fault, state, world) => (.error fault, state, world) := by
  unfold playUnseen ExceptT.run StateT.run
  simp only [bind, ExceptT.bind, ExceptT.mk, StateT.bind, ExceptT.bindCont]
  rcases first state world with ⟨⟨outcome, state⟩, world⟩
  cases outcome <;> rfl

/-- A watch that is seen comes to the same as one that is not. -/
def Mirrors (seen : Watched W α) (unseen : Watch (StateM W) α) : Prop :=
  ∀ scene, playUnseen unseen scene.state scene.world =
    ((play seen scene).1, (play seen scene).2.state, (play seen scene).2.world)

namespace Mirrors

protected theorem pure (value : α) : Mirrors (W := W) (pure value) (pure value) := fun _ => rfl

protected theorem throw (fault : Fault) :
    Mirrors (W := W) (α := α) (throw fault) (throw fault) := fun _ => rfl

protected theorem bind {seen : Watched W α} {unseen : Watch (StateM W) α}
    {seenNext : α → Watched W β} {unseenNext : α → Watch (StateM W) β}
    (first : Mirrors seen unseen) (next : ∀ value, Mirrors (seenNext value) (unseenNext value)) :
    Mirrors (seen >>= seenNext) (unseen >>= unseenNext) := by
  intro scene
  rw [playUnseen_bind, play_bind, first scene]
  rcases play seen scene with ⟨outcome, middle⟩
  cases outcome with
  | error fault => rfl
  | ok value => exact next value middle

protected theorem map {seen : Watched W α} {unseen : Watch (StateM W) α} (transform : α → β)
    (mirrors : Mirrors seen unseen) : Mirrors (transform <$> seen) (transform <$> unseen) :=
  mirrors.bind fun value => .pure (transform value)

protected theorem discard {seen : Watched W α} {unseen : Watch (StateM W) α}
    (mirrors : Mirrors seen unseen) : Mirrors (discard seen) (discard unseen) :=
  mirrors.map _

protected theorem forM {seen : α → Watched W PUnit} {unseen : α → Watch (StateM W) PUnit}
    (each : ∀ entry, Mirrors (seen entry) (unseen entry)) (entries : List α) :
    Mirrors (forM entries seen) (forM entries unseen) := by
  induction entries with
  | nil => exact .pure PUnit.unit
  | cons entry rest induction => exact (each entry).bind fun _ => induction

/-- A line of the journal is all that the witness adds. -/
theorem jotted (entry : Entry) {seen : Watched W α} {unseen : Watch (StateM W) α}
    (mirrors : Mirrors seen unseen) :
    Mirrors ((liftM (jot entry : Witnessed (StateM W) Unit) : Watched W Unit) >>= fun _ => seen)
      unseen := by
  intro scene
  rw [play_bind]
  exact mirrors (scene.jotted entry)

theorem lifted (action : StateM W α) :
    Mirrors (liftM (StateT.lift action : Witnessed (StateM W) α) : Watched W α)
      (liftM action : Watch (StateM W) α) := fun _ => rfl

theorem clock (world : World (StateM W)) :
    Mirrors (liftM (witnessedWorld world).clock : Watched W Binary64)
      (liftM world.clock : Watch (StateM W) Binary64) := fun _ => rfl

/-! ## Actions -/

theorem noted (entry : Except Fault α → Entry) (action : Action (StateM W) α) :
    Mirrors (Watch.perform (Monitor.noted entry action)) (Watch.perform action) := fun _ => rfl

theorem attempted {ε : Type} {select : Fault → Option ε}
    {seen : Action (Witnessed (StateM W)) α} {unseen : Action (StateM W) α}
    (mirrors : Mirrors (Watch.perform seen) (Watch.perform unseen)) :
    Mirrors (Watch.perform (seen.attemptFor select))
      (Watch.perform (unseen.attemptFor select)) := by
  intro scene
  have same := mirrors scene
  change (Action.held select (unseen scene.world).1, scene.state, (unseen scene.world).2) =
    (Action.held select (seen scene.journal scene.world).1.1, scene.state,
      (seen scene.journal scene.world).2)
  change ((unseen scene.world).1, scene.state, (unseen scene.world).2) =
    ((seen scene.journal scene.world).1.1, scene.state, (seen scene.journal scene.world).2) at same
  rw [Prod.mk.injEq, Prod.mk.injEq] at same
  rw [same.1, same.2.2]

theorem performed {seen : Action (Witnessed (StateM W)) α} {unseen : Action (StateM W) α}
    {seenNext : α → Action (Witnessed (StateM W)) β} {unseenNext : α → Action (StateM W) β}
    (first : Mirrors (Watch.perform seen) (Watch.perform unseen))
    (next : ∀ value,
      Mirrors (Watch.perform (seenNext value)) (Watch.perform (unseenNext value))) :
    Mirrors (Watch.perform (seen >>= seenNext)) (Watch.perform (unseen >>= unseenNext)) := by
  rw [perform_bind, perform_bind]
  exact first.bind next

end Mirrors

/-! ## Deliveries -/

theorem length_witnessedChannels (position : Nat) (channels : List (Chat.Channel (StateM W))) :
    (witnessedChannels position channels).length = channels.length :=
  witness.length_channels ..

theorem deliver_mirrors (channel : Chat.Channel (StateM W)) (position : Nat) (card : Card)
    (image : Option Chat.Attachment) :
    Mirrors (Watch.perform ((witnessedChannel position channel).deliver card image))
      (Watch.perform (channel.deliver card image)) := by
  rw [deliver_witnessed]
  exact .noted _ (channel.deliver card image)

theorem deliverAll_mirrors (world : World (StateM W)) (card : Card)
    (image : Option Chat.Attachment) (channels : List (Chat.Channel (StateM W)))
    (position : Nat) :
    Mirrors (Watch.perform (Chat.deliverAll (witnessedWorld world) card image
        (witnessedChannels position channels)))
      (Watch.perform (Chat.deliverAll world card image channels)) := by
  induction channels generalizing position with
  | nil => exact .pure []
  | cons channel rest induction =>
      refine .performed (.attempted (deliver_mirrors channel position card image)) ?_
      intro answer
      cases answer with
      | ok _ => exact induction (position + 1)
      | error fault =>
          refine .performed (.lifted _) fun _ => ?_
          exact .performed (induction (position + 1)) fun others =>
            .pure (channel.name :: others)

/-! ## The monitor -/

/-- The likeness of a monitor that is seen and one that is not. -/
def mirrored : Likeness (Witnessed (StateM W)) (StateM W) where
  Alike _ seen unseen := Mirrors seen unseen
  pure := .pure
  bind := .bind

theorem mirrored_learning : Learning (mirrored (W := W)) fun _ => True where
  throw _ := .throw _
  read alike scene := alike scene.state scene.state rfl scene
  learn _ _ := rfl

namespace Watcher

variable (watcher : Watcher (StateM W))

theorem mirrored_lockstep : Lockstep mirrored watcher.witnessed watcher where
  channels := length_witnessedChannels 0 watcher.channels
  note _ := .lifted _
  clock := .clock watcher.world
  localTime := .lifted _
  timestamp := .lifted _
  inspect alike scene := alike scene.state scene
  regate _ _ := rfl
  deal card image := by
    have delivered := deliverAll_mirrors watcher.world card image watcher.channels 0
    exact delivered.discard.bind fun _ _ => rfl
  thumbnail index := .attempted (.noted _ (watcher.station.thumbnail index none))

theorem mirrored_reports : Reports mirrored (fun _ => True) watcher.witnessed watcher :=
  watcher.mirrored_lockstep.reports (Mirrors.attempted (.noted _ watcher.station.mount))
    mirrored_learning <| mirrored.asks_of_alike soundAutofocus_true
      (Mirrors.attempted (.noted _ watcher.station.autofocus))

theorem mirrored_looks : Looks mirrored (fun _ => True) watcher.witnessed watcher where
  sequence := mirrored.asks_of_alike soundSequence_true
    (Mirrors.attempted (.noted _ watcher.station.sequence))
  events := mirrored.asks_of_alike soundHistory_true
    (Mirrors.attempted (.noted _ watcher.station.events))
  images := .attempted (.noted _ watcher.station.images)
  pause := .noted _ (watcher.world.sleep watcher.pollInterval)

theorem mirrored_events : mirrored.Asks [.events] (SoundEvents fun _ => True)
    (Watch.perform watcher.witnessed.station.events) (Watch.perform watcher.station.events) :=
  mirrored.asks_of_alike soundEvents_true (Mirrors.noted _ watcher.station.events)

theorem baseline_mirrors : Mirrors watcher.witnessed.baseline watcher.baseline :=
  watcher.mirrored_looks.baseline watcher.mirrored_reports watcher.mirrored_events
    (Mirrors.noted _ watcher.station.images)

/-- A run is the same whether it is seen or not. -/
theorem witnessed_run_mirrors (limit : Option Nat) :
    Mirrors (watcher.witnessed.run limit) (watcher.run limit) :=
  watcher.mirrored_looks.run watcher.mirrored_reports watcher.mirrored_events
    (Mirrors.noted _ watcher.station.images) limit

/-! ## The start and the rounds -/

/-- That new entries are noted when they are dealt with makes no difference either. -/
theorem phase_mirrors (phase : Phase) :
    Mirrors (watcher.phase phase) (watcher.look phase) := by
  have looks := watcher.mirrored_looks
  have reports := watcher.mirrored_reports
  cases phase with
  | sequence => exact looks.pollSequence reports
  | events =>
      exact looks.pollEventsWith reports fun event =>
        Mirrors.jotted (.newEvent event) (reports.handle event)
  | images =>
      exact looks.pollImagesWith reports fun index image =>
        Mirrors.jotted (.newImage index image) (reports.handleImage index image)
  | pause => exact looks.pause

/-- A run is a course, but for the number of rounds that it tells in the end. -/
theorem run_mirrors (limit : Option Nat) :
    Mirrors (watcher.course (rounds (limit.getD endless)) >>= fun _ => pure (limit.getD endless))
      (watcher.run limit) := by
  unfold course run
  rw [bind_assoc]
  refine (baseline_mirrors watcher).bind fun _ => ?_
  dsimp only
  rw [ticks_eq]
  exact (Mirrors.forM (phase_mirrors watcher) _).bind fun _ => .pure (limit.getD endless)

/-- Where a run ends without a fault is a stage of a course: nothing can be said about all
courses that does not hold of every run. -/
theorem run_reached {watcher : Watcher (StateM W)} {cooldown : Binary64} {gate : Gate}
    {limit : Option Nat} {count : Nat} {before after : W} {state : State}
    (fresh : Gate.new? cooldown = some gate)
    (ran : playUnseen (watcher.run limit) (.fresh gate) before = (.ok count, state, after)) :
    ∃ journal, Reached watcher ⟨⟨state, journal, after⟩, []⟩ := by
  -- The journal that the witness would have kept is empty at first, like any other.
  have seen := run_mirrors watcher limit (.fresh gate before)
  change playUnseen (watcher.run limit) (.fresh gate) before = _ at seen
  rw [ran] at seen
  generalize ended : play (watcher.course (rounds (limit.getD endless)) >>= fun _ =>
    pure (limit.getD endless)) (.fresh gate before) = outcome at seen
  rcases outcome with ⟨outcome, state, journal, world⟩
  cases seen
  rcases yields_bind.mp ended with ⟨_, middle, worked, last⟩
  rw [yields_pure] at last
  rcases last with ⟨_, rfl⟩
  exact ⟨journal, course_reached fresh worked⟩

end Watcher

end ObservatoryWatch.Monitor
