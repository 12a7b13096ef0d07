import Mathlib.Data.List.Infix
import ObservatoryWatch.Proofs.Lockstep

/-!
What a watch leaves behind, however it ends.

A footprint tells what may become of a scene in so many phases, and by which faults a watch may end
before it has gone through all of them. A watch that keeps to a footprint is like itself in this
respect, so what is shown along the program for monitors side by side holds of footprints too.
-/

namespace ObservatoryWatch.Monitor

open Observatory

variable {W α β : Type}

/-- The action may end with this value. -/
def Returns (action : Action (StateM W) α) (value : α) : Prop :=
  ∃ world, (action.run.run world).1 = .ok value

/-- The action may end by this fault. -/
def Raises (action : Action (StateM W) α) (fault : Fault) : Prop :=
  ∃ world, (action.run.run world).1 = .error fault

structure Footprint (W : Type) where
  Leaves : List Phase → Scene W → Scene W → Prop
  Fails : Fault → Prop
  refl (scene : Scene W) : Leaves [] scene scene
  trans {early late : List Phase} {first second third : Scene W} :
    Leaves early first second → Leaves late second third → Leaves (early ++ late) first third

namespace Footprint

/-- An outcome and a scene that fit after these phases, or after the first of them and a fault. -/
def Fits (footprint : Footprint W) (phases : List Phase) (before : Scene W) :
    Except Fault α × Scene W → Prop
  | (.ok _, after) => footprint.Leaves phases before after
  | (.error fault, after) =>
    footprint.Fails fault ∧ ∃ reached, reached <+: phases ∧ footprint.Leaves reached before after

def Keeps (footprint : Footprint W) (phases : List Phase) (watch : Watched W α) : Prop :=
  ∀ scene, footprint.Fits phases scene (play watch scene)

variable (footprint : Footprint W)

theorem keeps_pure (value : α) : footprint.Keeps [] (pure value : Watched W α) := footprint.refl

/-- What follows has to keep to the footprint only after values that can come. -/
theorem keeps_bind_sound {early late : List Phase} {first : Watched W α} {next : α → Watched W β}
    {sound : α → Prop} (before : footprint.Keeps early first)
    (sounds : ∀ scene value, (play first scene).1 = .ok value → sound value)
    (after : ∀ value, sound value → footprint.Keeps late (next value)) :
    footprint.Keeps (early ++ late) (first >>= next) := by
  intro scene
  have led := before scene
  have comes := sounds scene
  rw [play_bind]
  generalize play first scene = halfway at led comes ⊢
  rcases halfway with ⟨fault | value, middle⟩
  · rcases led with ⟨fails, reached, some, leaves⟩
    exact ⟨fails, reached, some.trans (List.prefix_append early late), leaves⟩
  · have leads := after value (comes value rfl) middle
    dsimp only
    generalize play (next value) middle = finished at leads ⊢
    rcases finished with ⟨fault | _, last⟩
    · rcases leads with ⟨fails, reached, some, leaves⟩
      exact ⟨fails, early ++ reached, (List.prefix_append_right_inj early).mpr some,
        footprint.trans led leaves⟩
    · exact footprint.trans led leads

theorem keeps_bind {early late : List Phase} {first : Watched W α} {next : α → Watched W β}
    (before : footprint.Keeps early first) (after : ∀ value, footprint.Keeps late (next value)) :
    footprint.Keeps (early ++ late) (first >>= next) :=
  footprint.keeps_bind_sound before (fun _ _ _ => trivial) fun value (_ : True) => after value

theorem keeps_andLast {phases : List Phase} {first : Watched W α} {next : α → Watched W β}
    (before : footprint.Keeps phases first) (after : ∀ value, footprint.Keeps [] (next value)) :
    footprint.Keeps phases (first >>= next) := by
  have both := footprint.keeps_bind before after
  rw [List.append_nil] at both
  exact both

theorem keeps_andThen {phases : List Phase} {first : Watched W α} {next : α → Watched W β}
    (before : footprint.Keeps [] first) (after : ∀ value, footprint.Keeps phases (next value)) :
    footprint.Keeps phases (first >>= next) :=
  footprint.keeps_bind before after

theorem keeps_get {phases : List Phase} {next : State → Watched W α}
    (keeps : ∀ state, footprint.Keeps phases (next state)) :
    footprint.Keeps phases (get >>= next) :=
  fun scene => keeps scene.state scene

/-- A watch beside itself. -/
def alone : Likeness (Witnessed (StateM W)) (Witnessed (StateM W)) where
  Alike phases watch _ := footprint.Keeps phases watch
  pure := footprint.keeps_pure
  bind := footprint.keeps_bind

theorem keeps_discard {phases : List Phase} {watch : Watched W α}
    (keeps : footprint.Keeps phases watch) : footprint.Keeps phases (discard watch) :=
  footprint.keeps_andLast keeps fun _ => footprint.keeps_pure _

theorem keeps_perform_bind {first : Action (Witnessed (StateM W)) α}
    {next : α → Action (Witnessed (StateM W)) β}
    (before : footprint.Keeps [] (Watch.perform first))
    (after : ∀ value, footprint.Keeps [] (Watch.perform (next value))) :
    footprint.Keeps [] (Watch.perform (first >>= next)) := by
  rw [perform_bind]
  exact footprint.keeps_andThen before after

/-- An attempt fails only with the faults that it does not make part of its value. -/
theorem keeps_attempt {ε : Type} {select : Fault → Option ε} {phases : List Phase}
    {entry : Except Fault α → Entry} {action : Action (StateM W) α}
    (missed : ∀ fault, Raises action fault → select fault = none → footprint.Fails fault)
    (leaves : ∀ scene, footprint.Leaves phases scene
      (play (Watch.perform (noted entry action)) scene).2) :
    footprint.Keeps phases (Watch.perform ((noted entry action).attemptFor select)) := by
  intro scene
  rw [play_attemptFor]
  have passes (fault : Fault)
      (raised : (play (Watch.perform (noted entry action)) scene).1 = .error fault) :=
    missed fault ⟨scene.world, raised⟩
  have left := leaves scene
  generalize play (Watch.perform (noted entry action)) scene = ended at passes left ⊢
  rcases ended with ⟨fault | value, after⟩
  · simp only [Action.held]
    cases chosen : select fault with
    | none => exact ⟨passes fault rfl chosen, phases, List.prefix_refl phases, left⟩
    | some made => exact left
  · exact left

/-- Sending a card keeps to a footprint if giving it to each channel and complaining do. -/
theorem keeps_deliverAll {world : World (StateM W)} {card : Card}
    {image : Option Chat.Attachment}
    (log : ∀ record, footprint.Keeps []
      (liftM (StateT.lift (world.log record) : Witnessed (StateM W) Unit)))
    (channels : List (Chat.Channel (StateM W))) (position : Nat)
    (give : ∀ channel ∈ channels, ∀ position, footprint.Keeps [] (Watch.perform
      (noted (fun _ => .delivery position card image) (channel.deliver card image)).attempt)) :
    footprint.Keeps [] (Watch.perform (Chat.deliverAll (witnessedWorld world) card image
      (witnessedChannels position channels))) := by
  induction channels generalizing position with
  | nil => exact footprint.keeps_pure []
  | cons channel rest induction =>
      rcases List.forall_mem_cons.mp give with ⟨first, others⟩
      have given := first position
      rw [← deliver_witnessed] at given
      refine footprint.keeps_perform_bind given fun answer => ?_
      cases answer with
      | ok _ => exact induction (position + 1) others
      | error fault =>
          refine footprint.keeps_perform_bind (log _) fun _ => ?_
          exact footprint.keeps_perform_bind (induction (position + 1) others) fun others =>
            footprint.keeps_pure (channel.name :: others)

theorem keeps_deal {watcher : Watcher (StateM W)} {card : Card} {image : Option Chat.Attachment}
    (log : ∀ record, footprint.Keeps []
      (liftM (StateT.lift (watcher.world.log record) : Witnessed (StateM W) Unit)))
    (give : ∀ channel ∈ watcher.channels, ∀ position, footprint.Keeps [] (Watch.perform
      (noted (fun _ => .delivery position card image) (channel.deliver card image)).attempt))
    (count : footprint.Keeps [] (Watcher.countNotification : Watched W Unit)) :
    footprint.Keeps [] (watcher.witnessed.deal card image) :=
  footprint.keeps_andThen (footprint.keeps_discard (footprint.keeps_deliverAll log _ 0 give))
    fun _ => count

/-- However a watch ends, the footprint tells what it leaves. -/
theorem leaves_of_keeps {phases : List Phase} {watch : Watched W α}
    (keeps : footprint.Keeps phases watch) (scene : Scene W) :
    ∃ reached, footprint.Leaves reached scene (play watch scene).2 := by
  have fits := keeps scene
  generalize play watch scene = ended at fits ⊢
  rcases ended with ⟨_ | _, after⟩
  · exact fits.2.imp fun _ fits => fits.2
  · exact ⟨phases, fits⟩

theorem asks_of_keeps {phases : List Phase} {sound : α → Prop} {watch : Watched W α}
    (keeps : footprint.Keeps phases watch)
    (sounds : ∀ scene value, (play watch scene).1 = .ok value → sound value) :
    footprint.alone.Asks phases sound watch watch := by
  intro later next _ after
  exact footprint.keeps_bind_sound keeps sounds after

/-- What is learnt has to leave what may be left, and what is tolerated has to be among the
faults. -/
theorem alone_learning {tolerated : Fault → Prop}
    (tolerable : ∀ fault, tolerated fault → footprint.Fails fault)
    (learn : ∀ change scene, footprint.Leaves [] scene (scene.updated (State.learned change))) :
    Learning footprint.alone tolerated where
  throw {_ fault} sound scene :=
    ⟨tolerable fault sound, [], List.prefix_refl [], footprint.refl scene⟩
  read keeps scene := keeps scene.state scene.state rfl scene
  learn change scene := learn change scene

end Footprint

/-! ## Phases -/

def Entry.phase? : Entry → Option Phase
  | sequence _ => some .sequence
  | events _ => some .events
  | images _ => some .images
  | pause _ => some .pause
  | _ => none

/-- The phases that a journal tells of. -/
def Journal.phases (journal : Journal) : List Phase := journal.filterMap Entry.phase?

theorem Journal.phases_append (early late : Journal) :
    phases (early ++ late) = phases early ++ phases late :=
  List.filterMap_append

/-- The journal is continued, and its new lines tell of these phases; every pause is so long. -/
def GoesThrough (interval : Binary64) (phases : List Phase) (before after : Scene W) : Prop :=
  ∃ lines, after.journal = before.journal ++ lines ∧ Journal.phases lines = phases ∧
    ∀ seconds, .pause seconds ∈ lines → seconds = interval

theorem GoesThrough.of_same {interval : Binary64} {before after : Scene W}
    (same : after.journal = before.journal) : GoesThrough interval [] before after :=
  ⟨[], by rw [same, List.append_nil], rfl, by simp⟩

theorem GoesThrough.of_line {interval : Binary64} {phases : List Phase} {before after : Scene W}
    (entry : Entry) (journal : after.journal = before.journal ++ [entry])
    (told : Journal.phases [entry] = phases)
    (pause : ∀ seconds, entry = .pause seconds → seconds = interval) :
    GoesThrough interval phases before after :=
  ⟨[entry], journal, told, fun seconds member =>
    pause seconds (List.mem_singleton.mp member).symm⟩

/-- So many phases, and only some faults. -/
def phased (interval : Binary64) (fails : Fault → Prop) : Footprint W where
  Leaves := GoesThrough interval
  Fails := fails
  refl scene := .of_same rfl
  trans := by
    rintro early late first second third ⟨before, left, phases, pauses⟩
      ⟨after, right, others, rests⟩
    refine ⟨before ++ after, ?_, ?_, ?_⟩
    · rw [right, left, List.append_assoc]
    · rw [Journal.phases_append, phases, others]
    · intro seconds member
      exact (List.mem_append.mp member).elim (pauses seconds) (rests seconds)

section

variable {interval : Binary64} {fails : Fault → Prop}

theorem phased_lift (action : StateM W α) :
    (phased interval fails).Keeps []
      (liftM (StateT.lift action : Witnessed (StateM W) α) : Watched W α) :=
  fun _ => .of_same rfl

theorem phased_modify (change : State → State) :
    (phased interval fails).Keeps [] (modify change : Watched W PUnit) :=
  fun _ => .of_same rfl

theorem phased_perform {phases : List Phase} {entry : Except Fault α → Entry}
    {action : Action (StateM W) α} (raised : ∀ fault, Raises action fault → fails fault)
    (told : ∀ outcome, Journal.phases [entry outcome] = phases)
    (pause : ∀ outcome seconds, entry outcome = .pause seconds → seconds = interval) :
    (phased interval fails).Keeps phases (Watch.perform (noted entry action)) := by
  intro scene
  have passes : GoesThrough interval phases scene
      (play (Watch.perform (noted entry action)) scene).2 :=
    .of_line _ rfl (told _) (pause _)
  rw [play_noted] at passes ⊢
  generalize ended : (action.run.run scene.world).1 = outcome at passes ⊢
  cases outcome with
  | ok value => exact passes
  | error fault =>
      exact ⟨raised fault ⟨scene.world, ended⟩, phases, List.prefix_refl phases, passes⟩

theorem phased_attempt {ε : Type} {select : Fault → Option ε} {phases : List Phase}
    {entry : Except Fault α → Entry} {action : Action (StateM W) α}
    (missed : ∀ fault, Raises action fault → select fault = none → fails fault)
    (told : ∀ outcome, Journal.phases [entry outcome] = phases)
    (other : ∀ outcome seconds, entry outcome ≠ .pause seconds) :
    (phased interval fails).Keeps phases
      (Watch.perform ((noted entry action).attemptFor select)) :=
  Footprint.keeps_attempt _ missed fun _ =>
    .of_line _ rfl (told _) fun seconds same => absurd same (other _ seconds)

theorem eq_interrupted_of_failure? {fault : Fault} (passed : fault.failure? = none) :
    ∃ message, fault = .interrupted message := by
  cases fault <;> cases passed
  exact ⟨_, rfl⟩

theorem failure?_of_uninterrupted {action : Action (StateM W) α}
    (uninterrupted : ∀ message, ¬ Raises action (.interrupted message)) (fault : Fault)
    (raised : Raises action fault) : fault.failure? ≠ none := by
  intro passed
  rcases eq_interrupted_of_failure? passed with ⟨message, rfl⟩
  exact uninterrupted message raised

theorem returns_of_perform {entry : Except Fault α → Entry} {action : Action (StateM W) α}
    {scene : Scene W} {value : α}
    (found : (play (Watch.perform (noted entry action)) scene).1 = .ok value) :
    Returns action value :=
  ⟨scene.world, found⟩

/-- What an attempt finds was really returned. -/
theorem returns_of_attempt {ε : Type} {select : Fault → Option ε}
    {entry : Except Fault α → Entry} {action : Action (StateM W) α} {scene : Scene W} {value : α}
    (found : (play (Watch.perform ((noted entry action).attemptFor select)) scene).1 =
      .ok (.ok value)) : Returns action value := by
  rw [play_attemptFor, play_noted] at found
  refine ⟨scene.world, ?_⟩
  generalize (action.run.run scene.world).1 = outcome at found ⊢
  cases outcome with
  | ok other =>
      cases found
      rfl
  | error fault =>
      simp only [Action.held] at found
      cases chosen : select fault <;> simp [chosen] at found

/-- No single step goes through a phase, and only deliveries and thumbnails can be interrupted. -/
theorem phased_lockstep {watcher : Watcher (StateM W)}
    (delivery : ∀ channel ∈ watcher.channels, ∀ card image fault,
      Raises (channel.deliver card image) fault → fault.failure? = none → fails fault)
    (thumbnail : ∀ index : Nat, ∀ fault, Raises (watcher.station.thumbnail index none) fault →
      fault.failure? = none → fails fault) :
    Lockstep (phased interval fails).alone watcher.witnessed watcher.witnessed where
  channels := rfl
  note _ := phased_lift _
  clock _ := .of_line (.clock _) rfl rfl (by simp)
  localTime := phased_lift _
  timestamp := phased_lift _
  inspect := Footprint.keeps_get _
  regate _ := phased_modify _
  deal card image := Footprint.keeps_deal _ (fun _ => phased_lift _)
    (fun channel member _ =>
      phased_attempt (delivery channel member card image) (fun _ => rfl) (by simp))
    (phased_modify _)
  thumbnail index := phased_attempt (thumbnail index) (fun _ => rfl) (by simp)

end

/-! ## Faults that are not caught -/

/-- A monitor is exposed to no other faults than these, and what it is told converts and can be
written down with no others than tolerated ones. -/
structure Exposed (watcher : Watcher (StateM W)) (fails tolerated : Fault → Prop) : Prop where
  tolerable : ∀ fault, tolerated fault → fails fault
  delivery : ∀ channel ∈ watcher.channels, ∀ card image fault,
    Raises (channel.deliver card image) fault → fault.failure? = none → fails fault
  thumbnail : ∀ index : Nat, ∀ fault, Raises (watcher.station.thumbnail index none) fault →
    fault.failure? = none → fails fault
  mount : ∀ fault, Raises watcher.station.mount fault → fault.imaging? = none → fails fault
  autofocus : ∀ fault, Raises watcher.station.autofocus fault → fault.imaging? = none → fails fault
  sequence : ∀ fault, Raises watcher.station.sequence fault → fault.imaging? = none → fails fault
  events : ∀ fault, Raises watcher.station.events fault → fault.imaging? = none → fails fault
  images : ∀ fault, Raises watcher.station.images fault → fault.imaging? = none → fails fault
  sleep : ∀ fault, Raises (watcher.world.sleep watcher.pollInterval) fault → fails fault
  positionChange : ∀ result, Returns watcher.station.autofocus result →
    Tolerable tolerated result.positionChange
  flipHours : ∀ tree, Returns watcher.station.sequence tree →
    Tolerable tolerated (Sequence.flipHours tree)
  history : ∀ history, Returns watcher.station.events history → SoundEvents tolerated history

namespace Exposed

variable {fails tolerated : Fault → Prop} {watcher : Watcher (StateM W)} (exposed : Exposed watcher fails tolerated)
include exposed

theorem mono {others : Fault → Prop} (more : ∀ fault, fails fault → others fault) :
    Exposed watcher others tolerated where
  tolerable fault sound := more fault (exposed.tolerable fault sound)
  delivery channel member card image fault raised passed :=
    more fault (exposed.delivery channel member card image fault raised passed)
  thumbnail index fault raised passed := more fault (exposed.thumbnail index fault raised passed)
  mount fault raised passed := more fault (exposed.mount fault raised passed)
  autofocus fault raised passed := more fault (exposed.autofocus fault raised passed)
  sequence fault raised passed := more fault (exposed.sequence fault raised passed)
  events fault raised passed := more fault (exposed.events fault raised passed)
  images fault raised passed := more fault (exposed.images fault raised passed)
  sleep fault raised := more fault (exposed.sleep fault raised)
  positionChange := exposed.positionChange
  flipHours := exposed.flipHours
  history := exposed.history

theorem lockstep : Lockstep (phased watcher.pollInterval fails).alone watcher.witnessed
    watcher.witnessed :=
  phased_lockstep exposed.delivery exposed.thumbnail

theorem reports : Reports (phased watcher.pollInterval fails).alone tolerated watcher.witnessed
    watcher.witnessed := by
  have mount : (phased watcher.pollInterval fails).Keeps []
      (Watch.perform (noted .mount watcher.station.mount).attemptImaging) :=
    phased_attempt exposed.mount (fun _ => rfl) (by simp)
  have autofocus : (phased watcher.pollInterval fails).Keeps []
      (Watch.perform (noted .autofocus watcher.station.autofocus).attemptImaging) :=
    phased_attempt exposed.autofocus (fun _ => rfl) (by simp)
  refine exposed.lockstep.reports mount ?_ ?_
  · exact Footprint.alone_learning _ exposed.tolerable fun _ _ => .of_same rfl
  · refine Footprint.asks_of_keeps _ autofocus fun scene answer found => ?_
    rintro result rfl
    exact exposed.positionChange result (returns_of_attempt found)

theorem looks : Looks (phased watcher.pollInterval fails).alone tolerated watcher.witnessed
    watcher.witnessed where
  sequence := by
    have sequence : (phased watcher.pollInterval fails).Keeps [.sequence]
        (Watch.perform (noted .sequence watcher.station.sequence).attemptImaging) :=
      phased_attempt exposed.sequence (fun _ => rfl) (by simp)
    refine Footprint.asks_of_keeps _ sequence fun scene answer found => ?_
    rintro tree rfl
    exact exposed.flipHours tree (returns_of_attempt found)
  events := by
    have events : (phased watcher.pollInterval fails).Keeps [.events]
        (Watch.perform (noted .events watcher.station.events).attemptImaging) :=
      phased_attempt exposed.events (fun _ => rfl) (by simp)
    refine Footprint.asks_of_keeps _ events fun scene answer found => ?_
    rintro history rfl
    exact exposed.history history (returns_of_attempt found)
  images := phased_attempt exposed.images (fun _ => rfl) (by simp)
  pause := phased_perform exposed.sleep (fun _ => rfl) fun _ _ same => (Entry.pause.inj same).symm

/-- At the start nothing catches the faults of the two histories. -/
theorem run (events : ∀ fault, Raises watcher.station.events fault → fails fault)
    (images : ∀ fault, Raises watcher.station.images fault → fails fault) (limit : Option Nat) :
    (phased watcher.pollInterval fails).Keeps
      ([.events, .sequence, .images] ++ Watcher.rounds (limit.getD Watcher.endless))
      (watcher.witnessed.run limit) := by
  have asked : (phased watcher.pollInterval fails).Keeps [.events]
      (Watch.perform (noted .events watcher.station.events)) :=
    phased_perform events (fun _ => rfl) (by simp)
  have shown : (phased watcher.pollInterval fails).Keeps [.images]
      (Watch.perform (noted .images watcher.station.images)) :=
    phased_perform images (fun _ => rfl) (by simp)
  refine exposed.looks.run exposed.reports ?_ shown limit
  exact Footprint.asks_of_keeps _ asked fun scene history found =>
    exposed.history history (returns_of_perform found)

end Exposed

end ObservatoryWatch.Monitor
