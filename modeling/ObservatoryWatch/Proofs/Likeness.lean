import ObservatoryWatch.Proofs.Course

/-!
Two monitors side by side.

A likeness relates what one monitor does to what another one does, in surroundings that may be of
different kinds. It has to respect how watches are composed, and to let both monitors learn the same
things; it may also keep track of the phases that both go through. Where two monitors report and
look alike, they are alike in all that they do: this is shown here once, along the program, for
every likeness there may be.
-/

namespace ObservatoryWatch.Monitor

open Observatory

variable {m n : Type → Type} [Monad m] [Monad n] {α β : Type}

/-! ## What a monitor knows -/

/-- All that the monitor remembers, but for its notifications. -/
structure Knowledge where
  seenEvents : Seen
  seenImages : Seen
  target : Option Target
  flipHours : Option Binary64
  sequenceSeen : Bool

namespace State

def knowledge (state : State) : Knowledge :=
  ⟨state.seenEvents, state.seenImages, state.target, state.flipHours, state.sequenceSeen⟩

def learned (change : Knowledge → Knowledge) (state : State) : State where
  gate := state.gate
  seenEvents := (change state.knowledge).seenEvents
  seenImages := (change state.knowledge).seenImages
  target := (change state.knowledge).target
  flipHours := (change state.knowledge).flipHours
  sequenceSeen := (change state.knowledge).sequenceSeen
  notificationsSent := state.notificationsSent

end State

/-! ## Likenesses -/

structure Likeness (m n : Type → Type) [Monad m] [Monad n] where
  /-- Two watches are alike and go through these phases. -/
  Alike : {α : Type} → List Phase → Watch m α → Watch n α → Prop
  pure {α : Type} (value : α) : Alike [] (pure value) (pure value)
  bind {α β : Type} {early late : List Phase} {left : Watch m α} {right : Watch n α}
    {leftNext : α → Watch m β} {rightNext : α → Watch n β} :
    Alike early left right → (∀ value, Alike late (leftNext value) (rightNext value)) →
      Alike (early ++ late) (left >>= leftNext) (right >>= rightNext)

namespace Likeness

variable (likeness : Likeness m n)

protected theorem andThen {phases : List Phase} {left : Watch m α} {right : Watch n α}
    {leftNext : α → Watch m β} {rightNext : α → Watch n β}
    (first : likeness.Alike [] left right)
    (next : ∀ value, likeness.Alike phases (leftNext value) (rightNext value)) :
    likeness.Alike phases (left >>= leftNext) (right >>= rightNext) :=
  likeness.bind first next

protected theorem andLast {phases : List Phase} {left : Watch m α} {right : Watch n α}
    {leftNext : α → Watch m β} {rightNext : α → Watch n β}
    (first : likeness.Alike phases left right)
    (next : ∀ value, likeness.Alike [] (leftNext value) (rightNext value)) :
    likeness.Alike phases (left >>= leftNext) (right >>= rightNext) := by
  have both := likeness.bind first next
  rw [List.append_nil] at both
  exact both

/-- Both ask, and with each sound answer they may go on alike. -/
def Asks (phases : List Phase) (sound : α → Prop) (left : Watch m α) (right : Watch n α) : Prop :=
  ∀ ⦃later : List Phase⦄ ⦃leftNext : α → Watch m Unit⦄ ⦃rightNext : α → Watch n Unit⦄,
    (∀ value, sound value → likeness.Alike later (leftNext value) (rightNext value)) →
      likeness.Alike (phases ++ later) (left >>= leftNext) (right >>= rightNext)

theorem asks_of_alike {phases : List Phase} {sound : α → Prop} {left : Watch m α}
    {right : Watch n α} (all : ∀ value, sound value) (alike : likeness.Alike phases left right) :
    likeness.Asks phases sound left right :=
  fun _ _ _ next => likeness.bind alike fun value => next value (all value)

protected theorem ite {phases : List Phase} {condition : Prop} [Decidable condition]
    {left leftOther : Watch m α} {right rightOther : Watch n α}
    (first : likeness.Alike phases left right)
    (second : likeness.Alike phases leftOther rightOther) :
    likeness.Alike phases (if condition then left else leftOther)
      (if condition then right else rightOther) := by
  split
  · exact first
  · exact second

protected theorem forM {left : α → Watch m PUnit} {right : α → Watch n PUnit} (entries : List α)
    (each : ∀ entry ∈ entries, likeness.Alike [] (left entry) (right entry)) :
    likeness.Alike [] (forM entries left) (forM entries right) := by
  induction entries with
  | nil => exact likeness.pure PUnit.unit
  | cons entry rest induction =>
      rcases List.forall_mem_cons.mp each with ⟨first, others⟩
      exact likeness.andThen first fun _ => induction others

end Likeness

/-- A result of which come none but certain faults. -/
def Tolerable (tolerated : Fault → Prop) (result : Except Number.ConversionFault α) : Prop :=
  ∀ fault, result = .error fault → tolerated (.conversion fault)

/-- An autofocus run, if there is one, of which nothing but certain faults come. -/
def SoundAutofocus (tolerated : Fault → Prop)
    (answer : Except Imaging.Fault Autofocus) : Prop :=
  ∀ result, answer = .ok result → Tolerable tolerated result.positionChange

/-- A sequence, if there is one, of which nothing but certain faults come. -/
def SoundSequence (tolerated : Fault → Prop) (answer : Except Imaging.Fault (List Json)) : Prop :=
  ∀ tree, answer = .ok tree → Tolerable tolerated (Sequence.flipHours tree)

/-- To writing an event down there are no objections but by certain faults. -/
def SoundEvent (tolerated : Fault → Prop) (event : Event) : Prop :=
  ∀ fault, event.objection? = some fault → tolerated (.record fault)

def SoundEvents (tolerated : Fault → Prop) (history : List Event) : Prop :=
  ∀ event ∈ history, SoundEvent tolerated event

/-- A history, if there is one, of events that are all sound. -/
def SoundHistory (tolerated : Fault → Prop) (answer : Except Imaging.Fault (List Event)) : Prop :=
  ∀ history, answer = .ok history → SoundEvents tolerated history

/-! Where every fault is tolerated, every answer is sound. -/

theorem soundAutofocus_true (answer : Except Imaging.Fault Autofocus) :
    SoundAutofocus (fun _ => True) answer := fun _ _ _ _ => trivial

theorem soundSequence_true (answer : Except Imaging.Fault (List Json)) :
    SoundSequence (fun _ => True) answer := fun _ _ _ _ => trivial

theorem soundEvents_true (history : List Event) : SoundEvents (fun _ => True) history :=
  fun _ _ _ _ => trivial

theorem soundHistory_true (answer : Except Imaging.Fault (List Event)) :
    SoundHistory (fun _ => True) answer := fun history _ => soundEvents_true history

/-- Both monitors know the same: they may learn it, have it in mind when they go on, and stumble
over what cannot be converted or written down, as far as this is tolerated. -/
structure Learning (likeness : Likeness m n) (tolerated : Fault → Prop) : Prop where
  throw {α : Type} {fault : Fault} : tolerated fault →
    likeness.Alike (α := α) [] (throw fault) (throw fault)
  read {α : Type} {left : State → Watch m α} {right : State → Watch n α} :
    (∀ state other : State, state.knowledge = other.knowledge →
      likeness.Alike [] (left state) (right other)) →
      likeness.Alike [] (get >>= left) (get >>= right)
  learn (change : Knowledge → Knowledge) :
    likeness.Alike [] (modify (State.learned change)) (modify (State.learned change))

namespace Learning

variable {likeness : Likeness m n} {tolerated : Fault → Prop}
  (learning : Learning likeness tolerated)
include learning

theorem converted {result : Except Number.ConversionFault α}
    (tolerable : Tolerable tolerated result) :
    likeness.Alike [] (Watcher.converted result) (Watcher.converted result) := by
  cases result with
  | ok value => exact likeness.pure value
  | error fault => exact learning.throw (tolerable fault rfl)

/-- After a conversion only its value has to be dealt with alike. -/
theorem convertedThen [LawfulMonad m] [LawfulMonad n] {left : α → Watch m β} {right : α → Watch n β}
    {result : Except Number.ConversionFault α} (tolerable : Tolerable tolerated result)
    (next : ∀ value, result = .ok value → likeness.Alike [] (left value) (right value)) :
    likeness.Alike [] (Watcher.converted result >>= left) (Watcher.converted result >>= right) := by
  cases result with
  | ok value =>
      have alike := next value rfl
      have leftStep : (Watcher.converted (.ok value) >>= left) = left value := pure_bind value left
      have rightStep : (Watcher.converted (.ok value) >>= right) = right value :=
        pure_bind value right
      rw [leftStep, rightStep]
      exact alike
  | error fault =>
      have stays : ∀ {k : Type → Type} [Monad k] [LawfulMonad k] (next : α → Watch k β),
          (Watcher.converted (.error fault) >>= next) =
            MonadExcept.throw (Fault.conversion fault) := by
        intro k _ _ next
        have failed := pure_bind (m := StateT State k)
          (Except.error (Fault.conversion fault)) (ExceptT.bindCont next)
        exact ExceptT.ext failed
      rw [stays, stays]
      exact learning.throw (tolerable fault rfl)

theorem check {objection : Option Text.EncodingFault}
    (tolerable : ∀ fault, objection = some fault → tolerated (.record fault)) :
    likeness.Alike [] (Watcher.check objection) (Watcher.check objection) := by
  cases objection with
  | none => exact likeness.pure ()
  | some fault => exact learning.throw (tolerable fault rfl)

theorem recordEvents {history : List Event} (sound : SoundEvents tolerated history) :
    likeness.Alike [] (Watcher.recordEvents history) (Watcher.recordEvents history) := by
  let identified := history.takeWhile (·.objection?.isNone)
  refine likeness.andThen (learning.learn fun known =>
    { known with seenEvents := identified.foldl Seen.addEvent known.seenEvents }) fun _ => ?_
  refine learning.check fun fault objected => ?_
  rcases List.exists_of_findSome?_eq_some objected with ⟨event, member, raised⟩
  exact sound event member fault raised

theorem learnFlip {tree : List Json} (tolerable : Tolerable tolerated (Sequence.flipHours tree)) :
    likeness.Alike [] (Watcher.learnFlip tree) (Watcher.learnFlip tree) := by
  refine likeness.andThen
    (learning.learn fun known => { known with sequenceSeen := true }) fun _ => ?_
  exact likeness.andThen (learning.converted tolerable) fun flipHours =>
    learning.learn fun known => { known with flipHours }

end Learning

namespace Watcher

/-! ## Parts of the program -/

/-- Reports what an autofocus run has come to. -/
def reportAutofocus (watcher : Watcher m) (result : Autofocus) : Watch m Unit := do
  if watcher.hasChannels then
    let card ← converted (Card.autofocus result)
    watcher.post card

/-- Reports an event of the mount. -/
def reportMove (watcher : Watcher m) (event : Event) : Watch m Unit := do
  if watcher.hasChannels then
    let mount ← watcher.mount?
    watcher.post (Card.mountEvent event (← get).target mount)

/-- Reports an event that has nothing to do with the mount. -/
def reportEvent (watcher : Watcher m) (event : Event) : Watch m Unit := do
  if watcher.hasChannels then watcher.post (Card.event event)

/-- What is left of the start when the images are there. -/
def finishBaseline (watcher : Watcher m) (images : List Image) : Watch m Unit := do
  modify fun state => { state with seenImages := images.foldl Seen.addImage state.seenImages }
  let state ← get
  watcher.note (.info ("Baseline: " ++ toString state.seenEvents.size ++ " events, " ++
    toString state.seenImages.size ++ " images"))
  watcher.noteTarget state.target
  watcher.greet

end Watcher

/-! ## Reports -/

/-- Two monitors that report alike. -/
structure Reports (likeness : Likeness m n) (tolerated : Fault → Prop)
    (left : Watcher m) (right : Watcher n) : Prop extends Learning likeness tolerated where
  note (record : Log.Record) : likeness.Alike [] (left.note record) (right.note record)
  noteFlip (flipHours : Option Binary64) :
    likeness.Alike [] (left.noteFlip flipHours) (right.noteFlip flipHours)
  autofocus : likeness.Asks [] (SoundAutofocus tolerated)
    (Watch.perform left.station.autofocus.attemptImaging)
    (Watch.perform right.station.autofocus.attemptImaging)
  reportTarget (target : Target) (previous : Option Target) (flipHours : Option Binary64) :
    likeness.Alike [] (left.reportTarget target previous flipHours)
      (right.reportTarget target previous flipHours)
  reportAutofocus (result : Autofocus) (change : Int) (known : result.positionChange = .ok change) :
    likeness.Alike [] (left.reportAutofocus result) (right.reportAutofocus result)
  reportMove (event : Event) :
    likeness.Alike [] (left.reportMove event) (right.reportMove event)
  reportEvent (event : Event) :
    likeness.Alike [] (left.reportEvent event) (right.reportEvent event)
  handleImage (index : Nat) (image : Image) :
    likeness.Alike [] (left.handleImage index image) (right.handleImage index image)
  greet : likeness.Alike [] left.greet right.greet

namespace Reports

variable {likeness : Likeness m n} {tolerated : Fault → Prop} {left : Watcher m}
  {right : Watcher n} (reports : Reports likeness tolerated left right)
include reports

theorem update (target : Target) :
    likeness.Alike [] (left.update target) (right.update target) := by
  refine reports.read fun state other same => ?_
  have current : state.target = other.target := congrArg Knowledge.target same
  rw [current]
  refine likeness.ite (likeness.pure ()) ?_
  refine likeness.andThen
    (reports.learn fun known => { known with target := some target }) fun _ => ?_
  refine likeness.andThen (reports.note _) fun _ => ?_
  refine reports.read fun state other same => ?_
  have hours : state.flipHours = other.flipHours := congrArg Knowledge.flipHours same
  rw [hours]
  exact likeness.andThen (reports.noteFlip _) fun _ => reports.reportTarget target _ _

theorem noteTarget (target : Option Target) :
    likeness.Alike [] (left.noteTarget target) (right.noteTarget target) := by
  cases target with
  | none => exact likeness.pure ()
  | some target => exact reports.note _

theorem handleAutofocus [LawfulMonad m] [LawfulMonad n] :
    likeness.Alike [] left.handleAutofocus right.handleAutofocus := by
  refine reports.autofocus fun answer tolerable => ?_
  cases answer with
  | error fault => exact reports.note _
  | ok result =>
      refine reports.convertedThen (tolerable result rfl) fun change known => ?_
      exact likeness.andThen (reports.note _) fun _ => reports.reportAutofocus result change known

theorem handle [LawfulMonad m] [LawfulMonad n] (event : Event) :
    likeness.Alike [] (left.handle event) (right.handle event) := by
  refine likeness.ite ?_ (likeness.ite reports.handleAutofocus (likeness.ite
    (reports.reportMove event) (likeness.ite (likeness.pure ()) (reports.reportEvent event))))
  cases Target.announcedBy? event with
  | some start => exact reports.update (.announced start)
  | none => exact likeness.pure ()

variable {dealLeft : Event → Watch m Unit} {dealRight : Event → Watch n Unit}

theorem considerEvent {event : Event} (sound : SoundEvent tolerated event)
    (deal : likeness.Alike [] (dealLeft event) (dealRight event)) :
    likeness.Alike [] (left.considerEvent dealLeft event)
      (right.considerEvent dealRight event) := by
  refine likeness.ite (likeness.pure ()) (likeness.andThen (reports.check sound) fun _ => ?_)
  refine reports.read fun state other same => ?_
  have remembered : state.seenEvents = other.seenEvents := congrArg Knowledge.seenEvents same
  rw [remembered]
  cases other.seenEvents.add? event.fingerprint with
  | none => exact likeness.pure ()
  | some seen =>
      refine likeness.andThen
        (reports.learn fun known => { known with seenEvents := seen }) fun _ => ?_
      exact likeness.andThen (reports.note _) fun _ => deal

theorem considerImage {dealLeft : Nat → Image → Watch m Unit}
    {dealRight : Nat → Image → Watch n Unit} (index : Nat) (image : Image)
    (deal : likeness.Alike [] (dealLeft index image) (dealRight index image)) :
    likeness.Alike [] (left.considerImage dealLeft index image)
      (right.considerImage dealRight index image) := by
  refine reports.read fun state other same => ?_
  have remembered : state.seenImages = other.seenImages := congrArg Knowledge.seenImages same
  rw [remembered]
  cases other.seenImages.add? image.fingerprint with
  | none => exact likeness.pure ()
  | some seen =>
      refine likeness.andThen
        (reports.learn fun known => { known with seenImages := seen }) fun _ => ?_
      exact likeness.andThen (reports.note _) fun _ => deal

/-- With a history that cannot be had both go on as with an empty one. -/
theorem historyOrNone [LawfulMonad m] [LawfulMonad n] {phases : List Phase}
    {leftHistory : Action m (List α)} {rightHistory : Action n (List α)} {sound : List α → Prop}
    (subject : String) (nothing : sound [])
    (look : likeness.Asks phases (fun answer => ∀ entries, answer = .ok entries → sound entries)
      (Watch.perform leftHistory.attemptImaging) (Watch.perform rightHistory.attemptImaging)) :
    likeness.Asks phases sound (left.historyOrNone leftHistory subject)
      (right.historyOrNone rightHistory subject) := by
  intro later leftNext rightNext next
  unfold Watcher.historyOrNone
  rw [bind_assoc, bind_assoc]
  refine look fun answer sound => ?_
  cases answer with
  | ok entries =>
      dsimp only
      rw [pure_bind, pure_bind]
      exact next entries (sound entries rfl)
  | error fault =>
      dsimp only
      rw [bind_assoc, bind_assoc]
      refine likeness.andThen (reports.note _) fun _ => ?_
      rw [pure_bind, pure_bind]
      exact next [] nothing

theorem finishBaseline (images : List Image) :
    likeness.Alike [] (left.finishBaseline images) (right.finishBaseline images) := by
  refine likeness.andThen (reports.learn fun known =>
    { known with seenImages := images.foldl Seen.addImage known.seenImages }) fun _ => ?_
  refine reports.read fun state other same => ?_
  have events : state.seenEvents = other.seenEvents := congrArg Knowledge.seenEvents same
  have images : state.seenImages = other.seenImages := congrArg Knowledge.seenImages same
  have target : state.target = other.target := congrArg Knowledge.target same
  rw [events, images, target]
  refine likeness.andThen (reports.note _) fun _ => ?_
  exact likeness.andThen (reports.noteTarget other.target) fun _ => reports.greet

end Reports

/-! ## Looks -/

namespace Watcher

/-- The phases of so many rounds. -/
def rounds : Nat → List Phase
  | 0 => []
  | 1 => [.sequence, .events, .images]
  | count + 2 => .sequence :: .events :: .images :: .pause :: rounds (count + 1)

/-- What the monitor does in a phase. -/
def look (watcher : Watcher m) : Phase → Watch m Unit
  | .sequence => watcher.pollSequence
  | .events => watcher.pollEvents
  | .images => watcher.pollImages
  | .pause => Watch.perform (watcher.world.sleep watcher.pollInterval)

/-- Rounds are looks in their order. -/
theorem ticks_eq [LawfulMonad m] (watcher : Watcher m) (count : Nat) :
    watcher.ticks count = (rounds count).forM watcher.look := by
  fun_induction rounds count with
  | case1 => rfl
  | case2 => simp [ticks, tick, look]
  | case3 count induction =>
      rw [ticks, induction]
      simp [tick, look]

end Watcher

/-- Two monitors that look at the same in each phase. -/
structure Looks (likeness : Likeness m n) (tolerated : Fault → Prop)
    (left : Watcher m) (right : Watcher n) : Prop where
  sequence : likeness.Asks [.sequence] (SoundSequence tolerated)
    (Watch.perform left.station.sequence.attemptImaging)
    (Watch.perform right.station.sequence.attemptImaging)
  events : likeness.Asks [.events] (SoundHistory tolerated)
    (Watch.perform left.station.events.attemptImaging)
    (Watch.perform right.station.events.attemptImaging)
  images : likeness.Alike [.images] (Watch.perform left.station.images.attemptImaging)
    (Watch.perform right.station.images.attemptImaging)
  pause : likeness.Alike [.pause] (Watch.perform (left.world.sleep left.pollInterval))
    (Watch.perform (right.world.sleep right.pollInterval))

namespace Looks

variable {likeness : Likeness m n} {tolerated : Fault → Prop} {left : Watcher m}
  {right : Watcher n} (looks : Looks likeness tolerated left right)
  (reports : Reports likeness tolerated left right)
include looks reports

theorem pollSequence : likeness.Alike [.sequence] left.pollSequence right.pollSequence := by
  refine looks.sequence fun answer tolerable => ?_
  cases answer with
  | error fault =>
      refine reports.read fun state other same => ?_
      have before : state.sequenceSeen = other.sequenceSeen :=
        congrArg Knowledge.sequenceSeen same
      rw [before]
      exact likeness.ite (reports.note _) (likeness.pure ())
  | ok tree =>
      refine likeness.andThen (reports.learnFlip (tolerable tree rfl)) fun _ => ?_
      refine reports.read fun state other same => ?_
      have current : state.target = other.target := congrArg Knowledge.target same
      rw [current]
      refine likeness.ite (likeness.pure ()) ?_
      cases Sequence.target? tree with
      | some name => exact reports.update (.sequenced name)
      | none => exact likeness.pure ()

theorem learnSequence : likeness.Alike [.sequence] left.learnSequence right.learnSequence := by
  refine looks.sequence fun answer tolerable => ?_
  cases answer with
  | error fault => exact reports.note _
  | ok tree =>
      refine likeness.andThen (reports.learnFlip (tolerable tree rfl)) fun _ => ?_
      refine reports.read fun state other same => ?_
      have current : state.target = other.target := congrArg Knowledge.target same
      rw [current]
      exact likeness.ite (reports.learn fun known =>
        { known with target := (Sequence.target? tree).map .sequenced }) (likeness.pure ())

theorem baseline
    (events : likeness.Asks [.events] (SoundEvents tolerated) (Watch.perform left.station.events)
      (Watch.perform right.station.events))
    (images : likeness.Alike [.images] (Watch.perform left.station.images)
      (Watch.perform right.station.images)) :
    likeness.Alike [.events, .sequence, .images] left.baseline right.baseline := by
  refine likeness.andThen (reports.note _) fun _ => events fun history sound => ?_
  refine likeness.andThen (reports.recordEvents sound) fun _ => ?_
  refine likeness.andThen
    (reports.learn fun known => { known with target := Target.latest? history }) fun _ => ?_
  refine likeness.bind (looks.learnSequence reports) fun _ => ?_
  exact likeness.andLast images reports.finishBaseline

variable [LawfulMonad m] [LawfulMonad n]

theorem pollEventsWith {dealLeft : Event → Watch m Unit} {dealRight : Event → Watch n Unit}
    (deal : ∀ event, likeness.Alike [] (dealLeft event) (dealRight event)) :
    likeness.Alike [.events] (left.pollEventsWith dealLeft) (right.pollEventsWith dealRight) := by
  have nothing : SoundEvents tolerated [] := by simp [SoundEvents]
  refine reports.historyOrNone "events" nothing looks.events fun history sound => ?_
  exact likeness.forM history fun event member =>
    reports.considerEvent (sound event member) (deal event)

theorem pollImagesWith {dealLeft : Nat → Image → Watch m Unit}
    {dealRight : Nat → Image → Watch n Unit}
    (deal : ∀ index image, likeness.Alike [] (dealLeft index image) (dealRight index image)) :
    likeness.Alike [.images] (left.pollImagesWith dealLeft) (right.pollImagesWith dealRight) := by
  have nothing : (fun _ : List Image => True) [] := trivial
  refine reports.historyOrNone "images" nothing
    (likeness.asks_of_alike (fun _ _ _ => trivial) looks.images) fun history _ => ?_
  exact likeness.forM history.zipIdx fun entry _ =>
    reports.considerImage entry.2 entry.1 (deal entry.2 entry.1)

theorem pollEvents : likeness.Alike [.events] left.pollEvents right.pollEvents :=
  looks.pollEventsWith reports reports.handle

theorem pollImages : likeness.Alike [.images] left.pollImages right.pollImages :=
  looks.pollImagesWith reports reports.handleImage

theorem tick : likeness.Alike [.sequence, .events, .images] left.tick right.tick := by
  refine likeness.bind (looks.pollSequence reports) fun _ => ?_
  exact likeness.bind (looks.pollEvents reports) fun _ => looks.pollImages reports

theorem ticks (count : Nat) :
    likeness.Alike (Watcher.rounds count) (left.ticks count) (right.ticks count) := by
  fun_induction Watcher.rounds count with
  | case1 => exact likeness.pure ()
  | case2 => exact looks.tick reports
  | case3 count induction =>
      refine likeness.bind (looks.tick reports) fun _ => ?_
      exact likeness.bind looks.pause fun _ => induction

/-- Alike from beginning to end, in the same phases. -/
theorem run
    (events : likeness.Asks [.events] (SoundEvents tolerated) (Watch.perform left.station.events)
      (Watch.perform right.station.events))
    (images : likeness.Alike [.images] (Watch.perform left.station.images)
      (Watch.perform right.station.images)) (limit : Option Nat) :
    likeness.Alike
      ([.events, .sequence, .images] ++ Watcher.rounds (limit.getD Watcher.endless))
      (left.run limit) (right.run limit) := by
  refine likeness.bind (looks.baseline reports events images) fun _ => ?_
  exact likeness.andLast (looks.ticks reports _) fun _ => likeness.pure _

end Looks

end ObservatoryWatch.Monitor
