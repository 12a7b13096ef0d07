import ObservatoryWatch.Proofs.Likeness

/-!
Monitors that take every step together.

Where each single step of one monitor has its like in a step of another one, and both have as many
channels, they also report alike.
-/

namespace ObservatoryWatch.Monitor

open Observatory

variable {m n : Type → Type} [Monad m] [Monad n]

theorem discard_bind [LawfulMonad m] {α β : Type} (first : m α) (next : PUnit → m β) :
    (discard first >>= next) = first >>= fun _ => next PUnit.unit := by
  simp [discard, map_const]

namespace Watcher

/-- Gives all channels a card, with an image or alone, and counts it. -/
def deal (watcher : Watcher m) (card : Card) (image : Option Chat.Attachment) : Watch m Unit := do
  discard (Watch.perform (Chat.deliverAll watcher.world card image watcher.channels))
  countNotification

/-- Gives all channels the card of an image, with its thumbnail if it can be had. -/
def dealWithImage (watcher : Watcher m) (card : Card) (index : Nat) : Watch m Unit := do
  match ← Watch.perform (watcher.station.thumbnail index none).attempt with
  | .ok content => watcher.deal card (some ⟨content, thumbnailName index⟩)
  | .error fault =>
    watcher.note (.warning ("Attachment " ++ thumbnailName index ++
      " unavailable, sending text only: " ++ Redaction.redact fault.message))
    watcher.deal card none

theorem deliverWithImage_eq [LawfulMonad m] (watcher : Watcher m)
    (listening : watcher.hasChannels = true) (card : Card) (index : Nat) :
    (do
      discard (Watch.perform (Chat.deliverWithImage watcher.world watcher.channels card
        (watcher.station.thumbnail index none) (thumbnailName index)))
      countNotification) = watcher.dealWithImage card index := by
  have some : watcher.channels.isEmpty = false := by
    simpa [hasChannels] using listening
  unfold Chat.deliverWithImage dealWithImage deal
  rw [some]
  simp only [Bool.false_eq_true, if_false, discard_bind, perform_bind, bind_assoc]
  refine congrArg _ (funext fun answer => ?_)
  cases answer with
  | ok content => rfl
  | error fault =>
      rw [perform_bind, bind_assoc]
      rfl

end Watcher

/-- But for the questions about the mount and the autofocus, each step of the one monitor has its
like in a step of the other one. -/
structure Lockstep (likeness : Likeness m n) (left : Watcher m) (right : Watcher n) : Prop where
  channels : left.channels.length = right.channels.length
  note (record : Log.Record) : likeness.Alike [] (left.note record) (right.note record)
  clock : likeness.Alike [] (liftM left.world.clock : Watch m Binary64)
    (liftM right.world.clock : Watch n Binary64)
  localTime : likeness.Alike [] (liftM left.world.localTime : Watch m Calendar.Moment)
    (liftM right.world.localTime : Watch n Calendar.Moment)
  timestamp : likeness.Alike [] (liftM left.world.timestamp : Watch m String)
    (liftM right.world.timestamp : Watch n String)
  /-- Both see all that the other one remembers. -/
  inspect {α : Type} {leftNext : State → Watch m α} {rightNext : State → Watch n α} :
    (∀ state, likeness.Alike [] (leftNext state) (rightNext state)) →
      likeness.Alike [] (get >>= leftNext) (get >>= rightNext)
  regate (change : Gate → Gate) :
    likeness.Alike [] (modify fun state => { state with gate := change state.gate })
      (modify fun state => { state with gate := change state.gate })
  deal (card : Card) (image : Option Chat.Attachment) :
    likeness.Alike [] (left.deal card image) (right.deal card image)
  thumbnail (index : Nat) :
    likeness.Alike [] (Watch.perform (left.station.thumbnail index none).attempt)
      (Watch.perform (right.station.thumbnail index none).attempt)

namespace Lockstep

variable {likeness : Likeness m n} {left : Watcher m} {right : Watcher n}
  (together : Lockstep likeness left right)
include together

theorem hasChannels : left.hasChannels = right.hasChannels := by
  have same := together.channels
  unfold Watcher.hasChannels
  cases leftChannels : left.channels <;> cases rightChannels : right.channels <;>
    simp [leftChannels, rightChannels] at same ⊢

theorem stamp (card : Card) : likeness.Alike [] (left.stamp card) (right.stamp card) :=
  likeness.andThen together.timestamp fun timestamp => likeness.pure (card.stampedAt timestamp)

theorem post (card : Card) : likeness.Alike [] (left.post card) (right.post card) :=
  likeness.andThen (together.stamp card) fun stamped => together.deal stamped none

theorem dealWithImage (card : Card) (index : Nat) :
    likeness.Alike [] (left.dealWithImage card index) (right.dealWithImage card index) := by
  refine likeness.andThen (together.thumbnail index) fun answer => ?_
  cases answer with
  | ok content => exact together.deal card _
  | error fault => exact likeness.andThen (together.note _) fun _ => together.deal card none

theorem noteFlip (flipHours : Option Binary64) :
    likeness.Alike [] (left.noteFlip flipHours) (right.noteFlip flipHours) := by
  cases flipHours with
  | none => exact likeness.pure ()
  | some hours => exact likeness.andThen together.localTime fun now => together.note _

theorem reportAutofocus [LawfulMonad m] [LawfulMonad n] {result : Autofocus} {change : Int}
    (known : result.positionChange = .ok change) :
    likeness.Alike [] (left.reportAutofocus result) (right.reportAutofocus result) := by
  rcases Card.autofocus_of_positionChange known with ⟨card, written⟩
  have step : ∀ {k : Type → Type} [Monad k] [LawfulMonad k] (watcher : Watcher k),
      (Watcher.converted (Card.autofocus result) >>= watcher.post) = watcher.post card := by
    intro k _ _ watcher
    rw [written]
    exact pure_bind card watcher.post
  unfold Watcher.reportAutofocus
  rw [together.hasChannels, step, step]
  exact likeness.ite (together.post card) (likeness.pure ())

theorem reportEvent (event : Event) :
    likeness.Alike [] (left.reportEvent event) (right.reportEvent event) := by
  unfold Watcher.reportEvent
  rw [together.hasChannels]
  exact likeness.ite (together.post _) (likeness.pure ())

theorem gateIsOpen : likeness.Alike [] left.gateIsOpen right.gateIsOpen := by
  refine together.inspect fun state => likeness.ite (likeness.pure true) ?_
  exact likeness.andThen together.clock fun reading =>
    likeness.pure (state.gate.isOpen reading)

theorem holdBack : likeness.Alike [] left.holdBack right.holdBack := by
  refine likeness.andThen (together.regate Gate.holdBack) fun _ => ?_
  refine together.inspect fun state => ?_
  exact likeness.andThen together.clock fun reading => together.note _

theorem reportImage [LawfulMonad m] [LawfulMonad n] (listening : left.hasChannels = true)
    (index : Nat) (image : Image) :
    likeness.Alike [] (left.reportImage index image) (right.reportImage index image) := by
  refine together.inspect fun before => likeness.andThen together.clock fun sentAt => ?_
  refine likeness.andThen (together.regate fun gate => gate.letPass sentAt) fun _ => ?_
  refine likeness.andThen together.localTime fun now => together.inspect fun state => ?_
  refine likeness.andThen (together.stamp _) fun card => ?_
  rw [left.deliverWithImage_eq listening,
    right.deliverWithImage_eq (together.hasChannels ▸ listening)]
  exact together.dealWithImage card index

theorem handleImage [LawfulMonad m] [LawfulMonad n] (index : Nat) (image : Image) :
    likeness.Alike [] (left.handleImage index image) (right.handleImage index image) := by
  unfold Watcher.handleImage
  rw [← together.hasChannels]
  cases listening : left.hasChannels with
  | false => exact likeness.pure ()
  | true =>
      refine likeness.andThen together.gateIsOpen fun opened => ?_
      exact likeness.ite (together.reportImage listening index image) together.holdBack

variable (mount : likeness.Alike [] (Watch.perform left.station.mount.attemptImaging)
  (Watch.perform right.station.mount.attemptImaging))
include mount

theorem mount? : likeness.Alike [] left.mount? right.mount? := by
  refine likeness.andThen mount fun answer => ?_
  cases answer with
  | ok mount => exact likeness.pure (some mount)
  | error fault => exact likeness.andThen (together.note _) fun _ => likeness.pure none

theorem reportTarget (target : Target) (previous : Option Target) (flipHours : Option Binary64) :
    likeness.Alike [] (left.reportTarget target previous flipHours)
      (right.reportTarget target previous flipHours) := by
  unfold Watcher.reportTarget
  rw [together.hasChannels]
  refine likeness.ite (likeness.andThen (together.mount? mount) fun mount => ?_) (likeness.pure ())
  exact likeness.andThen together.localTime fun now => together.post _

theorem reportMove (event : Event) :
    likeness.Alike [] (left.reportMove event) (right.reportMove event) := by
  unfold Watcher.reportMove
  rw [together.hasChannels]
  refine likeness.ite (likeness.andThen (together.mount? mount) fun mount => ?_) (likeness.pure ())
  exact together.inspect fun state => together.post _

theorem greet : likeness.Alike [] left.greet right.greet := by
  unfold Watcher.greet
  rw [together.hasChannels, together.channels]
  refine likeness.ite (likeness.andThen (together.mount? mount) fun mount => ?_) (likeness.pure ())
  refine likeness.andThen together.localTime fun now => together.inspect fun state => ?_
  exact together.post _

theorem reports [LawfulMonad m] [LawfulMonad n] {tolerated : Fault → Prop}
    (learning : Learning likeness tolerated)
    (autofocus : likeness.Asks [] (SoundAutofocus tolerated)
      (Watch.perform left.station.autofocus.attemptImaging)
      (Watch.perform right.station.autofocus.attemptImaging)) :
    Reports likeness tolerated left right where
  toLearning := learning
  note := together.note
  noteFlip := together.noteFlip
  autofocus := autofocus
  reportTarget := together.reportTarget mount
  reportAutofocus _ _ := together.reportAutofocus
  reportMove := together.reportMove mount
  reportEvent := together.reportEvent
  handleImage := together.handleImage
  greet := together.greet mount

end Lockstep

end ObservatoryWatch.Monitor
