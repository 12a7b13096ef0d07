import ObservatoryWatch.Chat.Channel

/-!
Observers.

An observer stands between a part of the program and its surroundings. Every question is handed on
and every answer back, and what seems worth a note is noted. The notes are a journal, a transcript
or a register; which of them are kept, and of what, is all that tells one observer from another.
-/

namespace ObservatoryWatch

/-- How something is done under an observer, and how a note is taken. -/
structure Observer (m n : Type → Type) (Note : Type) where
  lift {α : Type} : m α → n α
  write : Note → n Unit

/-- What is worth a note in a world, and which note. -/
structure Noteworthy (Note : Type) where
  opened : Option (Http.Client → Note) := none
  closed : Option (Http.Client → Note) := none
  exchanged :
    Option (Http.Request → Except Fault (Except Http.Failure Http.Response) → Note) := none
  slept : Option (Binary64 → Note) := none
  clock : Option (Binary64 → Note) := none
  logged : Option (Log.Record → Note) := none

namespace Observer

section

variable {m n : Type → Type} [Monad n] {Note α : Type} (observer : Observer m n Note)

/-- Does something and then takes a note of what has come of it, if it is worth one. -/
def observe : Option (α → Note) → m α → n α
  | none, step => observer.lift step
  | some note, step => do
    let value ← observer.lift step
    observer.write (note value)
    return value

/-- The note tells the fault of an action that fails. -/
def perform (note : Option (Except Fault α → Note)) (action : Action m α) : Action n α :=
  .mk (observer.observe note action.run)

/-- A world under an observer. -/
def world (noteworthy : Noteworthy Note) (world : World m) : World n where
  openClient timeout userAgent :=
    observer.observe noteworthy.opened (world.openClient timeout userAgent)
  closeClient client :=
    observer.observe (noteworthy.closed.map fun note _ => note client) (world.closeClient client)
  exchange client request :=
    observer.perform (noteworthy.exchanged.map fun note => note request)
      (world.exchange client request)
  sleep seconds :=
    observer.perform (noteworthy.slept.map fun note _ => note seconds) (world.sleep seconds)
  clock := observer.observe noteworthy.clock world.clock
  localTime := observer.lift world.localTime
  timestamp := observer.lift world.timestamp
  freshMark := observer.lift world.freshMark
  log record :=
    observer.observe (noteworthy.logged.map fun note _ => note record) (world.log record)
  present item := observer.perform none (world.present item)
  writeFile path content := observer.perform none (world.writeFile path content)

/-! ## Channels -/

/-- A channel of which everything that it is given is noted, with what has come of it. -/
def channel (note : Card → Option Chat.Attachment → Except Fault Unit → Note)
    (channel : Chat.Channel m) : Chat.Channel n where
  name := channel.name
  send card := observer.perform (some (note card none)) (channel.send card)
  sendWithImage card content filename :=
    observer.perform (some (note card (some ⟨content, filename⟩)))
      (channel.sendWithImage card content filename)
  close := observer.perform none channel.close

/-- Channels under one observer, who knows them by their positions. -/
def channels (note : Nat → Card → Option Chat.Attachment → Except Fault Unit → Note)
    (position : Nat) : List (Chat.Channel m) → List (Chat.Channel n)
  | [] => []
  | first :: rest =>
    observer.channel (note position) first :: channels note (position + 1) rest

theorem deliver_channel (note : Card → Option Chat.Attachment → Except Fault Unit → Note)
    (channel : Chat.Channel m) (card : Card) (image : Option Chat.Attachment) :
    (observer.channel note channel).deliver card image =
      observer.perform (some (note card image)) (channel.deliver card image) := by
  cases image <;> rfl

theorem names_channels (note : Nat → Card → Option Chat.Attachment → Except Fault Unit → Note)
    (position : Nat) (channels : List (Chat.Channel m)) :
    (observer.channels note position channels).map (·.name) = channels.map (·.name) := by
  induction channels generalizing position with
  | nil => rfl
  | cons first rest induction => exact congrArg (first.name :: ·) (induction (position + 1))

theorem length_channels (note : Nat → Card → Option Chat.Attachment → Except Fault Unit → Note)
    (position : Nat) (channels : List (Chat.Channel m)) :
    (observer.channels note position channels).length = channels.length := by
  have names := congrArg List.length (observer.names_channels note position channels)
  rwa [List.length_map, List.length_map] at names

end

/-! ## Notes beside the surroundings -/

section

variable {W Notes Note α : Type} (add : Notes → Note → Notes)

/-- The notes are kept beside the surroundings, where nobody in the program can read them. -/
def beside : Observer (StateM W) (StateM (W × Notes)) Note where
  lift step := fun (world, notes) =>
    let (value, world) := step world
    (value, world, notes)
  write note := fun (world, notes) => ((), world, add notes note)

/-- An observer only adds to the notes. -/
theorem beside_perform_run {action : Action (StateM W) α} {before after : W}
    {outcome : Except Fault α} (ran : action.run.run before = (outcome, after))
    (note : Except Fault α → Note) (notes : Notes) :
    ((beside add).perform (some note) action).run.run (before, notes) =
      (outcome, after, add notes (note outcome)) := by
  change ((action.run.run before).1, (action.run.run before).2,
    add notes (note (action.run.run before).1)) = _
  rw [ran]

end

end Observer

end ObservatoryWatch
