import ObservatoryWatch.Monitor.Watcher
import ObservatoryWatch.Proofs.Observer

/-!
A witness of what the monitor does.

The witness is an observer who writes down in a journal what was asked and answered, what
was given to which channel, and which entries of the histories were taken for new. The
surroundings do not see the journal, so it tells about the monitor without changing it.
-/

namespace ObservatoryWatch.Monitor

open Observatory

inductive Entry where
  | events (answer : Except Fault (List Event))
  | images (answer : Except Fault (List Image))
  | sequence (answer : Except Fault (List Json))
  | mount (answer : Except Fault Mount)
  | autofocus (answer : Except Fault Autofocus)
  | thumbnail (index : Int) (answer : Except Fault Bytes)
  | clock (reading : Binary64)
  | pause (seconds : Binary64)
  /-- A channel, known by its position, is given a card. -/
  | delivery (position : Nat) (card : Card) (image : Option Chat.Attachment)
  /-- An event is handed over as new. -/
  | newEvent (event : Event)
  /-- An image is handed over as new. -/
  | newImage (index : Nat) (image : Image)

/-- Everything noted so far, in the order in which it happened. -/
abbrev Journal := List Entry

/-- Actions under the eyes of a witness. -/
abbrev Witnessed (m : Type → Type) := StateT Journal m

variable {m : Type → Type} [Monad m] {α : Type}

def jot (entry : Entry) : Witnessed m Unit := modify (· ++ [entry])

def witness : Observer m (Witnessed m) Entry where
  lift := StateT.lift
  write := jot

/-- An action whose outcome the witness writes down. -/
def noted (entry : Except Fault α → Entry) (action : Action m α) : Action (Witnessed m) α :=
  witness.perform (some entry) action

/-! ## Witnessed surroundings -/

def witnessedWorld (world : World m) : World (Witnessed m) :=
  witness.world { slept := some .pause, clock := some .clock } world

def witnessedStation (station : Imaging.Station m) : Imaging.Station (Witnessed m) where
  version := witness.perform none station.version
  events := noted .events station.events
  images := noted .images station.images
  sequence := noted .sequence station.sequence
  mount := noted .mount station.mount
  autofocus := noted .autofocus station.autofocus
  thumbnail index imageType := noted (.thumbnail index) (station.thumbnail index imageType)

/-- A channel at a position; the witness notes what it is given, whatever comes of it. -/
def witnessedChannel (position : Nat) (channel : Chat.Channel m) : Chat.Channel (Witnessed m) :=
  witness.channel (fun card image _ => .delivery position card image) channel

def witnessedChannels (position : Nat) (channels : List (Chat.Channel m)) :
    List (Chat.Channel (Witnessed m)) :=
  witness.channels (fun position card image _ => .delivery position card image) position channels

theorem witnessedChannels_nil (position : Nat) :
    witnessedChannels position ([] : List (Chat.Channel m)) = [] := rfl

theorem witnessedChannels_cons (position : Nat) (channel : Chat.Channel m)
    (rest : List (Chat.Channel m)) :
    witnessedChannels position (channel :: rest) =
      witnessedChannel position channel :: witnessedChannels (position + 1) rest := rfl

namespace Watcher

def witnessed (watcher : Watcher m) : Watcher (Witnessed m) where
  world := witnessedWorld watcher.world
  station := witnessedStation watcher.station
  channels := witnessedChannels 0 watcher.channels
  pollInterval := watcher.pollInterval

/-- Notes that an event was handed over as new, and deals with it. -/
def handleNoted (watcher : Watcher m) (event : Event) : Watch (Witnessed m) Unit := do
  (jot (.newEvent event) : Witnessed m Unit)
  watcher.witnessed.handle event

/-- Notes that an image was handed over as new, and deals with it. -/
def handleImageNoted (watcher : Watcher m) (index : Nat) (image : Image) :
    Watch (Witnessed m) Unit := do
  (jot (.newImage index image) : Witnessed m Unit)
  watcher.witnessed.handleImage index image

end Watcher

/-! ## Reading the journal -/

namespace Journal

-- Histories that could not be had are left out.
def eventHistories (journal : Journal) : List (List Event) :=
  journal.filterMap fun
    | .events (.ok history) => some history
    | _ => none

def imageHistories (journal : Journal) : List (List Image) :=
  journal.filterMap fun
    | .images (.ok history) => some history
    | _ => none

def handedEvents (journal : Journal) : List Event :=
  journal.filterMap fun
    | .newEvent event => some event
    | _ => none

def handedImages (journal : Journal) : List Image :=
  journal.filterMap fun
    | .newImage _ image => some image
    | _ => none

def cardsAt (journal : Journal) (position : Nat) : List Card :=
  journal.filterMap fun
    | .delivery given card _ => if given = position then some card else none
    | _ => none

variable (early late : Journal)

@[simp] theorem eventHistories_append :
    eventHistories (early ++ late) = eventHistories early ++ eventHistories late :=
  List.filterMap_append

@[simp] theorem imageHistories_append :
    imageHistories (early ++ late) = imageHistories early ++ imageHistories late :=
  List.filterMap_append

@[simp] theorem handedEvents_append :
    handedEvents (early ++ late) = handedEvents early ++ handedEvents late :=
  List.filterMap_append

@[simp] theorem handedImages_append :
    handedImages (early ++ late) = handedImages early ++ handedImages late :=
  List.filterMap_append

end Journal

end ObservatoryWatch.Monitor
