import ObservatoryWatch.Card.Notice
import ObservatoryWatch.Chat.Channel
import ObservatoryWatch.Imaging.Station
import ObservatoryWatch.Monitor.State

/-!
The monitor.

At the start everything in the histories counts as seen. Then every round looks at
the sequence, the events and the images, in this order, and reports what is new. A
history that cannot be had is left for the next round; only at the start the
histories of events and images are indispensable.
-/

namespace ObservatoryWatch.Monitor

open Observatory

variable {m : Type → Type} [Monad m]

/-- What the monitor works with. -/
structure Watcher (m : Type → Type) where
  world : World m
  station : Imaging.Station m
  channels : List (Chat.Channel m)
  pollInterval : Binary64

namespace Watcher

/-! ## Reporting -/

def note (watcher : Watcher m) (record : Log.Record) : Watch m Unit := watcher.world.log record

def hasChannels (watcher : Watcher m) : Bool := !watcher.channels.isEmpty

def countNotification : Watch m Unit :=
  modify fun state => { state with notificationsSent := state.notificationsSent + 1 }

def stamp (watcher : Watcher m) (card : Card) : Watch m Card := do
  return card.stampedAt (← watcher.world.timestamp)

/-- Sends a card to all channels. -/
def post (watcher : Watcher m) (card : Card) : Watch m Unit := do
  let stamped ← watcher.stamp card
  discard (Watch.perform (Chat.deliverAll watcher.world stamped none watcher.channels))
  countNotification

/-- The mount, if its state can be had. -/
def mount? (watcher : Watcher m) : Watch m (Option Mount) := do
  match ← Watch.perform watcher.station.mount.attemptImaging with
  | .ok mount => return some mount
  | .error fault =>
    watcher.note (.debug ("Mount info unavailable: " ++ fault.message))
    return none

/-- A conversion whose fault ends the round. -/
def converted {α : Type} (result : Except Number.ConversionFault α) : Watch m α :=
  ofExcept (result.mapError .conversion)

/-! ## The target -/

/-- Tells the log when the mount will flip, if that is known. -/
def noteFlip (watcher : Watcher m) : Option Binary64 → Watch m Unit
  | none => return
  | some hours => do
    let now ← watcher.world.localTime
    watcher.note (.info ("Meridian flip in " ++ Meridian.clockText hours now))

/-- Tells the log which target is worked on, if one is. -/
def noteTarget (watcher : Watcher m) : Option Target → Watch m Unit
  | none => return
  | some target =>
    watcher.note
      (.info ("Current target: " ++ target.name ++ " (from " ++ target.sourceLabel ++ ")"))

/-- Reports a target that has taken the place of another one, or of none. -/
def reportTarget (watcher : Watcher m) (target : Target) (previous : Option Target)
    (flipHours : Option Binary64) : Watch m Unit := do
  if watcher.hasChannels then
    let mount ← watcher.mount?
    let now ← watcher.world.localTime
    watcher.post (Card.newTarget target previous flipHours mount now)

/-- Takes note of a target and reports it, unless its name is known. -/
def update (watcher : Watcher m) (target : Target) : Watch m Unit := do
  let previous := (← get).target
  if previous.any (·.name == target.name) then return
  modify fun state => { state with target := some target }
  watcher.note (.info ("Target now " ++ target.name ++ " (from " ++ target.sourceLabel ++ ")"))
  let flipHours := (← get).flipHours
  watcher.noteFlip flipHours
  watcher.reportTarget target previous flipHours

/-- Learns the hours to the flip from the sequence. -/
def learnFlip (tree : List Json) : Watch m Unit := do
  modify fun state => { state with sequenceSeen := true }
  let flipHours ← converted (Sequence.flipHours tree)
  modify fun state => { state with flipHours }

/-- Looks at the sequence. A target that was announced is not replaced by one seen there. -/
def pollSequence (watcher : Watcher m) : Watch m Unit := do
  match ← Watch.perform watcher.station.sequence.attemptImaging with
  | .error fault =>
    if !(← get).sequenceSeen then
      watcher.note
        (.warning ("Error fetching sequence (will retry silently): " ++ fault.message))
  | .ok tree =>
    learnFlip tree
    if (← get).target.any (·.isAnnounced) then return
    match Sequence.target? tree with
    | some name => watcher.update (.sequenced name)
    | none => return

/-! ## Events -/

/-- A history, or nothing of it if it cannot be had. -/
def historyOrNone {α : Type} (watcher : Watcher m) (history : Action m (List α))
    (subject : String) : Watch m (List α) := do
  match ← Watch.perform history.attemptImaging with
  | .ok entries => return entries
  | .error fault =>
    watcher.note (.error ("Error fetching " ++ subject ++ ": " ++ fault.message))
    return []

def mountKinds : List String := [Kind.beforeFlip, Kind.afterFlip, Kind.parked]

def orElseText (text absent : String) : String := if text.isEmpty then absent else text

/-- An autofocus run has finished: its result is fetched and reported. -/
def handleAutofocus (watcher : Watcher m) : Watch m Unit := do
  match ← Watch.perform watcher.station.autofocus.attemptImaging with
  | .error fault => watcher.note (.error ("Failed to fetch autofocus data: " ++ fault.message))
  | .ok result =>
    let change ← converted result.positionChange
    watcher.note (.info ("Autofocus finished on " ++
      orElseText result.filter "unknown filter" ++ ": position change " ++ Number.withSign change ++
      ", best R² " ++ result.fits.best.toFixedText 4))
    if watcher.hasChannels then
      let card ← converted (Card.autofocus result)
      watcher.post card

/-- Deals with an event that was not seen before. -/
def handle (watcher : Watcher m) (event : Event) : Watch m Unit := do
  if event.kind == Kind.targetStarted then
    match Target.announcedBy? event with
    | some start => watcher.update (.announced start)
    | none => return
  else if event.kind == Kind.autofocusFinished then watcher.handleAutofocus
  else if mountKinds.contains event.kind then
    if watcher.hasChannels then
      let mount ← watcher.mount?
      watcher.post (Card.mountEvent event (← get).target mount)
  else if event.kind == Kind.imageSaved then return
  else if watcher.hasChannels then watcher.post (Card.event event)

/-- Goes on unless there is an objection to writing something down. -/
def check (objection : Option Text.EncodingFault) : Watch m Unit :=
  match objection with
  | some fault => throw (.record fault)
  | none => return

/-- Takes an event of the history into account; one that is new and says anything is dealt
with in the given way. -/
def considerEvent (watcher : Watcher m) (deal : Event → Watch m Unit) (event : Event) :
    Watch m Unit := do
  if event.changesNothing then return
  check event.objection?
  match (← get).seenEvents.add? event.fingerprint with
  | none => return
  | some seen =>
    modify fun state => { state with seenEvents := seen }
    watcher.note (.info ("New event " ++ event.kind ++ " at " ++ event.time))
    deal event

/-- Looks at the event history and deals in the given way with what is new in it. -/
def pollEventsWith (watcher : Watcher m) (deal : Event → Watch m Unit) : Watch m Unit := do
  let events ← watcher.historyOrNone watcher.station.events "events"
  events.forM (watcher.considerEvent deal)

def pollEvents (watcher : Watcher m) : Watch m Unit := watcher.pollEventsWith watcher.handle

/-! ## Images -/

def imageNotice (index : Nat) (image : Image) : String :=
  "New image " ++ toString index ++ " (" ++ image.imageType ++ ", " ++
    orElseText image.filter "no filter" ++ ") at " ++ image.timestamp

def thumbnailName (index : Nat) : String := "thumbnail_" ++ toString index ++ ".jpg"

/-- Holds an image back because another one was reported shortly before. -/
def holdBack (watcher : Watcher m) : Watch m Unit := do
  modify fun state => { state with gate := state.gate.holdBack }
  let remaining := (← get).gate.remaining (← watcher.world.clock)
  watcher.note (.info ("Skipping image notification (cooldown: " ++
    remaining.toFixedText 0 ++ "s remaining)"))

/-- Reports an image together with its thumbnail. -/
def reportImage (watcher : Watcher m) (index : Nat) (image : Image) : Watch m Unit := do
  let skipped := (← get).gate.suppressed
  let sentAt ← watcher.world.clock
  modify fun state => { state with gate := state.gate.letPass sentAt }
  let now ← watcher.world.localTime
  let state ← get
  let card ← watcher.stamp (Card.image image state.target skipped state.flipHours now)
  discard (Watch.perform (Chat.deliverWithImage watcher.world watcher.channels card
    (watcher.station.thumbnail index none) (thumbnailName index)))
  countNotification

/-- Whether the gate lets an image pass now; one that has let none pass needs no clock. -/
def gateIsOpen (watcher : Watcher m) : Watch m Bool := do
  let gate := (← get).gate
  if gate.lastSentAt.isNone then return true
  return gate.isOpen (← watcher.world.clock)

/-- Deals with an image that was not seen before. -/
def handleImage (watcher : Watcher m) (index : Nat) (image : Image) : Watch m Unit := do
  if watcher.hasChannels then
    if ← watcher.gateIsOpen then watcher.reportImage index image
    else watcher.holdBack

/-- Takes an image of the history into account; a new one is dealt with in the given way. -/
def considerImage (watcher : Watcher m) (deal : Nat → Image → Watch m Unit) (index : Nat)
    (image : Image) : Watch m Unit := do
  match (← get).seenImages.add? image.fingerprint with
  | none => return
  | some seen =>
    modify fun state => { state with seenImages := seen }
    watcher.note (.info (imageNotice index image))
    deal index image

/-- Looks at the image history and deals in the given way with what is new in it. -/
def pollImagesWith (watcher : Watcher m) (deal : Nat → Image → Watch m Unit) :
    Watch m Unit := do
  let images ← watcher.historyOrNone watcher.station.images "images"
  images.zipIdx.forM fun (image, index) => watcher.considerImage deal index image

def pollImages (watcher : Watcher m) : Watch m Unit :=
  watcher.pollImagesWith watcher.handleImage

/-! ## The start -/

/-- Learns what the sequence tells at the start. -/
def learnSequence (watcher : Watcher m) : Watch m Unit := do
  match ← Watch.perform watcher.station.sequence.attemptImaging with
  | .error fault =>
    watcher.note
      (.warning ("Could not load sequence during initialization: " ++ fault.message))
  | .ok tree =>
    learnFlip tree
    if (← get).target.isNone then
      modify fun state => { state with target := (Sequence.target? tree).map .sequenced }

/-- Greets the chat with what is known at the start. -/
def greet (watcher : Watcher m) : Watch m Unit := do
  if watcher.hasChannels then
    let mount ← watcher.mount?
    let now ← watcher.world.localTime
    let state ← get
    watcher.post (Card.welcome state.target state.seenEvents.size state.seenImages.size
      watcher.channels.length state.flipHours mount now)

/-- Takes the events of a history as seen, up to the first that cannot be identified. -/
def recordEvents (events : List Event) : Watch m Unit := do
  let identified := events.takeWhile (·.objection?.isNone)
  modify fun state =>
    { state with seenEvents := identified.foldl Seen.addEvent state.seenEvents }
  check (events.findSome? Event.objection?)

/-- Takes everything in the histories as seen and learns the current target. -/
def baseline (watcher : Watcher m) : Watch m Unit := do
  watcher.note (.info "Fetching initial baseline")
  let events ← Watch.perform watcher.station.events
  recordEvents events
  modify fun state => { state with target := Target.latest? events }
  watcher.learnSequence
  let images ← Watch.perform watcher.station.images
  modify fun state => { state with seenImages := images.foldl Seen.addImage state.seenImages }
  let state ← get
  watcher.note (.info ("Baseline: " ++ toString state.seenEvents.size ++ " events, " ++
    toString state.seenImages.size ++ " images"))
  watcher.noteTarget state.target
  watcher.greet

/-! ## Rounds -/

/-- One round. -/
def tick (watcher : Watcher m) : Watch m Unit := do
  watcher.pollSequence
  watcher.pollEvents
  watcher.pollImages

/-- So many rounds with a pause between each two. -/
def ticks (watcher : Watcher m) : Nat → Watch m Unit
  | 0 => return
  | 1 => watcher.tick
  | count + 2 => do
    watcher.tick
    Watch.perform (watcher.world.sleep watcher.pollInterval)
    watcher.ticks (count + 1)

/-- More rounds than any run lives to see. -/
def endless : Nat := Nat.pow 2 64

/-- The start and then rounds, up to a limit if there is one; the number of rounds. -/
def run (watcher : Watcher m) (limit : Option Nat) : Watch m Nat := do
  watcher.baseline
  let count := limit.getD endless
  watcher.ticks count
  return count

end Watcher

end ObservatoryWatch.Monitor
