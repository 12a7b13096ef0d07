import ObservatoryWatch.Chat.Setup
import ObservatoryWatch.Command.Arguments
import ObservatoryWatch.Command.Report
import ObservatoryWatch.Json.Writer
import ObservatoryWatch.Monitor.Watcher
import ObservatoryWatch.Settings.Basic

/-!
Carrying out a command.

Running the monitor needs channels and an imaging station; a query needs the station
only. Whatever was opened is closed again, also after a fault or an interruption.
-/

namespace ObservatoryWatch.Command

open Imaging

variable {m : Type → Type} [Monad m]

/-- How a command has ended. -/
inductive Ending where
  | done
  | wrongSettings
  | noChannels
  | noBaseline
  | noAnswer
  | noOutput
  deriving DecidableEq, Repr

/-- The exit code of the program. -/
def Ending.code : Ending → Nat
  | done => 0
  | wrongSettings => 2
  | noChannels => 3
  | noBaseline => 4
  | noAnswer => 5
  | noOutput => 6

/-- The world as seen by parts whose messages below a level are dropped. -/
def loggingFrom (level : Log.Level) (world : World m) : World m :=
  { world with
    log := fun record => if level ≤ record.level then world.log record else pure () }

def access (settings : Settings) : Access where
  host := settings.host
  timeout := settings.timeout
  retries := settings.retries
  retryDelay := .ofNat 1

/-- Ends a command because of how it was asked for. -/
def refuse (world : World m) (message : String) : Action m Ending := do
  world.log (.error message)
  return .wrongSettings

/-- Uses an imaging station and closes its client whatever comes of it. -/
def withStation {α : Type} (world : World m) (settings : Settings)
    (use : Station m → Action m α) : Action m α := do
  let client ← ((access settings).openClient world : m Http.Client)
  (use (Station.over world client (access settings))).andFinally
    (world.closeClient client : Action m Unit)

/-! ## The monitor -/

/-- Runs the monitor on a station, up to a number of rounds. -/
def watch (world : World m) (settings : Settings) (channels : List (Chat.Channel m))
    (limit : Option Nat) (station : Station m) : Action m Ending := do
  match Monitor.Gate.new? settings.imageCooldown with
  | none => throw (.unforeseen Monitor.Gate.refusal)
  | some gate =>
    let watcher : Monitor.Watcher m := ⟨world, station, channels, settings.pollInterval⟩
    let (result, state) ← ((watcher.run limit).run.run (.fresh gate) : m _)
    match result with
    | .ok ticks =>
      world.present (.line ("Completed " ++ toString ticks ++
        " tick(s); notifications sent=" ++ toString state.notificationsSent))
      return .done
    | .error (.imaging fault) =>
      world.log (.error ("Failed to initialize baseline: " ++ fault.message))
      return .noBaseline
    | .error fault => throw fault

/-- An interruption ends the monitor in good order. -/
def untilInterrupted (world : World m) (action : Action m Ending) : Action m Ending := .mk do
  match ← action.run with
  | .error (.interrupted _) =>
    world.log (.info "Interrupted; shutting down monitor")
    return .ok .done
  | outcome => return outcome

def startNotice (settings : Settings) : String :=
  "Starting monitor: " ++
    Json.write .ascii (Redaction.redactNested settings.summary).toJson

/-- Opens the channels; a channel that cannot be set up ends the command. -/
def withChannels (world : World m) (settings : Settings)
    (use : List (Chat.Channel m) → Action m Ending) : Action m Ending := do
  match ← (Chat.openAll world settings).attemptFor Fault.setup? with
  | .ok channels => (use channels).andFinally (Chat.closeAll world channels)
  | .error fault =>
    world.log (.error ("Chat channel setup failed (" ++ fault.service.name ++ "): " ++
      fault.message))
    return .noChannels

/-- The settings with an interval from the command line in place of their own. -/
def withInterval (settings : Settings) (interval : Option Binary64) : Settings :=
  { settings with pollInterval := interval.getD settings.pollInterval }

def runMonitor (world : World m) (settings : Settings) (interval : Option Binary64)
    (maxCycles : Option Int) : Action m Ending :=
  if interval.any (·.isAtMost 0) then refuse world "--interval must be > 0."
  else if maxCycles.any (· ≤ 0) then
    refuse world "--max-cycles must be > 0 when provided."
  else do
    let settings := withInterval settings interval
    world.log (.info (startNotice settings))
    withChannels world settings fun channels =>
      untilInterrupted world (withStation world settings
        (watch world settings channels (maxCycles.map Int.toNat)))

/-! ## Queries -/

/-- A query whose faults, where they are foreseen, end the command. -/
def answered (world : World m) (query : Action m Unit) : Action m Ending := .mk do
  match ← query.run with
  | .ok _ => return .ok .done
  | .error (.imaging fault) =>
    world.log (.error ("Imaging API failure: " ++ fault.message))
    return .ok .noAnswer
  | .error (.system message) =>
    world.log (.error ("Could not write output file: " ++ message))
    return .ok .noOutput
  | .error fault => return .error fault

def query (world : World m) (settings : Settings) (use : Station m → Action m Unit) :
    Action m Ending :=
  answered world (withStation world settings use)

def showEvents (world : World m) (count : Int) (station : Station m) : Action m Unit := do
  world.present (eventTable (← station.events) count)

def showImages (world : World m) (count : Int) (station : Station m) : Action m Unit := do
  world.present (imageTable (← station.images) count)

def showSequence (world : World m) (station : Station m) : Action m Unit := do
  let tree ← station.sequence
  let hours ← ofExcept ((Observatory.Sequence.flipHours tree).mapError Fault.conversion)
  world.present
    (.line ("Current target: " ++ (Observatory.Sequence.target? tree).getD "none"))
  let now ← world.localTime
  world.present (.line ("Meridian flip in: " ++
    match hours with
    | some hours => Meridian.clockText hours now
    | none => "unknown"))

def showAutofocus (world : World m) (station : Station m) : Action m Unit := do
  let result ← station.autofocus
  let table ← ofExcept ((autofocusTable result).mapError Fault.conversion)
  world.present table

def saveThumbnail (world : World m) (index : Int) (output : String)
    (imageType : Option String) (station : Station m) : Action m Unit := do
  let content ← station.thumbnail index imageType
  let path := plainPath output
  world.writeFile path content
  world.present (.line ("Thumbnail " ++ toString index ++ ": " ++ toString content.length ++
    " bytes, " ++ imageFormat content))
  world.present (.line ("Saved to " ++ path))

/-! ## All commands -/

def countRefusal : String := "--count must be > 0."

def indexRefusal : String := "Image index must be >= 0."

/-- Carries out a command under the given settings. -/
def execute (world : World m) (settings : Settings) : Order → Action m Ending
  | .run interval maxCycles => runMonitor world settings interval maxCycles
  | .events count =>
    if count ≤ 0 then refuse world countRefusal
    else query world settings (showEvents world count)
  | .images count =>
    if count ≤ 0 then refuse world countRefusal
    else query world settings (showImages world count)
  | .sequence => query world settings (showSequence world)
  | .lastAutofocus => query world settings (showAutofocus world)
  | .thumbnail index output imageType =>
    if index < 0 then refuse world indexRefusal
    else query world settings (saveThumbnail world index output imageType)

/-- Loads the settings and carries out a command under them. -/
def perform (world : World m) (environment : List (String × String)) (file : Option String)
    (command : Order) : Action m Ending :=
  match Settings.load environment file with
  | .ok settings =>
    execute (loggingFrom (.ofWord settings.logLevel) world) settings command
  | .error rejection =>
    refuse (loggingFrom .info world) ("Configuration failure: " ++ Settings.refusal rejection)

end ObservatoryWatch.Command
