import ObservatoryWatch.Command.Execution
import ObservatoryWatch.Http.Relay
import Std.Time.DateTime.Timestamp
import Std.Time.Zoned

/-!
The program: a command of the command line, carried out in the real world.

Log lines go to the standard error stream and what is shown to a person goes to the
standard output stream. Requests go through a relay, whose two named pipes begin with
the value of an environment variable; without one every exchange fails.
-/

namespace ObservatoryWatch.Program

open Calendar

/-- The variable that names the relay. -/
def relayName : String := "OBSERVATORY_WATCH_RELAY"

/-- The pipes of a relay. -/
structure RelayPipes where
  requests : IO.FS.Handle
  replies : IO.FS.Handle

def openRelay : IO (Option RelayPipes) := do
  match ← IO.getEnv relayName with
  | none => return none
  | some place =>
    let requests ← IO.FS.Handle.mk (place ++ ".requests") .write
    let replies ← IO.FS.Handle.mk (place ++ ".replies") .read
    return some ⟨requests, replies⟩

/-- Does something that the operating system may refuse. -/
def refusable {α : Type} (action : IO α) : Action IO α := .mk do
  try return .ok (← action)
  catch refusal => return .error (.system (toString refusal))

def exchange (relay : Option RelayPipes) (client : Http.Client) (request : Http.Request) :
    Action IO (Except Http.Failure Http.Response) := do
  match relay with
  | none => return .error Http.Relay.missing
  | some relay =>
    let line ← refusable do
      relay.requests.putStrLn (Http.Relay.requestText client request)
      relay.requests.flush
      relay.replies.getLine
    ofExcept (Http.Relay.outcome line)

/-! ## Clocks -/

/-- A count of nanoseconds in seconds. -/
def secondsOf (nanoseconds : Nat) : Binary64 :=
  .ofRatio false (nanoseconds * Binary64.unitsPerOne) 1000000000

/-- The moment so many nanoseconds after 1970 began. -/
def momentOf (nanoseconds : Int) : Moment :=
  (Moment.ofMicroseconds (nanoseconds / 1000)).toOption.getD Moment.first

def utcNow : IO Moment := do
  return momentOf (← Std.Time.Timestamp.now).toNanosecondsSinceUnixEpoch.val

/-- The time of day here; the universal one if it is not known where here is. -/
def localNow : IO Moment := do
  try
    let shown := (← Std.Time.PlainDateTime.now).toTimestamp .UTC
    return momentOf shown.toNanosecondsSinceUnixEpoch.val
  catch _ => utcNow

/-- Milliseconds of a pause; what is no length of time is no pause. -/
def milliseconds (seconds : Binary64) : UInt32 :=
  match Number.wholePart (seconds * .ofNat 1000) with
  | .ok count => UInt32.ofNat (min count.toNat 4294967295)
  | .error _ => 0

/-! ## The world -/

def world (relay : Option RelayPipes) (clients : IO.Ref Nat) : World IO where
  openClient timeout userAgent := do
    let number ← clients.get
    clients.set (number + 1)
    return ⟨number, timeout, userAgent⟩
  closeClient _ := return
  exchange := exchange relay
  sleep seconds := refusable (IO.sleep (milliseconds seconds))
  clock := return secondsOf (← IO.monoNanosNow)
  localTime := localNow
  timestamp := return (← utcNow).utcText
  freshMark := return Text.hexText (← IO.getRandomBytes 16).toList
  log record := do IO.eprintln (Log.Entry.ofRecord (← utcNow) record).line
  present item := refusable ((Command.shownLines item).forM fun line => IO.println line)
  writeFile path content := refusable (IO.FS.writeBinFile path ⟨content.toArray⟩)

/-! ## The environment -/

/-- A name and its value, written with an equals sign between them. -/
def binding? (characters : List Char) : Option (String × String) :=
  match characters.span (· != '=') with
  | (name, _ :: value) => some (String.ofList name, String.ofList value)
  | _ => none

/-- All variables, as the operating system lists them. -/
def listedVariables : IO (List (String × String)) := do
  let listed ← IO.FS.readBinFile "/proc/self/environ"
  return (Text.segmentsOf (Char.ofNat 0) (Text.decodeLossy listed.toList)).filterMap binding?

/-- The variables that settings are read from. -/
def knownVariables : IO (List (String × String)) :=
  Settings.names.filterMapM fun name => do
    return (← IO.getEnv name).map fun value => (name, value)

def environment : IO (List (String × String)) := do
  try listedVariables catch _ => knownVariables

def variablesFile : IO (Option String) := do
  try return some (← IO.FS.readFile ".env") catch _ => return none

/-- Carries out the command that the words ask for; the exit code. -/
def run (words : List String) : IO UInt32 := do
  match Command.parse words with
  | .error exit =>
    IO.eprintln Command.usage
    return UInt32.ofNat exit.code
  | .ok command =>
    let world := world (← openRelay) (← IO.mkRef 0)
    match ← (Command.perform world (← environment) (← variablesFile) command).run with
    | .ok ending => return UInt32.ofNat ending.code
    | .error fault =>
      IO.eprintln fault.message
      return 1

end ObservatoryWatch.Program

def main (words : List String) : IO UInt32 := ObservatoryWatch.Program.run words
