import ObservatoryWatch.Imaging.Answer
import ObservatoryWatch.World

/-!
The imaging station as the monitor sees it.

A question is asked again when the exchange has failed or the server could not
answer just now, each time after a longer pause; refusals that another attempt
cannot change are final. `Station` names the questions with the types of their
answers, so that the monitor does not depend on how they are asked.
-/

namespace ObservatoryWatch.Imaging

variable {m : Type → Type} [Monad m]

/-- Where the interface is and how patiently it is asked. -/
structure Access where
  host : String
  timeout : Binary64
  retries : Int
  retryDelay : Binary64

namespace Access

def userAgent : String := "spacecat-monitor/0.1"

/-- How often a question is asked at most. -/
def attempts (access : Access) : Nat := (access.retries + 1).toNat

/-- The pause before an attempt; attempts are counted from zero. -/
def pause (access : Access) (attempt : Nat) : Binary64 := access.retryDelay * .ofNat attempt

def request (access : Access) (query : Query) : Http.Request where
  method := .get
  url := query.url access.host
  token := none
  body := .empty

end Access

/-- What an exchange comes to if it is not repeated. -/
def settle (query : Query) : Except Http.Failure Http.Response → Except Fault Http.Response
  | .ok response =>
    if response.isSuccess then .ok response
    else .error (.status query response.status response.excerpt)
  | .error failure => .error (.unreachable query failure)

/-- A client's mistake that another attempt cannot mend; too many requests at once is none. -/
def isFinalStatus (status : Nat) : Bool := 400 ≤ status && status < 500 && status != 429

def isFinal : Except Http.Failure Http.Response → Bool
  | .ok response => response.isSuccess || isFinalStatus response.status
  | .error _ => false

/-- What the log is told before another attempt. -/
def retryNotice (query : Query) (outcome : Except Http.Failure Http.Response)
    (next attempts : Nat) : String :=
  (match outcome with
    | .ok response => query.subject ++ " failed (HTTP " ++ toString response.status ++ ")"
    | .error failure => query.subject ++ " request failed (" ++ failure.kind.name ++ ")") ++
    "; retrying (attempt " ++ toString next ++ " of " ++ toString attempts ++ ")"

/-- Asks a question from an attempt on, with so many attempts left. -/
def askFrom (world : World m) (client : Http.Client) (access : Access) (query : Query)
    (attempt : Nat) : Nat → Action m Http.Response
  | 0 => throw (.imaging (.untried query))
  | left + 1 => do
    if 0 < attempt then world.sleep (access.pause attempt)
    let outcome ← world.exchange client (access.request query)
    if isFinal outcome || left == 0 then
      ofExcept ((settle query outcome).mapError .imaging)
    else
      world.log (.warning (retryNotice query outcome (attempt + 2) access.attempts))
      askFrom world client access query (attempt + 1) left

def ask (world : World m) (client : Http.Client) (access : Access) (query : Query) :
    Action m Http.Response :=
  askFrom world client access query 0 access.attempts

/-- The questions that can be put to an imaging station. -/
structure Station (m : Type → Type) where
  version : Action m String
  events : Action m (List Observatory.Event)
  images : Action m (List Observatory.Image)
  sequence : Action m (List Json)
  mount : Action m Observatory.Mount
  autofocus : Action m Observatory.Autofocus
  thumbnail : Int → Option String → Action m Bytes

/-- Asks a question and reads the response. -/
def askFor {α : Type} (world : World m) (client : Http.Client) (access : Access)
    (query : Query) (read : Http.Response → Except Fault α) : Action m α := do
  let response ← ask world client access query
  ofExcept ((read response).mapError .imaging)

def Station.over (world : World m) (client : Http.Client) (access : Access) : Station m where
  version := askFor world client access .version Answer.version
  events := askFor world client access .events Answer.events
  images := askFor world client access .images Answer.images
  sequence := askFor world client access .sequence Answer.sequence
  mount := askFor world client access .mount Answer.mount
  autofocus := askFor world client access .autofocus Answer.autofocus
  thumbnail := fun index imageType =>
    askFor world client access (.thumbnail index imageType) (Answer.thumbnail index)

/-- Opens a client for an imaging station. -/
def Access.openClient (world : World m) (access : Access) : m Http.Client :=
  world.openClient access.timeout (some userAgent)

end ObservatoryWatch.Imaging
