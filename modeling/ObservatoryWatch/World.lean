import ObservatoryWatch.Calendar.Moment
import ObservatoryWatch.Fault
import ObservatoryWatch.Log.Entry

/-!
The world outside the program.

A program part is written for any monad in which the world can be asked: in one that
talks to real servers it runs the monitor, in one that carries a script it runs a
rehearsal, and whatever holds for every monad or every script holds for the monitor.
An action may fail; the monad's own state outlives the failure.
-/

namespace ObservatoryWatch

/-- A step in the world that may end in a fault. -/
abbrev Action (m : Type → Type) := ExceptT Fault m

/-- Something handed over to the console. Its texts are given as they are, with all that the console
may take for markup. -/
inductive Shown where
  | line (text : String)
  | table (title : String) (columns : List String) (rows : List (List String))
  deriving DecidableEq, Repr

/-- What a program part can ask of the world. -/
structure World (m : Type → Type) where
  /-- Opens a client with a time limit for its requests and a name to introduce it by. -/
  openClient : Binary64 → Option String → m Http.Client
  closeClient : Http.Client → m Unit
  exchange : Http.Client → Http.Request → Action m (Except Http.Failure Http.Response)
  sleep : Binary64 → Action m Unit
  /-- Seconds on a clock that never goes back. -/
  clock : m Binary64
  localTime : m Calendar.Moment
  /-- The present moment as chat services want it written. -/
  timestamp : m String
  /-- A text that no other request of this program carries. -/
  freshMark : m String
  log : Log.Record → m Unit
  /-- Has something drawn by the console, which may refuse to draw it. -/
  present : Shown → Action m Unit
  writeFile : String → Bytes → Action m Unit

namespace Action

variable {m : Type → Type} [Monad m] {α β ε : Type}

/-- Makes the faults that a selection takes part of the result. -/
def held (select : Fault → Option ε) : Except Fault α → Except Fault (Except ε α)
  | .ok value => .ok (.ok value)
  | .error fault =>
    match select fault with
    | some chosen => .ok (.error chosen)
    | none => .error fault

/-- Does an action and reports a selected fault instead of failing. -/
def attemptFor (select : Fault → Option ε) (action : Action m α) : Action m (Except ε α) :=
  .mk (held select <$> action.run)

/-- Does an action and reports its fault instead of failing; interruptions pass. -/
def attempt (action : Action m α) : Action m (Except Fault α) :=
  action.attemptFor Fault.failure?

/-- Does an action and reports only faults of the imaging interface. -/
def attemptImaging (action : Action m α) : Action m (Except Imaging.Fault α) :=
  action.attemptFor Fault.imaging?

/-- Does an action and then, whatever has come of it, another one. -/
def andFinally (action : Action m α) (last : Action m β) : Action m α := .mk do
  let outcome ← action.run
  match ← last.run with
  | .ok _ => return outcome
  | .error fault => return .error fault

/-- Does an action and, only if it has failed without being interrupted, another one. -/
def orElseFirst (action : Action m α) (afterFault : Action m β) : Action m α := do
  match ← action.attempt with
  | .ok value => return value
  | .error fault =>
    discard afterFault
    throw fault

end Action

end ObservatoryWatch
