import ObservatoryWatch.Monitor.Gate
import ObservatoryWatch.Monitor.Seen
import ObservatoryWatch.Target
import ObservatoryWatch.World

/-!
What the monitor remembers between its rounds, and the actions that change it.

A watch is an action with this memory. What has been remembered before a fault stays
remembered after it.
-/

namespace ObservatoryWatch.Monitor

structure State where
  gate : Gate
  seenEvents : Seen
  seenImages : Seen
  target : Option Target
  flipHours : Option Binary64
  /-- The sequence has been fetched once; later failures are not worth a word. -/
  sequenceSeen : Bool
  notificationsSent : Nat

def State.fresh (gate : Gate) : State := ⟨gate, .empty, .empty, none, none, false, 0⟩

abbrev Watch (m : Type → Type) := ExceptT Fault (StateT State m)

variable {m : Type → Type} [Monad m]

/-- What a watch gets and sets is the memory, whatever state the monad below may have. -/
instance : MonadState State (Watch m) :=
  inferInstanceAs (MonadState State (ExceptT Fault (StateT State m)))

/-- An action without use of the memory. -/
def Watch.perform {α : Type} (action : Action m α) : Watch m α :=
  .mk (StateT.lift action.run)

instance : MonadLift (Action m) (Watch m) := ⟨Watch.perform⟩

end ObservatoryWatch.Monitor
