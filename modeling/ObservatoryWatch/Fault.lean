import ObservatoryWatch.Chat.Fault
import ObservatoryWatch.Imaging.Fault
import ObservatoryWatch.Number.Conversion

/-!
Everything that can end an action without a result.

An interruption is a request to stop and is never held back; all other faults may be
caught where the program can go on without the action.
-/

namespace ObservatoryWatch

inductive Fault where
  | imaging (fault : Imaging.Fault)
  | delivery (fault : Chat.DeliveryFault)
  | setup (fault : Chat.SetupFault)
  | conversion (fault : Number.ConversionFault)
  /-- A request could not be written down, so it was not made. -/
  | request (fault : Text.EncodingFault)
  /-- A record could not be written down. -/
  | record (fault : Text.EncodingFault)
  /-- The operating system has refused something. -/
  | system (message : String)
  | unforeseen (message : String)
  | interrupted (message : String)
  deriving Repr

namespace Fault

def message : Fault → String
  | imaging fault => fault.message
  | delivery fault => fault.message
  | setup fault => fault.message
  | conversion fault => fault.message
  | request fault => fault.message
  | record fault => "Error serializing to JSON: UnicodeEncodeError: " ++ fault.message
  | system message | unforeseen message | interrupted message => message

/-- The fault itself, unless it is an interruption. -/
def failure? : Fault → Option Fault
  | interrupted _ => none
  | fault => some fault

def imaging? : Fault → Option Imaging.Fault
  | imaging fault => some fault
  | _ => none

def delivery? : Fault → Option Chat.DeliveryFault
  | delivery fault => some fault
  | _ => none

def setup? : Fault → Option Chat.SetupFault
  | setup fault => some fault
  | _ => none

end Fault

end ObservatoryWatch
