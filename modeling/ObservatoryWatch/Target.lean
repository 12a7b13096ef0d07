import ObservatoryWatch.Observatory.Sequence

/-!
The target that the observatory is working on, and where its name was learned.

A target seen in the sequence is a name and nothing else. One that was announced
by an event also has coordinates, a project and a rotation.
-/

namespace ObservatoryWatch

open Observatory

inductive Target where
  | sequenced (name : String)
  | announced (start : TargetStart)
  deriving DecidableEq

namespace Target

/-- Announced by instruction sets of the sequencer; never a real target. -/
def instructionSet : String := "Sequential Instruction Set"

def name : Target → String
  | sequenced name => name
  | announced start => start.targetName

def isAnnounced : Target → Bool
  | sequenced _ => false
  | announced _ => true

/-- How a person is told where the target was learned. -/
def sourceLabel : Target → String
  | sequenced _ => "Sequence file"
  | announced _ => "TS-TARGETSTART event"

def coordinates? : Target → Option Coordinates
  | sequenced _ => none
  | announced start => some start.coordinates

def project? : Target → Option String
  | sequenced _ => none
  | announced start => some start.projectName

def rotation? : Target → Option Binary64
  | sequenced _ => none
  | announced start => some start.rotation

/-- The target that an event announces, unless it is the name of an instruction set. -/
def announcedBy? (event : Event) : Option TargetStart :=
  event.start?.filter (·.targetName != instructionSet)

/-- Of the announcements so far and one more event, the later one; the earlier wins a tie. -/
def laterStart (latest : Option (String × TargetStart)) (event : Event) :
    Option (String × TargetStart) :=
  match announcedBy? event, latest with
  | none, _ => latest
  | some start, none => some (event.time, start)
  | some start, some (time, earlier) =>
    if time < event.time then some (event.time, start) else some (time, earlier)

/-- The target announced last, going by the times of the events. -/
def latest? (events : List Event) : Option Target :=
  (events.foldl laterStart none).map fun (_, start) => announced start

end Target

end ObservatoryWatch
