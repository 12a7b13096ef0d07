import ObservatoryWatch.Number.Conversion
import ObservatoryWatch.Observatory.Event

/-!
The sequence: the tree of instructions that the imaging software works through.

Only a few facts of the tree matter. A container of a certain name that is active
is the current target, and a trigger of the first node counts down to the meridian
flip. Nodes come in many shapes; one that has no name or no status is passed over
together with everything below it.
-/

namespace ObservatoryWatch.Observatory

open Number

/-- An instruction or container of the sequence. -/
structure Node where
  name : String
  status : String
  items : List Node

namespace Node

mutual
/-- The node that a value describes, if it has a name and a status. -/
def ofJson? : Json → Option Node
  | .object members =>
    match Json.textAt? (.object members) "Name", Json.textAt? (.object members) "Status" with
    | some name, some status => some ⟨name, status, underMembers members⟩
    | _, _ => none
  | _ => none

/-- The nodes listed under the key for items. -/
def underMembers : List (String × Json) → List Node
  | [] => []
  | (key, value) :: rest => if key == "Items" then underValue value else underMembers rest

def underValue : Json → List Node
  | .array items => ofItems items
  | _ => []

def ofItems : List Json → List Node
  | [] => []
  | item :: rest =>
    match ofJson? item with
    | some node => node :: ofItems rest
    | none => ofItems rest
end

/-! ## The current target -/

def targetEnding : String := "_Container"

def activeStatuses : List String := ["RUNNING", "Active"]

/-- Containers that belong to every sequence and are no targets. -/
def systemContainers : List String :=
  ["Start", "End", "Targets", "Basic Sequence Startup", "Basic Sequence End",
    "Target Imaging Instructions", "Parallel End of Sequence Instructions"]

/-- The name without the ending that marks containers; none if it has no such ending. -/
def withoutEnding? (name : String) : Option String :=
  if targetEnding.toList.isSuffixOf name.toList then
    some (String.ofList (name.toList.take (name.length - targetEnding.length)))
  else none

/-- The target that a node itself stands for: an active container that is no system one. -/
def target? (node : Node) : Option String :=
  if activeStatuses.contains node.status then
    (withoutEnding? node.name).bind fun target =>
      if target.isEmpty || systemContainers.contains target then none else some target
  else none

mutual
/-- The target of a node or else of the first node below it that has one. -/
def runningTarget? : Node → Option String
  | ⟨name, status, items⟩ =>
    match target? ⟨name, status, items⟩ with
    | some target => some target
    | none => firstRunning? items

def firstRunning? : List Node → Option String
  | [] => none
  | node :: rest =>
    match runningTarget? node with
    | some target => some target
    | none => firstRunning? rest
end

end Node

namespace Sequence

/-- The name of the first running target in the order in which the tree is written. -/
def target? (tree : List Json) : Option String := Node.firstRunning? (Node.ofItems tree)

/-! ## The countdown to the flip -/

def flipTrigger : String := "Meridian Flip_Trigger"

/-- The hours of a trigger; only a finite number counts. -/
def triggerHours (trigger : Json) : Except ConversionFault (Option Binary64) :=
  match trigger.members? >>= (·.find? "TimeToFlip") with
  | some (.integer value) => (ofWhole value).map some
  | some (.float value) => .ok (if value.isFinite then some value else none)
  | _ => .ok none

/-- Hours to the meridian flip, as the first flip trigger of the first node tells them. -/
def flipHours (tree : List Json) : Except ConversionFault (Option Binary64) :=
  match tree with
  | [] => .ok none
  | root :: _ =>
    match (root.itemsAt "GlobalTriggers").find? (·.labelAt? "Name" == some (.whole flipTrigger)) with
    | some trigger => triggerHours trigger
    | none => .ok none

end Sequence

end ObservatoryWatch.Observatory
