import ObservatoryWatch.Number.Binary64
import ObservatoryWatch.Text.Label

/-!
JSON values.

Whole numbers have no size limit and stay apart from numbers written with a point
or an exponent. An object keeps its members in the order in which their keys first
appeared. A text with surrogates that have no partner stands apart from the others; in
a key such surrogates are shown as replacement characters, since no key that is asked
for has any.
-/

namespace ObservatoryWatch

inductive Json where
  | null
  | bool (value : Bool)
  | integer (value : Int)
  | float (value : Binary64)
  | string (text : String)
  | ragged (text : Text.Ragged)
  | array (items : List Json)
  | object (members : List (String × Json))
  deriving Inhabited

namespace Json

/-- The members of an object, each key once. -/
abbrev Members := List (String × Json)

namespace Members

def find? (members : Members) (key : String) : Option Json := members.lookup key

def has (members : Members) (key : String) : Bool := (members.find? key).isSome

/-- Gives a key a value; a key that is there already keeps its place. -/
def put (members : Members) (key : String) (value : Json) : Members :=
  if members.has key then
    members.map fun member => if member.1 == key then (key, value) else member
  else members ++ [(key, value)]

/-- Members as written, a later value replacing an earlier one of the same key. -/
def ofWritten (written : List (String × Json)) : Members :=
  written.foldl (fun members member => members.put member.1 member.2) []

end Members

/-- The value's members; none if it is not an object. -/
def members? : Json → Option Members
  | .object members => some members
  | _ => none

/-- The text of a value that is one. -/
def label? : Json → Option Text.Label
  | .string text => some (.whole text)
  | .ragged text => some (.ragged text)
  | _ => none

def ofLabel : Text.Label → Json
  | .whole text => .string text
  | .ragged text => .ragged text

/-- The text of a value that is one, as a person is shown it. -/
def text? : Json → Option String
  | .string text => some text
  | .ragged text => some text.shown
  | _ => none

/-- The text stored under a key as it came, if the value is an object that has one there. -/
def labelAt? (value : Json) (key : String) : Option Text.Label :=
  value.members? >>= (·.find? key) >>= label?

/-- The text stored under a key, if the value is an object that has one there. -/
def textAt? (value : Json) (key : String) : Option String :=
  value.members? >>= (·.find? key) >>= text?

/-- The items stored under a key; nothing if there is no list there. -/
def itemsAt (value : Json) (key : String) : List Json :=
  match value.members? >>= (·.find? key) with
  | some (.array items) => items
  | _ => []

/-- The name of a value's kind, as error texts show it. -/
def kindName : Json → String
  | .null => "NoneType"
  | .bool _ => "bool"
  | .integer _ => "int"
  | .float _ => "float"
  | .string _ | .ragged _ => "str"
  | .array _ => "list"
  | .object _ => "dict"

end Json

end ObservatoryWatch
