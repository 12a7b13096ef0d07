/-!
What can be wrong with a payload.

A problem is a complaint about one place. The place is the path of keys and
positions that leads to it, each key spelled as the payload spells it.
-/

namespace ObservatoryWatch.Payload

/-- One step on the way to a place in a payload. -/
inductive Step where
  | key (name : String)
  | position (index : Nat)
  deriving DecidableEq, Repr

inductive Complaint where
  | missing
  | notRecord (model : String)
  | notFields
  | notList
  | notText
  | notEncodable
  | notWhole
  | fractional
  | notFinite
  | unreadableWhole
  | tooLarge
  | notNumber
  | unreadableNumber
  | notTruth
  | unreadableTruth
  | notOneOf (choices : List String)
  | noVariant
  | unknownVariant (tag : String)
  | rejected (reason : String)
  deriving DecidableEq, Repr

namespace Complaint

/-- The short name of a complaint. -/
def code : Complaint → String
  | missing => "missing"
  | notRecord _ => "model_type"
  | notFields => "model_attributes_type"
  | notList => "list_type"
  | notText => "string_type"
  | notEncodable => "string_unicode"
  | notWhole => "int_type"
  | fractional => "int_from_float"
  | notFinite => "finite_number"
  | unreadableWhole => "int_parsing"
  | tooLarge => "int_parsing_size"
  | notNumber => "float_type"
  | unreadableNumber => "float_parsing"
  | notTruth => "bool_type"
  | unreadableTruth => "bool_parsing"
  | notOneOf _ => "literal_error"
  | noVariant => "union_tag_not_found"
  | unknownVariant _ => "union_tag_invalid"
  | rejected _ => "value_error"

/-- Choices in quotes, the last two joined by a word. -/
def choicesText : List String → String
  | [] => ""
  | [only] => "'" ++ only ++ "'"
  | [first, last] => "'" ++ first ++ "' or '" ++ last ++ "'"
  | first :: rest => "'" ++ first ++ "', " ++ choicesText rest

def message : Complaint → String
  | missing => "Field required"
  | notRecord model => "Input should be a valid dictionary or instance of " ++ model
  | notFields => "Input should be a valid dictionary or object to extract fields from"
  | notList => "Input should be a valid list"
  | notText => "Input should be a valid string"
  | notEncodable =>
    "Input should be a valid string, unable to parse raw data as a unicode string"
  | notWhole => "Input should be a valid integer"
  | fractional => "Input should be a valid integer, got a number with a fractional part"
  | notFinite => "Input should be a finite number"
  | unreadableWhole => "Input should be a valid integer, unable to parse string as an integer"
  | tooLarge => "Unable to parse input string as an integer, exceeded maximum size"
  | notNumber => "Input should be a valid number"
  | unreadableNumber => "Input should be a valid number, unable to parse string as a number"
  | notTruth => "Input should be a valid boolean"
  | unreadableTruth => "Input should be a valid boolean, unable to interpret input"
  | notOneOf choices => "Input should be " ++ choicesText choices
  | noVariant => "Unable to extract tag using discriminator 'variant'"
  | unknownVariant tag =>
    "Input tag '" ++ tag ++ "' found using 'variant' does not match any of the expected tags: " ++
      "'filter_wheel_change', 'target_start'"
  | rejected reason => "Value error, " ++ reason

end Complaint

structure Problem where
  path : List Step
  complaint : Complaint
  deriving DecidableEq, Repr

/-- The problem seen from one level further out. -/
def Problem.under (step : Step) (problem : Problem) : Problem :=
  { problem with path := step :: problem.path }

/-- A payload of the named kind was refused for these reasons. -/
structure Rejection where
  model : String
  problems : List Problem
  deriving DecidableEq, Repr

def Rejection.message (rejection : Rejection) : String :=
  let count := rejection.problems.length
  toString count ++ (if count = 1 then " validation error for " else " validation errors for ") ++
    rejection.model

end ObservatoryWatch.Payload
