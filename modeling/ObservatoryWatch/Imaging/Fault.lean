import ObservatoryWatch.Http.Exchange
import ObservatoryWatch.Imaging.Query
import ObservatoryWatch.Payload.Problem
import ObservatoryWatch.Redaction.Secret

/-!
Why the imaging interface has given no usable answer.

Every fault names the question. Texts that come from outside are redacted before
they become part of a message.
-/

namespace ObservatoryWatch.Imaging

open Payload

inductive Fault where
  | status (query : Query) (status : Nat) (answer : String)
  | unreachable (query : Query) (failure : Http.Failure)
  | untried (query : Query)
  | notJson (query : Query)
  | notRecord (query : Query) (kind : String)
  | malformedEnvelope (query : Query) (rejection : Rejection)
  | reported (query : Query) (error : String) (statusCode : Int)
  | refusedList (query : Query) (rejection : Rejection)
  | refusedRecord (name : String) (rejection : Rejection)
  | notTree (kind : String)
  | emptyThumbnail (index : Int)
  deriving DecidableEq, Repr

/-- What kind of exchange went wrong. -/
inductive Category where
  | httpStatus
  | timeout
  | transport
  | apiFailure
  deriving DecidableEq, Repr

def Category.name : Category → String
  | httpStatus => "http_status"
  | timeout => "timeout"
  | transport => "transport"
  | apiFailure => "api_failure"

/-- The text with its first letter made a capital one. -/
def capitalized (text : String) : String :=
  match text.toList with
  | [] => ""
  | first :: rest => String.ofList (first.toUpper :: rest)

namespace Fault

/-- The category of a fault of the exchange itself; other faults have none. -/
def category? : Fault → Option Category
  | status _ _ _ => some .httpStatus
  | unreachable _ failure => some (if failure.kind.isTimeout then .timeout else .transport)
  | reported _ _ _ => some .apiFailure
  | _ => none

/-- The status that the server or the interface has given. -/
def statusCode? : Fault → Option Int
  | status _ code _ => some code
  | reported _ _ code => some code
  | _ => none

/-- The rejection behind a fault. -/
def rejection? : Fault → Option Rejection
  | malformedEnvelope _ rejection | refusedList _ rejection | refusedRecord _ rejection =>
    some rejection
  | _ => none

/-- How many problems a list has, and the first of them. -/
def listProblems (rejection : Rejection) : String :=
  toString rejection.problems.length ++ " error(s); first: " ++
    match rejection.problems with
    | problem :: _ => problem.complaint.message
    | [] => ""

def message : Fault → String
  | status query code answer =>
    query.subject ++ " failed with status " ++ toString code ++ " at " ++ query.path ++ ": " ++
      Redaction.redact answer
  | unreachable query failure =>
    query.subject ++ " request failed at " ++ query.path ++ ": " ++
      Redaction.redact failure.reason
  | untried query => query.subject ++ " failed after retries: None"
  | notJson query => query.subject ++ " returned non-JSON response at " ++ query.path ++ "."
  | notRecord query kind =>
    query.subject ++ " returned unexpected payload type " ++ kind ++ " at " ++ query.path ++ "."
  | malformedEnvelope query _ => query.subject ++ " returned a malformed envelope."
  | reported query error _ =>
    query.subject ++ " reported failure: " ++
      Redaction.redact (if error.isEmpty then "no error text" else error)
  | refusedList query rejection =>
    capitalized query.subject ++ " payload failed validation: " ++ listProblems rejection
  | refusedRecord name rejection =>
    name ++ " payload failed validation: " ++ rejection.message
  | notTree kind => "Sequence response was " ++ kind ++ ", expected a list of nodes."
  | emptyThumbnail index => "Thumbnail " ++ toString index ++ " was empty."

end Fault

end ObservatoryWatch.Imaging
