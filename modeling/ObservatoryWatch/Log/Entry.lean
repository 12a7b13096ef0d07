import ObservatoryWatch.Calendar.Moment
import ObservatoryWatch.Json.Writer
import ObservatoryWatch.Log.Level
import ObservatoryWatch.Redaction.Secret

/-!
Log messages and the lines they are written as.

A record is what a part of the program has to say. An entry is a record with its
circumstances: when it was made, by which logger, and the error that led to it. It
is written as one line of JSON in which message and error are redacted.
-/

namespace ObservatoryWatch.Log

structure Record where
  level : Level
  message : String
  /-- The chat channel that the message is about. -/
  channel : Option String
  deriving DecidableEq, Repr

namespace Record

def debug (message : String) : Record := ⟨.debug, message, none⟩

def info (message : String) : Record := ⟨.info, message, none⟩

def warning (message : String) : Record := ⟨.warning, message, none⟩

def error (message : String) : Record := ⟨.error, message, none⟩

def about (record : Record) (channel : String) : Record :=
  { record with channel := some channel }

end Record

/-- The name of the logger of all parts of the program. -/
def loggerName : String := "spacecat_monitor"

/-- An error as the log shows it. -/
structure LoggedError where
  kind : String
  text : String

def LoggedError.line (error : LoggedError) : String :=
  if error.text.isEmpty then error.kind else error.kind ++ ": " ++ error.text

structure Entry where
  made : Calendar.Moment
  level : Level
  logger : String
  message : String
  channel : Json
  error : Option LoggedError

/-- Whether a value says nothing: an empty text or collection, zero, false or null. -/
def saysNothing : Json → Bool
  | .null => true
  | .bool value => !value
  | .integer value => value == 0
  | .float value => value.isEqual 0
  | .string text => text.isEmpty
  | .ragged _ => false
  | .array items => items.isEmpty
  | .object members => members.isEmpty

namespace Entry

def ofRecord (made : Calendar.Moment) (record : Record) : Entry where
  made
  level := record.level
  logger := loggerName
  message := record.message
  channel := (record.channel.map Json.string).getD .null
  error := none

def members (entry : Entry) : List (String × Json) :=
  [("ts", .string entry.made.utcText), ("level", .string entry.level.name),
      ("logger", .string entry.logger),
      ("message", .string (Redaction.redact entry.message))] ++
    (if saysNothing entry.channel then [] else [("channel", entry.channel)]) ++
    (entry.error.map fun error =>
      ("exception", Json.string (Redaction.redact error.line))).toList

def line (entry : Entry) : String := Json.write .line (.object entry.members)

end Entry

end ObservatoryWatch.Log
