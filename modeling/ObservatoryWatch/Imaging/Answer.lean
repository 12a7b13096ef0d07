import ObservatoryWatch.Imaging.Fault
import ObservatoryWatch.Json.Display
import ObservatoryWatch.Observatory.Autofocus
import ObservatoryWatch.Observatory.Envelope
import ObservatoryWatch.Observatory.Image
import ObservatoryWatch.Observatory.Mount
import ObservatoryWatch.Observatory.Sequence

/-!
What the answers of the imaging interface hold.

An answer is read in steps: octets to JSON, JSON to the envelope, the envelope's
content to records. Each step has its own fault, and a list is taken as a whole or
not at all.
-/

namespace ObservatoryWatch.Imaging

open Observatory Payload

namespace Answer

/-- The content of an envelope that reports success. -/
def ofEnvelope (query : Query) (envelope : Envelope) : Except Fault Json :=
  if envelope.success then .ok envelope.response
  else .error (.reported query envelope.error envelope.statusCode)

/-- The content of a response to a question. -/
def content (query : Query) (response : Http.Response) : Except Fault Json :=
  match response.json? with
  | none => .error (.notJson query)
  | some (.object members) =>
    match (Envelope.decode (.object members)).asResult "ApiEnvelope" with
    | .ok envelope => ofEnvelope query envelope
    | .error rejection => .error (.malformedEnvelope query rejection)
  | some other => .error (.notRecord query other.kindName)

variable {α : Type}

/-- A list of records; one bad record spoils all of them. -/
def records (query : Query) (decode : Decoder α) (content : Json) : Except Fault (List α) :=
  match (Payload.list decode content).asResult "list" with
  | .ok items => .ok items
  | .error rejection => .error (.refusedList query rejection)

/-- A single record, called by a name in messages. -/
def oneRecord (name model : String) (decode : Decoder α) (content : Json) : Except Fault α :=
  match (decode content).asResult model with
  | .ok value => .ok value
  | .error rejection => .error (.refusedRecord name rejection)

def version (response : Http.Response) : Except Fault String :=
  (content .version response).map Json.display

def events (response : Http.Response) : Except Fault (List Event) :=
  content .events response >>= records .events Event.decode

def images (response : Http.Response) : Except Fault (List Image) :=
  content .images response >>= records .images Image.decode

/-- The nodes of the sequence; their shapes vary, so they stay as they are. -/
def nodes : Json → Except Fault (List Json)
  | .array items => .ok items
  | other => .error (.notTree other.kindName)

def sequence (response : Http.Response) : Except Fault (List Json) :=
  content .sequence response >>= nodes

def mount (response : Http.Response) : Except Fault Mount :=
  content .mount response >>= oneRecord "Mount info" "MountInfo" Mount.decode

def autofocus (response : Http.Response) : Except Fault Autofocus :=
  content .autofocus response >>= oneRecord "Autofocus" "AutofocusResult" Autofocus.decode

/-- The octets of a preview; there has to be at least one. -/
def thumbnail (index : Int) (response : Http.Response) : Except Fault Bytes :=
  if response.body.isEmpty then .error (.emptyThumbnail index) else .ok response.body

end Answer

end ObservatoryWatch.Imaging
