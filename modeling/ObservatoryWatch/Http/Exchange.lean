import ObservatoryWatch.Http.Url
import ObservatoryWatch.Json.Reader
import ObservatoryWatch.Json.Writer

/-!
What is exchanged with a web server: requests, responses, and the ways in which an
exchange ends without a response.
-/

namespace ObservatoryWatch.Http

inductive Method where
  | get
  | post
  | put
  deriving DecidableEq, Repr

def Method.name : Method → String
  | get => "GET"
  | post => "POST"
  | put => "PUT"

/-- A part of a form: a named text, or a named file with its type and content. -/
inductive Part where
  | text (name value : String)
  | file (name filename contentType : String) (content : Bytes)

inductive Body where
  | empty
  | json (value : Json)
  | octets (contentType : String) (content : Bytes)
  | form (parts : List Part)

/-- A body of JSON, unless a text in it cannot be encoded. -/
def Body.ofJson (value : Json) : Except Text.EncodingFault Body :=
  match value.fault? with
  | some fault => .error fault
  | none => .ok (.json value)

structure Request where
  method : Method
  url : Url
  /-- The token that the request is made in the name of, if any. -/
  token : Option String
  body : Body

structure Response where
  status : Nat
  body : Bytes

namespace Response

/-- The server has done what it was asked for. -/
def isSuccess (response : Response) : Bool := 200 ≤ response.status && response.status < 300

/-- The server has refused or failed. -/
def isRefusal (response : Response) : Bool := 400 ≤ response.status

/-- How many characters of an answer are quoted. -/
def excerptLength : Nat := 300

/-- The beginning of the body as text. -/
def excerpt (response : Response) : String :=
  String.ofList ((Text.decodeLossy response.body).take excerptLength)

def json? (response : Response) : Option Json := Json.ofOctets? response.body

end Response

/-! ## Failures -/

inductive FailureKind where
  | connecting
  | reading
  | protocol
  | connectTimeout
  | readTimeout
  | poolTimeout
  deriving DecidableEq, Repr

namespace FailureKind

def name : FailureKind → String
  | connecting => "ConnectError"
  | reading => "ReadError"
  | protocol => "RemoteProtocolError"
  | connectTimeout => "ConnectTimeout"
  | readTimeout => "ReadTimeout"
  | poolTimeout => "PoolTimeout"

def isTimeout : FailureKind → Bool
  | connectTimeout | readTimeout | poolTimeout => true
  | connecting | reading | protocol => false

end FailureKind

/-- An exchange that ended without a response. -/
structure Failure where
  kind : FailureKind
  reason : String
  deriving DecidableEq, Repr

/-- A connection to web servers, with the settings that hold for all of its requests. -/
structure Client where
  number : Nat
  timeout : Binary64
  userAgent : Option String

end ObservatoryWatch.Http
