import ObservatoryWatch.Card.Written
import ObservatoryWatch.Chat.Channel
import ObservatoryWatch.Http.Header

/-!
A channel to a Matrix room.

Setting up the channel logs in with a password and joins the room; every later
request carries the token that the login has returned. An image takes three
requests: a text message, the upload of the octets, and a message that points to
the address which the upload has returned. A token that no header can hold ends the setup before
the join, and an address that no body can hold ends a delivery before its last
request, both by faults that are none of the service's.
-/

namespace ObservatoryWatch.Chat.Matrix

open Http Text

variable {m : Type → Type} [Monad m]

/-- Who logs in where, and the room that messages go to. -/
structure Account where
  homeserver : String
  username : String
  password : String
  room : String
  deriving DecidableEq

/-- A logged-in client. Its token can stand in a header. -/
structure Session where
  client : Client
  homeserver : String
  room : String
  token : String
  writable : headerFault? (authorization token) = none

/-! ## Paths and contents -/

def loginPath : String := "/_matrix/client/v3/login"

def joinPath (room : String) : String := "/_matrix/client/v3/join/" ++ percentSegment room

/-- Every message has a mark of its own, so that a repeated request is recognised. -/
def messagePath (room mark : String) : String :=
  "/_matrix/client/v3/rooms/" ++ percentSegment room ++ "/send/m.room.message/" ++ mark

def uploadPath : String := "/_matrix/media/v3/upload"

def loginContent (account : Account) : Json :=
  .object
    [("type", .string "m.login.password"),
      ("identifier",
        .object [("type", .string "m.id.user"), ("user", .string account.username)]),
      ("password", .string account.password),
      ("initial_device_display_name", .string "SpaceCat")]

def textContent (card : Card) : Json :=
  .object
    [("msgtype", .string "m.text"), ("body", .string card.toPlain),
      ("format", .string "org.matrix.custom.html"), ("formatted_body", .string card.toHtml)]

def imageContent (filename : String) (address : Label) (mediaType : String) (size : Nat) : Json :=
  .object
    [("msgtype", .string "m.image"), ("body", .string filename), ("url", .ofLabel address),
      ("info", .object [("mimetype", .string mediaType), ("size", .integer size)])]

/-- The media type of an image by the ending of its name. -/
def imageMediaType (filename : String) : String :=
  if endsWith (lowerText filename) ".png" then "image/png" else "image/jpeg"

/-! ## Requests -/

def address (homeserver path : String) (parameters : List (String × String)) : Url :=
  (Url.ofText (Url.withoutLastSlashes homeserver ++ path)).withParameters parameters

/-- The members of an answer that the server has given without refusing. -/
def answer (method : Method) (path : String) (response : Response) :
    Except DeliveryFault Json.Members :=
  if response.isRefusal then
    .error (.matrixRefused method path response.status response.excerpt)
  else match response.json? with
    | none => .error .notJson
    | some (.object members) => .ok members
    | some _ => .error .notRecord

/-- Makes a request and reads the members of the answer. -/
def call (world : World m) (client : Client) (homeserver : String) (token : Option String)
    (method : Method) (path : String) (parameters : List (String × String)) (body : Body) :
    Action m Json.Members := do
  match ← world.exchange client ⟨method, address homeserver path parameters, token, body⟩ with
  | .error failure => throw (.delivery (.matrixUnreachable failure))
  | .ok response => ofExcept ((answer method path response).mapError .delivery)

/-- Puts a message into the room, if its content can be written down. -/
def sendMessage (world : World m) (session : Session) (content : Json) : Action m Unit := do
  let mark ← world.freshMark
  let body ← ofExcept ((Body.ofJson content).mapError Fault.request)
  discard (call world session.client session.homeserver (some session.token) .put
    (messagePath session.room mark) [] body)

/-- Uploads an image; the address under which the server keeps it. -/
def upload (world : World m) (session : Session) (content : Bytes) (filename : String) :
    Action m Label := do
  let members ← call world session.client session.homeserver (some session.token) .post
    uploadPath [("filename", filename)] (.octets (imageMediaType filename) content)
  match (members.find? "content_uri").bind Json.label? with
  | some address => return address
  | none => throw (.delivery .noContentAddress)

def sendCard (world : World m) (session : Session) (card : Card) : Action m Unit :=
  sendMessage world session (textContent card)

def sendImage (world : World m) (session : Session) (card : Card) (content : Bytes)
    (filename : String) : Action m Unit := do
  sendCard world session card
  let address ← upload world session content filename
  sendMessage world session
    (imageContent filename address (imageMediaType filename) content.length)

/-! ## Setting up -/

/-- The token of a login's answer; an empty one is none. -/
def tokenOf? (members : Json.Members) : Option Label :=
  ((members.find? "access_token").bind Json.label?).filter (· ≠ .whole "")

def login (world : World m) (client : Client) (account : Account) : Action m Label := do
  match ← (call world client account.homeserver none .post loginPath []
      (.json (loginContent account))).attemptFor Fault.delivery? with
  | .error fault => throw (.setup (.loginFailed fault))
  | .ok members =>
    match tokenOf? members with
    | none => throw (.setup .noToken)
    | some token =>
      world.log (.info ("Logged in to Matrix homeserver as " ++ account.username))
      return token

def join (world : World m) (session : Session) : Action m Unit := do
  match ← (call world session.client session.homeserver (some session.token) .post
      (joinPath session.room) [] (.json (.object []))).attemptFor Fault.delivery? with
  | .error fault => throw (.setup (.joinFailed session.room fault))
  | .ok _ => return

/-- The session that a login has begun, unless no request can carry its token. -/
def Session.start (client : Client) (account : Account) : Label → Except EncodingFault Session
  | .ragged token => .error (token.fault .ascii (points (authorization "").toList))
  | .whole token =>
    match writable : headerFault? (authorization token) with
    | none => .ok ⟨client, account.homeserver, account.room, token, writable⟩
    | some fault => .error fault

theorem Session.start_eq_ok {client : Client} {account : Account} {token : Label}
    {session : Session} : Session.start client account token = .ok session ↔
      session.client = client ∧ session.homeserver = account.homeserver ∧
        session.room = account.room ∧ token = .whole session.token := by
  rcases session with ⟨found, homeserver, room, given, writable⟩
  cases token with
  | ragged token => simp [Session.start]
  | whole token =>
      rw [Session.start]
      split
      next sendable =>
        rw [Except.ok.injEq, Session.mk.injEq, Label.whole.injEq]
        simp [eq_comm]
      next fault refused =>
        constructor
        · nofun
        · rintro ⟨_, _, _, ⟨⟩⟩
          cases refused.symm.trans writable

def Session.channel (world : World m) (session : Session) : Channel m where
  name := Service.matrix.name
  send := sendCard world session
  sendWithImage := sendImage world session
  close := world.closeClient session.client

/-- Sets up the channel: a login, then the join. -/
def openChannel (world : World m) (timeout : Binary64) (account : Account) :
    Action m (Channel m) := do
  let client ← world.openClient timeout none
  let token ← login world client account
  let session ← ofExcept ((Session.start client account token).mapError Fault.request)
  join world session
  return session.channel world

end ObservatoryWatch.Chat.Matrix
