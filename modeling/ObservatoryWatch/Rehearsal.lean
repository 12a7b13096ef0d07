import ObservatoryWatch.Chat.Channel
import ObservatoryWatch.Json.Display
import ObservatoryWatch.Text.Search

/-!
A scripted world for rehearsals.

Servers answer with replies that were laid down beforehand, clocks move only when the
program sleeps, and everything that is done is noted. So the whole program can be run
without a network, and statements about it can be tried out on concrete scripts.
-/

namespace ObservatoryWatch

open Calendar Chat

/-- How a scripted server answers a request. -/
inductive Reply where
  | response (response : Http.Response)
  | failure (failure : Http.Failure)
  | fault (fault : Fault)

/-- What a recording channel was given. -/
inductive Receipt where
  | card (channel : String) (card : Card) (image : Option Attachment)
  | closed (channel : String)

/-- Replies by a part of the request that they are for. -/
abbrev Routes := List (String × List Reply)

/-- A scripted world; what is noted comes with the latest first. -/
structure Script where
  routes : Routes
  clock : Binary64
  now : Moment
  timestamp : String
  clients : Nat
  marks : Nat
  exchanges : List (Http.Client × Http.Request)
  sleeps : List Binary64
  logs : List Log.Record
  closed : List Nat
  shown : List Shown
  files : List (String × Bytes)
  receipts : List Receipt

abbrev Rehearsal := StateM Script

namespace Script

/-- A world in which nothing has happened yet. -/
def new (now : Moment) : Script :=
  { routes := [], clock := 0, now, timestamp := now.utcText, clients := 0, marks := 0,
    exchanges := [], sleeps := [], logs := [], closed := [], shown := [], files := [],
    receipts := [] }

/-- The same world with the notes about exchanges and messages taken away. -/
def cleared (script : Script) : Script :=
  { script with exchanges := [], sleeps := [], logs := [], receipts := [] }

/-- Lays down replies for a part of a request; a part that is known keeps its place. -/
def putRoute (routes : Routes) (part : String) (replies : List Reply) : Routes :=
  if routes.any (·.1 == part) then
    routes.map fun route => if route.1 == part then (part, replies) else route
  else routes ++ [(part, replies)]

def putRoutes (routes more : Routes) : Routes :=
  more.foldl (fun routes (part, replies) => putRoute routes part replies) routes

/-- What a server says that knows no reply. -/
def noReply : Reply := .response ⟨404, Text.utf8 "no route"⟩

/-- The next reply of the first route that fits, and the routes afterwards. The last reply
of a route is given again and again. -/
def takeReply (request : String) : Routes → Reply × Routes
  | [] => (noReply, [])
  | (part, replies) :: rest =>
    if Text.contains request part then
      match replies with
      | [] => (noReply, (part, []) :: rest)
      | [last] => (last, (part, [last]) :: rest)
      | reply :: others => (reply, (part, others) :: rest)
    else
      let (reply, rest) := takeReply request rest
      (reply, (part, replies) :: rest)

end Script

namespace Rehearsal

/-- Method and target of a request in one line. -/
def requestLine (request : Http.Request) : String :=
  request.method.name ++ " " ++ request.url.target

def exchange (client : Http.Client) (request : Http.Request) :
    Action Rehearsal (Except Http.Failure Http.Response) := do
  let script ← getThe Script
  let (reply, routes) := Script.takeReply (requestLine request) script.routes
  set { script with routes, exchanges := (client, request) :: script.exchanges }
  match reply with
  | .response response => return .ok response
  | .failure failure => return .error failure
  | .fault fault => throw fault

/-- The longest name of a file, in octets. -/
def longestName : Nat := 255

/-- Writes a file into a directory that has no others in it. -/
def writeFile (path : String) (content : Bytes) : Action Rehearsal Unit :=
  if path == "." || path == ".." || path == "/" then
    throw (.system ("[Errno 21] Is a directory: " ++ Json.quoted path))
  else if path.toList.contains '/' then
    throw (.system ("[Errno 2] No such file or directory: " ++ Json.quoted path))
  else if longestName < (Text.utf8 path).length then
    throw (.system ("[Errno 36] File name too long: " ++ Json.quoted path))
  else modifyThe Script fun script =>
    { script with files := script.files.filter (·.1 != path) ++ [(path, content)] }

def world : World Rehearsal where
  openClient timeout userAgent := do
    let script ← get
    set { script with clients := script.clients + 1 }
    return ⟨script.clients, timeout, userAgent⟩
  closeClient client := modify fun script =>
    { script with closed := client.number :: script.closed }
  exchange := exchange
  sleep seconds := modifyThe Script fun script =>
    { script with sleeps := seconds :: script.sleeps, clock := script.clock + seconds }
  clock := return (← get).clock
  localTime := return (← get).now
  timestamp := return (← get).timestamp
  freshMark := do
    let script ← get
    set { script with marks := script.marks + 1 }
    return String.ofList (Text.hexDigits 32 (script.marks + 1))
  log record := modify fun script => { script with logs := record :: script.logs }
  present item := modifyThe Script fun script => { script with shown := item :: script.shown }
  writeFile := writeFile

/-! ## Recording channels -/

/-- Notes a receipt and then fails, if a message for that is given. -/
def receive (receipt : Receipt) (failure : Option String) : Action Rehearsal Unit := do
  modifyThe Script fun script => { script with receipts := receipt :: script.receipts }
  match failure with
  | some message => throw (.unforeseen message)
  | none => return

/-- A channel that notes what it is given; its sends or its closing may fail. -/
def channel (name : String) (sendFailure closeFailure : Option String) : Channel Rehearsal where
  name
  send := fun card => receive (.card name card none) sendFailure
  sendWithImage := fun card content filename =>
    receive (.card name card (some ⟨content, filename⟩)) sendFailure
  close := receive (.closed name) closeFailure

end Rehearsal

end ObservatoryWatch
