import ObservatoryWatch.Fault
import ObservatoryWatch.Http.Header

/-!
Exchanges as lines of text.

A relay is a process with access to the network. It is sent each request as one line
of JSON and answers with one line: a status and the octets of a body, the kind of
failure that it met, or a request to stop.
-/

namespace ObservatoryWatch.Http

open Text

namespace Relay

def partJson : Part → Json
  | .text name value => .object [("name", .string name), ("text", .string value)]
  | .file name filename contentType content =>
    .object
      [("name", .string name), ("filename", .string filename),
        ("content_type", .string contentType), ("hex", .string (hexText content))]

def bodyMembers : Body → List (String × Json)
  | .empty => []
  | .json value => [("json", value)]
  | .octets contentType content =>
    [("content_type", .string contentType), ("hex", .string (hexText content))]
  | .form parts => [("parts", .array (parts.map partJson))]

/-- A request of a client as one line. -/
def requestText (client : Client) (request : Request) : String :=
  Json.write .line (.object
    ([("method", .string request.method.name), ("url", .string request.url.toText),
        ("timeout", .float client.timeout)] ++
      (client.userAgent.map fun name => ("user_agent", Json.string name)).toList ++
      (request.token.map fun token =>
        ("authorization", Json.string (authorization token))).toList ++
      bodyMembers request.body))

/-- The failure that a kind's name stands for; an unknown name counts as a broken protocol. -/
def failureKind (name : String) : FailureKind :=
  ([.connecting, .reading, .protocol, .connectTimeout, .readTimeout, .poolTimeout].find? fun
    kind => FailureKind.name kind == name).getD .protocol

/-- What a line of the relay says. -/
def outcome (line : String) : Except Fault (Except Failure Response) :=
  match Json.ofText? line with
  | some answer =>
    match answer.textAt? "interrupted", answer.textAt? "failure", answer.textAt? "hex" with
    | some reason, _, _ => .error (.interrupted reason)
    | none, some kind, _ =>
      .ok (.error ⟨failureKind kind, (answer.textAt? "reason").getD ""⟩)
    | none, none, some digits =>
      match answer.members? >>= (·.find? "status"), ofHexDigits? digits.toList with
      | some (.integer status), some body => .ok (.ok ⟨status.toNat, body⟩)
      | _, _ => .ok (.error ⟨.protocol, "The relay has sent no response."⟩)
    | none, none, none => .ok (.error ⟨.protocol, "The relay has sent no response."⟩)
  | none => .ok (.error ⟨.protocol, "The relay has sent a line that is not JSON."⟩)

/-- What comes of an exchange if there is no relay. -/
def missing : Failure := ⟨.connecting, "There is no relay to the network."⟩

end Relay

end ObservatoryWatch.Http
