import ObservatoryWatch.Http.Exchange
import ObservatoryWatch.Redaction.Secret

/-!
Why a chat service has not taken a message, and why a channel to it could not be set
up. Texts that come from outside are redacted.
-/

namespace ObservatoryWatch.Chat

inductive Service where
  | discord
  | matrix
  deriving DecidableEq, Repr

def Service.name : Service → String
  | discord => "discord"
  | matrix => "matrix"

inductive DeliveryFault where
  | discordUnreachable (failure : Http.Failure)
  | discordRefused (status : Nat) (answer : String)
  | matrixUnreachable (failure : Http.Failure)
  | matrixRefused (method : Http.Method) (path : String) (status : Nat) (answer : String)
  | notJson
  | notRecord
  | noContentAddress
  deriving DecidableEq, Repr

namespace DeliveryFault

def service : DeliveryFault → Service
  | discordUnreachable _ | discordRefused _ _ => .discord
  | _ => .matrix

def message : DeliveryFault → String
  | discordUnreachable failure =>
    "Discord webhook request failed: " ++ Redaction.redact failure.reason
  | discordRefused status answer =>
    "Discord webhook returned " ++ toString status ++ ": " ++ Redaction.redact answer
  | matrixUnreachable failure => "Matrix request failed: " ++ Redaction.redact failure.reason
  | matrixRefused method path status answer =>
    "Matrix " ++ method.name ++ " " ++ path ++ " returned " ++ toString status ++ ": " ++
      Redaction.redact answer
  | notJson => "Matrix returned a non-JSON response."
  | notRecord => "Matrix returned an unexpected payload shape."
  | noContentAddress => "Matrix media upload returned no content_uri."

end DeliveryFault

inductive SetupFault where
  | wrongWebhook
  | loginFailed (cause : DeliveryFault)
  | noToken
  | joinFailed (room : String) (cause : DeliveryFault)
  deriving DecidableEq, Repr

namespace SetupFault

def service : SetupFault → Service
  | wrongWebhook => .discord
  | _ => .matrix

def message : SetupFault → String
  | wrongWebhook => "Invalid Discord webhook URL; expected https://discord.com/api/webhooks/..."
  | loginFailed cause => "Matrix login failed: " ++ cause.message
  | noToken => "Matrix login response did not include an access token."
  | joinFailed room cause => "Matrix room join failed for " ++ room ++ ": " ++ cause.message

end SetupFault

end ObservatoryWatch.Chat
