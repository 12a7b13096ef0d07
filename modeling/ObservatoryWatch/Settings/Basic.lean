import ObservatoryWatch.Chat.Matrix
import ObservatoryWatch.Payload.Decoder
import ObservatoryWatch.Redaction.Nested
import ObservatoryWatch.Settings.EnvFile

/-!
Settings of the program.

Every setting has a name in the environment and a value for its absence. A value
from the environment counts before one from the file of variables, and names are
compared without regard to case. Settings that can be read one by one must still
keep a list of rules together.
-/

namespace ObservatoryWatch

open Payload Payload.Checked Text

structure Settings where
  host : String
  timeout : Binary64
  retries : Int
  pollInterval : Binary64
  imageCooldown : Binary64
  discordEnabled : Bool
  discordWebhook : Option String
  matrixEnabled : Bool
  matrixHomeserver : Option String
  matrixUsername : Option String
  matrixPassword : Option String
  matrixRoom : Option String
  logLevel : String

namespace Settings

/-! ## Names -/

def hostName : String := "SPACECAT_API_BASE_URL"
def timeoutName : String := "SPACECAT_TIMEOUT_SECONDS"
def retriesName : String := "SPACECAT_RETRY_ATTEMPTS"
def pollIntervalName : String := "POLL_INTERVAL_SECONDS"
def imageCooldownName : String := "IMAGE_COOLDOWN_SECONDS"
def discordEnabledName : String := "DISCORD_ENABLED"
def discordWebhookName : String := "DISCORD_WEBHOOK_URL"
def matrixEnabledName : String := "MATRIX_ENABLED"
def matrixHomeserverName : String := "MATRIX_HOMESERVER_URL"
def matrixUsernameName : String := "MATRIX_USERNAME"
def matrixPasswordName : String := "MATRIX_PASSWORD"
def matrixRoomName : String := "MATRIX_ROOM_ID"
def logLevelName : String := "LOG_LEVEL"

def names : List String :=
  [hostName, timeoutName, retriesName, pollIntervalName, imageCooldownName,
    discordEnabledName, discordWebhookName, matrixEnabledName, matrixHomeserverName,
    matrixUsernameName, matrixPasswordName, matrixRoomName, logLevelName]

/-! ## Values -/

/-- A credential; a blank text counts as none. -/
def credential : Decoder (Option String)
  | .string value => if value.toList.all isBlank then valid none else valid (some value)
  | value => nullable text value

/-- A word for a log level, in any case and with blanks around it. -/
def levelWord : Decoder String
  | .string value =>
    oneOf (Log.Level.words.map (·.1))
      (.string (lowerText (String.ofList (trimWith isBlank value.toList))))
  | value => oneOf (Log.Level.words.map (·.1)) value

/-- A setting that may be absent. -/
def setting {α : Type} (name : String) (absent : α) (decode : Decoder α)
    (members : Json.Members) : Checked α :=
  Field.optional ⟨name, name⟩ absent decode members

/-- The settings as given, each checked on its own. -/
def read (members : Json.Members) : Checked Settings :=
  mk <$> setting hostName "http://192.168.0.82:1888" text members
    <*> setting timeoutName (.ofNat 30) number members
    <*> setting retriesName 3 whole members
    <*> setting pollIntervalName (.ofNat 5) number members
    <*> setting imageCooldownName (.ofNat 60) number members
    <*> setting discordEnabledName true truth members
    <*> setting discordWebhookName none credential members
    <*> setting matrixEnabledName true truth members
    <*> setting matrixHomeserverName none credential members
    <*> setting matrixUsernameName none credential members
    <*> setting matrixPasswordName none credential members
    <*> setting matrixRoomName none credential members
    <*> setting logLevelName "info" levelWord members

/-! ## Rules -/

def matrixCredentials (settings : Settings) : List (Option String) :=
  [settings.matrixHomeserver, settings.matrixUsername, settings.matrixPassword,
    settings.matrixRoom]

/-- A rule is broken by some settings; its text says what it asks for. -/
structure Rule where
  text : String
  isBroken : Settings → Bool

def rules : List Rule :=
  [⟨"SPACECAT_API_BASE_URL cannot be empty.", (·.host.isEmpty)⟩,
    ⟨"SPACECAT_API_BASE_URL must start with http:// or https://.",
      fun settings => !(startsWith settings.host "http://" ||
        startsWith settings.host "https://")⟩,
    ⟨"SPACECAT_TIMEOUT_SECONDS must be > 0.", (·.timeout.isAtMost 0)⟩,
    ⟨"SPACECAT_TIMEOUT_SECONDS should not exceed 300 (5 minutes).",
      fun settings => Binary64.isLess (.ofNat 300) settings.timeout⟩,
    ⟨"SPACECAT_RETRY_ATTEMPTS must be >= 0.", fun settings => settings.retries < 0⟩,
    ⟨"SPACECAT_RETRY_ATTEMPTS should not exceed 10.", fun settings => 10 < settings.retries⟩,
    ⟨"POLL_INTERVAL_SECONDS must be > 0.", (·.pollInterval.isAtMost 0)⟩,
    ⟨"IMAGE_COOLDOWN_SECONDS must be >= 0.", (·.imageCooldown.isLess 0)⟩,
    ⟨"MATRIX_HOMESERVER_URL, MATRIX_USERNAME, MATRIX_PASSWORD and " ++
        "MATRIX_ROOM_ID must be set together.",
      fun settings => settings.matrixCredentials.any (·.isSome) &&
        !settings.matrixCredentials.all (·.isSome)⟩]

/-- The settings, if they keep the rules; the first broken rule is the problem. -/
def keepRules (settings : Settings) : Checked Settings :=
  match rules.find? (·.isBroken settings) with
  | some rule => complain (.rejected rule.text)
  | none => valid settings

def ofMembers (members : Json.Members) : Except Rejection Settings :=
  ((read members).andThen keepRules).asResult "Settings"

/-! ## Sources -/

/-- What is given last to a name, whatever the case in which the name is written. -/
def valueOf? {α : Type} (bindings : List (String × α)) (name : String) : Option α :=
  (bindings.reverse.find? fun binding => lowerText binding.1 == lowerText name).map (·.2)

/-- The values that the environment or else a file of variables gives to the settings. -/
def given (environment : List (String × String)) (file : EnvFile.Variables) :
    Json.Members :=
  names.filterMap fun name =>
    ((valueOf? environment name).or (valueOf? file name).join).map fun value =>
      (name, .string value)

/-- Settings from the environment and the text of a file of variables, if there is one. -/
def load (environment : List (String × String)) (file : Option String) :
    Except Rejection Settings :=
  ofMembers (given environment ((file.map (EnvFile.evaluate environment)).getD []))

/-- What is said when the settings are refused. -/
def refusal (rejection : Rejection) : String := "Invalid configuration: " ++ rejection.message

/-! ## Chat channels -/

/-- A chat channel that is to be set up. -/
inductive ChannelAccount where
  | discord (webhook : String)
  | matrix (account : Chat.Matrix.Account)
  deriving DecidableEq

def ChannelAccount.service : ChannelAccount → Chat.Service
  | discord _ => .discord
  | matrix _ => .matrix

def discordAccount? (settings : Settings) : Option ChannelAccount :=
  if settings.discordEnabled then settings.discordWebhook.map .discord else none

def matrixAccount? (settings : Settings) : Option ChannelAccount :=
  if settings.matrixEnabled then do
    let homeserver ← settings.matrixHomeserver
    let username ← settings.matrixUsername
    let password ← settings.matrixPassword
    let room ← settings.matrixRoom
    return .matrix ⟨homeserver, username, password, room⟩
  else none

/-- The channels that are enabled and have credentials, in the order of delivery. -/
def channelAccounts (settings : Settings) : List ChannelAccount :=
  settings.discordAccount?.toList ++ settings.matrixAccount?.toList

/-! ## Summary -/

open Redaction in
/-- What the log may know of the settings: no credentials. -/
def summary (settings : Settings) : Nested String :=
  .mapping
    [("api_base_url", .text settings.host),
      ("api_timeout_seconds", .scalar (.float settings.timeout)),
      ("api_retry_attempts", .scalar (.integer settings.retries)),
      ("poll_interval_seconds", .scalar (.float settings.pollInterval)),
      ("image_cooldown_seconds", .scalar (.float settings.imageCooldown)),
      ("channels",
        .list (settings.channelAccounts.map fun account => .text account.service.name)),
      ("log_level", .text settings.logLevel)]

end Settings

end ObservatoryWatch
