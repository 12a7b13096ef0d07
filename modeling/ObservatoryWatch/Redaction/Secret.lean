import ObservatoryWatch.Text.Blank
import ObservatoryWatch.Text.Caseless
import ObservatoryWatch.Text.DecimalDigit
import ObservatoryWatch.Text.WordCharacter

/-!
Secrets in plain text.

Three kinds of secret are recognised: the last part of a webhook address, the token
after the word bearer, and the value after a credential's name. A recogniser looks
at the beginning of a text, knowing the character before it, and says how far the
secret's surroundings and the secret itself reach.
-/

namespace ObservatoryWatch.Redaction

open Text

/-- What takes the place of a secret. -/
def mark : List Char := "[REDACTED]".toList

/-- A recognised stretch: the characters to show and the number of characters taken. -/
structure Finding where
  shown : List Char
  taken : Nat

/-- Looks for a secret at the beginning of a text, given the character before it. -/
abbrev Recogniser := Option Char → List Char → Option Finding

/-- Replaces every finding, left to right; a character belongs to one finding at most. -/
def replaceFrom (recognise : Recogniser) (before : Option Char) (skip : Nat) :
    List Char → List Char
  | [] => []
  | character :: rest =>
    match skip with
    | skip + 1 => replaceFrom recognise (some character) skip rest
    | 0 =>
      match recognise before (character :: rest) with
      | some finding =>
        finding.shown ++ replaceFrom recognise (some character) (finding.taken - 1) rest
      | none => character :: replaceFrom recognise (some character) 0 rest

def replace (recognise : Recogniser) (characters : List Char) : List Char :=
  replaceFrom recognise none 0 characters

/-- A word may begin here: the character before is not part of a word. -/
def wordMayBegin (before : Option Char) : Bool := !before.any isWordCharacter

/-- The finding whose kept part comes first and whose secret is replaced by the mark. -/
def finding (characters kept secret : List Char) : Finding where
  shown := characters.take kept.length ++ mark
  taken := kept.length + secret.length

/-! ## Webhook addresses -/

def isWebhookCharacter (character : Char) : Bool :=
  character.isAlphanum || character ∈ ['-', '_', '.']

def webhookHosts : List String :=
  ["https://discord.com/api/webhooks/", "https://discordapp.com/api/webhooks/"]

/-- A webhook address up to the number of the webhook is kept; the part after it is secret. -/
def webhook : Recogniser := fun _ characters =>
  webhookHosts.findSome? fun host =>
    if host.toList.isPrefixOf characters then
      let (number, afterNumber) := (characters.drop host.length).span isDecimalDigit
      match afterNumber with
      | '/' :: rest =>
        let secret := rest.takeWhile isWebhookCharacter
        if number.isEmpty || secret.isEmpty then none
        else some (finding characters (host.toList ++ number ++ ['/']) secret)
      | _ => none
    else none

/-! ## Bearer tokens -/

def isTokenCharacter (character : Char) : Bool :=
  (fold character).isAlphanum || character ∈ ['-', '.', '_', '~', '+', '/']

/-- The word bearer is kept; the blanks and the token after it give way to one mark. -/
def bearer : Recogniser := fun before characters =>
  if wordMayBegin before then
    (afterFolded? "bearer".toList characters).bind fun afterWord =>
      let (gap, afterGap) := afterWord.span isBlank
      let (token, afterToken) := afterGap.span isTokenCharacter
      let padding := afterToken.takeWhile (· == '=')
      if gap.isEmpty || token.isEmpty then none
      else some
        { shown := characters.take 6 ++ ' ' :: mark
          taken := 6 + gap.length + token.length + padding.length }
  else none

/-! ## Named credentials -/

def credentialNames : List String :=
  ["authorization", "access_token", "password", "token", "secret"]

def isQuote (character : Char) : Bool := character == '"' || character == '\''

/-- Characters that end a credential's value. -/
def endsValue (character : Char) : Bool :=
  isBlank character || isQuote character || character ∈ [',', ';', '&', '\x7d']

def takeQuote : List Char → List Char × List Char
  | character :: rest => if isQuote character then ([character], rest) else ([], character :: rest)
  | [] => ([], [])

/-- Between name and value: a colon or an equals sign, with blanks and a quote on either side. -/
def assignment? (characters : List Char) : Option (List Char × List Char) :=
  let (openQuote, afterQuote) := takeQuote characters
  let (gap, afterGap) := afterQuote.span isBlank
  match afterGap with
  | sign :: rest =>
    if sign == ':' || sign == '=' then
      let (secondGap, afterSecond) := rest.span isBlank
      let (valueQuote, value) := takeQuote afterSecond
      some (openQuote ++ gap ++ sign :: secondGap ++ valueQuote, value)
    else none
  | [] => none

/-- A credential's name and the assignment are kept; the value is secret. -/
def credential : Recogniser := fun before characters =>
  if wordMayBegin before then
    credentialNames.findSome? fun name => do
      let afterName ← afterFolded? name.toList characters
      let (sign, value) ← assignment? afterName
      let secret := value.takeWhile (!endsValue ·)
      if secret.isEmpty then none
      else some (finding characters (name.toList ++ sign) secret)
  else none

/-! ## All kinds together -/

def redactChars (characters : List Char) : List Char :=
  replace credential (replace bearer (replace webhook characters))

/-- The text with every recognised secret replaced by the mark. -/
def redact (text : String) : String := String.ofList (redactChars text.toList)

end ObservatoryWatch.Redaction
