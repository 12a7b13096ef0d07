import ObservatoryWatch.Json.Basic
import ObservatoryWatch.Redaction.Secret
import ObservatoryWatch.Text.Search

/-!
Secrets in nested values.

A value stored under a key that names a credential is replaced as a whole; texts
everywhere else are redacted as plain text. Keys, lengths and all other values stay.
-/

namespace ObservatoryWatch.Redaction

open Text

/-- A value without parts that is not a text. -/
inductive Scalar where
  | null
  | bool (value : Bool)
  | integer (value : Int)
  | float (value : Binary64)
  deriving DecidableEq

/-- A nested value as it is handed to the log, with keys of type `κ`. -/
inductive Nested (κ : Type) where
  | scalar (value : Scalar)
  | text (text : String)
  | list (items : List (Nested κ))
  | tuple (items : List (Nested κ))
  | mapping (members : List (κ × Nested κ))

def keyWords : List String :=
  ["authorization", "token", "secret", "password", "webhookurl", "webhook_url", "webhook-url"]

/-- A key that holds one of the key words, in any case and anywhere. -/
def isSensitiveKey (key : String) : Bool :=
  keyWords.any fun word => occursIn word.toList (key.toList.map fold)

section

variable {κ : Type} [ToString κ]

mutual
/-- Whether a key is sensitive is read off its text. -/
def redactNested : Nested κ → Nested κ
  | .scalar value => .scalar value
  | .text text => .text (redact text)
  | .list items => .list (redactItems items)
  | .tuple items => .tuple (redactItems items)
  | .mapping members => .mapping (redactMembers members)

def redactItems : List (Nested κ) → List (Nested κ)
  | [] => []
  | item :: rest => redactNested item :: redactItems rest

def redactMembers : List (κ × Nested κ) → List (κ × Nested κ)
  | [] => []
  | (key, value) :: rest =>
    (key, if isSensitiveKey (toString key) then .text (String.ofList mark)
      else redactNested value) :: redactMembers rest
end

end

/-! ## As JSON

A tuple is written as a list. -/

def Scalar.toJson : Scalar → Json
  | .null => .null
  | .bool value => .bool value
  | .integer value => .integer value
  | .float value => .float value

mutual
def Nested.toJson : Nested String → Json
  | .scalar value => value.toJson
  | .text text => .string text
  | .list items | .tuple items => .array (itemsToJson items)
  | .mapping members => .object (membersToJson members)

def itemsToJson : List (Nested String) → List Json
  | [] => []
  | item :: rest => item.toJson :: itemsToJson rest

def membersToJson : List (String × Nested String) → List (String × Json)
  | [] => []
  | (key, value) :: rest => (key, value.toJson) :: membersToJson rest
end

end ObservatoryWatch.Redaction
