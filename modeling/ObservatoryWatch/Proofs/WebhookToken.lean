import ObservatoryWatch.Log.Entry
import ObservatoryWatch.Proofs.NamedValue

/-!
The token of a webhook address, whatever text the address stands in.

The pass for webhook addresses is the first one, and it takes the token of an address as a whole. So
the text that is handed on to the other passes does not hold the token any more, and neither does
the log line of a message that mentions the address.
-/

namespace ObservatoryWatch.Redaction

open Text

/-! ## The first pass -/

/-- Where an address may begin does not depend on what comes before it. -/
theorem replaceFrom_webhook (before other : Option Char) (skip : Nat) (text : List Char) :
    replaceFrom webhook before skip text = replaceFrom webhook other skip text := by
  cases text with
  | nil => rfl
  | cons character rest => rfl

/-- At the end of a text that ends in a blank no webhook address waits for its token. -/
theorem webhook_parts {front : List Char} {next : Char} (ends : EndsBlank front)
    (plain : isPlain next = true) : Parts webhook none front next := by
  rcases webhook_describes.parts_or_awaits none ends plain with parts | awaits
  · exact parts
  · rcases awaits with ⟨start, kept, gap, early, rfl, ⟨rfl, host, _, number, _, _, rfl⟩, _, _⟩
    exact absurd (ends '/' (by simp)) (by decide)

section Address

variable {front address token back : List Char} (ends : EndsBlank front)
  (isAddress : IsWebhookAddress address) (some : token ≠ [])
  (body : ∀ character ∈ token, isWebhookCharacter character = true)
  (apart : ∀ character ∈ back.head?, isWebhookCharacter character = false)
include ends isAddress some body apart

/-- The first pass deals with the text before the address and with the text after the token as if
each stood alone. -/
theorem replace_webhook_address :
    replace webhook (front ++ (address ++ (token ++ back))) =
      replace webhook front ++ (address ++ (mark ++ replace webhook back)) := by
  have opens : ∀ before, webhookPattern.Opens before address [] := fun _ => ⟨rfl, isAddress⟩
  have begins : ∃ more, address = 'h' :: more := by
    cases shape : address with
    | nil => exact absurd shape (webhookPattern.kept_ne_nil (opens none))
    | cons character more =>
        have head := webhook_head (opens none) (by rw [shape]; rfl)
        exact ⟨more, by rw [head]⟩
  rcases begins with ⟨more, shape⟩
  cases token with
  | nil => exact absurd rfl some
  | cons first rest =>
      have tokenBegins : webhookPattern.body first = true := body first List.mem_cons_self
      have hidden := webhook_describes.replaceFrom_hidden (rest ++ back)
        (opens (front.getLast?.or none)) tokenBegins
      have beyond : webhookPattern.beyond (first :: (rest ++ back)) = back := by
        rw [Pattern.beyond_of_unpadded rfl]
        exact (takeWhile_eq (first :: rest) back body apart).2
      have later := replaceFrom_webhook (webhookPattern.secret (first :: (rest ++ back))).getLast?
        none 0 back
      rw [beyond, later, List.append_nil] at hidden
      have parts := webhook_parts ends (show isPlain 'h' = true by decide)
        (more ++ (first :: (rest ++ back)))
      rw [← List.cons_append, ← shape, hidden] at parts
      rw [replace, List.cons_append, parts]
      simp only [List.append_assoc]
      rfl

/-- So the redacted text tells nothing of the token. -/
theorem redactChars_webhook_address :
    redactChars (front ++ (address ++ (token ++ back))) =
      replace credential (replace bearer
        (replace webhook front ++ (address ++ (mark ++ replace webhook back)))) := by
  rw [redactChars, replace_webhook_address ends isAddress some body apart]

end Address

/-! ## Texts -/

/-- The hosts of webhook addresses. -/
def webhookDomains : List String := ["discord.com", "discordapp.com"]

/-- A webhook address as far as its token. -/
def webhookAddress (domain number : String) : String :=
  "https://" ++ domain ++ "/api/webhooks/" ++ number ++ "/"

/-- The number of a webhook. -/
def IsWebhookNumber (number : String) : Prop :=
  number ≠ "" ∧ ∀ character ∈ number.toList, isDecimalDigit character = true

/-- What may be the token of a webhook. -/
def IsWebhookToken (token : String) : Prop :=
  token ≠ "" ∧ ∀ character ∈ token.toList, isWebhookCharacter character = true

instance (number : String) : Decidable (IsWebhookNumber number) :=
  decidable_of_iff (number ≠ "" ∧ number.toList.all isDecimalDigit = true)
    (by rw [List.all_eq_true, IsWebhookNumber])

instance (token : String) : Decidable (IsWebhookToken token) :=
  decidable_of_iff (token ≠ "" ∧ token.toList.all isWebhookCharacter = true)
    (by rw [List.all_eq_true, IsWebhookToken])

theorem isWebhookAddress_webhookAddress {domain number : String}
    (known : domain ∈ webhookDomains) (numbered : IsWebhookNumber number) :
    IsWebhookAddress (webhookAddress domain number).toList := by
  have hosts : ∀ domain ∈ webhookDomains,
      "https://" ++ domain ++ "/api/webhooks/" ∈ webhookHosts := by decide
  refine ⟨_, hosts domain known, number.toList, mt String.toList_eq_nil_iff.mp numbered.1,
    numbered.2, ?_⟩
  simp only [webhookAddress, String.toList_append]
  rfl

/-- A message that holds a webhook address is redacted to the same text, and written as the same log
line, whatever the token of the address is. -/
theorem webhook_token_hidden {before domain number first second after : String}
    (ends : EndsBlank before.toList) (known : domain ∈ webhookDomains)
    (numbered : IsWebhookNumber number) (firstToken : IsWebhookToken first)
    (secondToken : IsWebhookToken second)
    (apart : ∀ character ∈ after.toList.head?, isWebhookCharacter character = false) :
    redact (before ++ webhookAddress domain number ++ first ++ after) =
        redact (before ++ webhookAddress domain number ++ second ++ after) ∧
      ∀ entry : Log.Entry,
        { entry with message := before ++ webhookAddress domain number ++ first ++ after }.line =
          { entry with
            message := before ++ webhookAddress domain number ++ second ++ after }.line := by
  have isAddress := isWebhookAddress_webhookAddress known numbered
  have shown : ∀ {token}, IsWebhookToken token →
      redact (before ++ webhookAddress domain number ++ token ++ after) =
        String.ofList (replace credential (replace bearer (replace webhook before.toList ++
          ((webhookAddress domain number).toList ++ (mark ++ replace webhook after.toList))))) := by
    intro token isToken
    have some : token.toList ≠ [] := mt String.toList_eq_nil_iff.mp isToken.1
    rw [redact, String.toList_append, String.toList_append, String.toList_append,
      List.append_assoc, List.append_assoc,
      redactChars_webhook_address ends isAddress some isToken.2 apart]
  have same : redact (before ++ webhookAddress domain number ++ first ++ after) =
      redact (before ++ webhookAddress domain number ++ second ++ after) := by
    rw [shown firstToken, shown secondToken]
  refine ⟨same, fun entry => ?_⟩
  simp only [Log.Entry.line, Log.Entry.members, same]

/-- A token that is itself a word before secrets is hidden as any other one. -/
theorem webhook_token_hidden_bearer :
    redact ("gave " ++ webhookAddress "discord.com" "123" ++ "bearer" ++ " x, token: y") =
      redact ("gave " ++ webhookAddress "discord.com" "123" ++ "Abc-1_2.3" ++ " x, token: y") :=
  (webhook_token_hidden (by decide) (by decide) (by decide) (by decide) (by decide)
    (fun _ first => by cases first; rfl)).1

end ObservatoryWatch.Redaction
