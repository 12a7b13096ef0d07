import ObservatoryWatch.Card.Written
import ObservatoryWatch.Chat.Channel
import ObservatoryWatch.Json.Writer

/-!
A channel to a Discord webhook.

A card is posted as an embed. An image goes into the same request, as a file of a
form whose other part is the embed.
-/

namespace ObservatoryWatch.Chat.Discord

open Http

variable {m : Type → Type} [Monad m]

/-- What the address of a webhook begins with. -/
def webhookBeginnings : List String :=
  ["https://discord.com/api/webhooks/", "https://discordapp.com/api/webhooks/"]

def isWebhook (address : String) : Bool :=
  webhookBeginnings.any fun beginning => Text.startsWith address beginning

def embeds (embed : Json) : Json := .object [("embeds", .array [embed])]

def cardBody (card : Card) : Body := .json (embeds card.toEmbed)

def imageBody (card : Card) (content : Bytes) (filename : String) : Body :=
  .form
    [.text "payload_json" (Json.write .ascii (embeds (card.toEmbedWithImage filename))),
      .file "file" filename "image/jpeg" content]

/-- Posts a body to the webhook. -/
def post (world : World m) (client : Client) (webhook : String) (body : Body) :
    Action m Unit := do
  match ← world.exchange client ⟨.post, Url.ofText webhook, none, body⟩ with
  | .error failure => throw (.delivery (.discordUnreachable failure))
  | .ok response =>
    if response.isRefusal then
      throw (.delivery (.discordRefused response.status response.excerpt))
    else
      world.log (.debug ("Discord notification delivered (" ++ toString response.status ++ ")"))

/-- Sets up the channel; only an address of a webhook will do. -/
def openChannel (world : World m) (timeout : Binary64) (webhook : String) :
    Action m (Channel m) := do
  if isWebhook webhook then
    let client ← world.openClient timeout none
    return {
      name := Service.discord.name
      send := fun card => post world client webhook (cardBody card)
      sendWithImage := fun card content filename =>
        post world client webhook (imageBody card content filename)
      close := world.closeClient client }
  else throw (.setup .wrongWebhook)

end ObservatoryWatch.Chat.Discord
