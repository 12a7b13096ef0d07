import ObservatoryWatch.Card.Basic
import ObservatoryWatch.World

/-!
Channels to chat services, and sending a card to all of them.

A channel takes a card alone or together with an image, and may fail at either. One
channel's failure is logged and never keeps a card from the channels after it.
-/

namespace ObservatoryWatch.Chat

variable {m : Type → Type} [Monad m]

structure Channel (m : Type → Type) where
  name : String
  send : Card → Action m Unit
  sendWithImage : Card → Bytes → String → Action m Unit
  close : Action m Unit

/-- An image together with the name that it is sent under. -/
structure Attachment where
  content : Bytes
  filename : String

/-- Gives a channel a card, with the image if there is one. -/
def Channel.deliver (channel : Channel m) (card : Card) : Option Attachment → Action m Unit
  | none => channel.send card
  | some image => channel.sendWithImage card image.content image.filename

def failureNotice (card : Card) (channel : String) (fault : Fault) : Log.Record :=
  (Log.Record.error ("Failed sending '" ++ card.title ++ "' to " ++ channel ++ ": " ++
    Redaction.redact fault.message)).about channel

/-- Gives every channel a card; the names of the channels that failed. -/
def deliverAll (world : World m) (card : Card) (image : Option Attachment) :
    List (Channel m) → Action m (List String)
  | [] => return []
  | channel :: rest => do
    match ← (channel.deliver card image).attempt with
    | .ok _ => deliverAll world card image rest
    | .error fault =>
      world.log (failureNotice card channel.name fault)
      let others ← deliverAll world card image rest
      return channel.name :: others

/-- Gives every channel a card with an image that is fetched once, or the card alone if
the image cannot be had. Without channels nothing is fetched. -/
def deliverWithImage (world : World m) (channels : List (Channel m)) (card : Card)
    (fetch : Action m Bytes) (filename : String) : Action m (List String) :=
  if channels.isEmpty then return []
  else do
    match ← fetch.attempt with
    | .ok content => deliverAll world card (some ⟨content, filename⟩) channels
    | .error fault =>
      world.log (.warning ("Attachment " ++ filename ++
        " unavailable, sending text only: " ++ Redaction.redact fault.message))
      deliverAll world card none channels

/-- Closes every channel; a failure is logged and the next one is closed. -/
def closeAll (world : World m) : List (Channel m) → Action m Unit
  | [] => return
  | channel :: rest => do
    match ← channel.close.attempt with
    | .ok _ => closeAll world rest
    | .error fault =>
      world.log (.warning ("Failed closing " ++ channel.name ++ " channel: " ++ fault.message))
      closeAll world rest

end ObservatoryWatch.Chat
