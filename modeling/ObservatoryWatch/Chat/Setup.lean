import ObservatoryWatch.Chat.Discord
import ObservatoryWatch.Settings.Basic

/-!
Setting up the chat channels that the settings ask for.

The channels are opened in order. If one cannot be opened, those before it are
closed and the fault is passed on.
-/

namespace ObservatoryWatch.Chat

variable {m : Type → Type} [Monad m]

def openChannel (world : World m) (timeout : Binary64) :
    Settings.ChannelAccount → Action m (Channel m)
  | .discord webhook => Discord.openChannel world timeout webhook
  | .matrix account => Matrix.openChannel world timeout account

def closeInOrder : List (Channel m) → Action m Unit
  | [] => return
  | channel :: rest => do
    channel.close
    closeInOrder rest

/-- Opens channels one after the other, those that are open already given first. -/
def openFrom (world : World m) (timeout : Binary64) (opened : List (Channel m)) :
    List Settings.ChannelAccount → Action m (List (Channel m))
  | [] => return opened
  | account :: rest => do
    let channel ← (openChannel world timeout account).orElseFirst (closeInOrder opened)
    openFrom world timeout (opened ++ [channel]) rest

def readyNotice (channels : List (Channel m)) : Log.Record :=
  if channels.isEmpty then
    .warning "No chat channels configured; running in monitoring-only mode"
  else .info ("Chat channels ready: " ++ ", ".intercalate (channels.map (·.name)))

/-- Opens every channel that the settings ask for. -/
def openAll (world : World m) (settings : Settings) : Action m (List (Channel m)) := do
  let channels ← openFrom world settings.timeout [] settings.channelAccounts
  world.log (readyNotice channels)
  return channels

end ObservatoryWatch.Chat
