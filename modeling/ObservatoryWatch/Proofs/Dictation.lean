import ObservatoryWatch.Proofs.Course
import ObservatoryWatch.Proofs.Running

/-!
An observatory whose answers are dictated.

Histories and sequences are answered as laid down beforehand, in their order, and the clock
reads what it is told to. All other questions are refused; channels accept everything. Whole
courses can be played there, and so statements about courses can be tried out.
-/

namespace ObservatoryWatch.Monitor

open Observatory

/-- The answers still to be given. -/
structure Dictation where
  events : List (Except Fault (List Event))
  images : List (Except Fault (List Image))
  sequences : List (Except Fault (List Json))
  readings : List Binary64

namespace Dictation

def refusal : Fault := .imaging (.untried .events)

/-- Takes the next answer, or refuses when none is left. -/
def next {α : Type} (answers : Dictation → List (Except Fault α))
    (left : Dictation → List (Except Fault α) → Dictation) :
    Action (StateM Dictation) α :=
  .mk fun dictation =>
    match answers dictation with
    | [] => (.error refusal, dictation)
    | answer :: rest => (answer, left dictation rest)

def station : Imaging.Station (StateM Dictation) where
  version := throw refusal
  events := next events fun dictation events => { dictation with events }
  images := next images fun dictation images => { dictation with images }
  sequence := next sequences fun dictation sequences => { dictation with sequences }
  mount := throw refusal
  autofocus := throw refusal
  thumbnail _ _ := throw refusal

def world : World (StateM Dictation) where
  openClient timeout userAgent := return ⟨0, timeout, userAgent⟩
  closeClient _ := return
  exchange _ _ := throw refusal
  sleep _ := return
  clock := fun dictation =>
    match dictation.readings with
    | [] => (0, dictation)
    | reading :: readings => (reading, { dictation with readings })
  localTime := return .first
  timestamp := return ""
  freshMark := return ""
  log _ := return
  present _ := return
  writeFile _ _ := return

def channel : Chat.Channel (StateM Dictation) where
  name := ""
  send _ := return
  sendWithImage _ _ _ := return
  close := return

/-- A monitor of this observatory with so many channels. -/
def watcher (channels : Nat) : Watcher (StateM Dictation) where
  world := world
  station := station
  channels := .replicate channels channel
  pollInterval := 0

/-! ## Answers -/

def plain (time kind : String) : Event := ⟨time, kind, none⟩

def targetStart (name : String) : TargetStart := ⟨.whole name, .whole "", .unknown, 0, none⟩

def announcement (time name : String) : Event :=
  ⟨time, Kind.targetStarted, some (.targetStart (targetStart name))⟩

def working (name : String) : List Json :=
  [.object [("Name", .string (name ++ Node.targetEnding)), ("Status", .string "RUNNING")]]

/-- An image of which hardly anything is known but when it was taken. -/
def photo (timestamp : String) : Image :=
  ⟨timestamp, "Camera", "LIGHT", "L", 0, 0, 0, 0, "", 0, 0, 0, "", none, none, none, false⟩

/-! ## Courses -/

def minute : Binary64 := .ofNat 60

theorem minute_not_negative : minute.isLess 0 = false := by decide +kernel

/-- A gate that holds images back for a minute. -/
def gate : Gate := ⟨minute, none, 0, minute_not_negative⟩

theorem gate_fresh : Gate.new? minute = some gate := dif_pos minute_not_negative

def past {W α : Type} (watch : Watched W α) (scene : Scene W) : Scene W := (play watch scene).2

theorem yields_past {W α : Type} {watch : Watched W α} {scene : Scene W} {value : α}
    (ended : (play watch scene).1.toOption = some value) :
    Yields watch scene value (past watch scene) :=
  eq_of_toOption ended

theorem past_of_yields {W α : Type} {watch : Watched W α} {before after : Scene W} {value : α}
    (yields : Yields watch before value after) : past watch before = after :=
  congrArg Prod.snd yields

def start (dictation : Dictation) (channels : Nat) : Scene Dictation :=
  past (watcher channels).witnessed.baseline (.fresh gate dictation)

def after (scene : Scene Dictation) (channels : Nat) (phases : List Phase) : Scene Dictation :=
  past (phases.forM (watcher channels).phase) scene

variable {channels : Nat}

theorem begins {dictation : Dictation}
    (ended : (play (watcher channels).witnessed.baseline
      (.fresh gate dictation)).1.toOption = some ()) :
    Begins (watcher channels) (dictation.start channels) :=
  ⟨minute, gate, dictation, gate_fresh, yields_past ended⟩

theorem leads {scene : Scene Dictation} {phases : List Phase}
    (ended : (play (phases.forM (watcher channels).phase) scene).1.toOption = some ()) :
    Leads (watcher channels) ⟨scene, []⟩ ⟨after scene channels phases, []⟩ :=
  Watcher.phases_leads phases (yields_past ended)

end Dictation

end ObservatoryWatch.Monitor
