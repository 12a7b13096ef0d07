import ObservatoryWatch.Proofs.Observer

/-!
Transcripts.

A transcript is kept beside the surroundings. It notes every request with what came of it, every
pause and every message to the log, and also what a channel was given and what came of that. Nobody
in the program can read it. Servers whose answers are laid down beforehand complete it: a program
part can be run against any course of answers, and the transcript tells what it has done.
-/

namespace ObservatoryWatch

inductive Note where
  /-- A request of a party, known by its number, and what came of it. -/
  | exchange (party : Nat) (request : Http.Request)
      (outcome : Except Fault (Except Http.Failure Http.Response))
  | pause (seconds : Binary64)
  | log (record : Log.Record)
  /-- A channel, known by its position, was given a card, alone or with an image. -/
  | delivery (position : Nat) (card : Card) (image : Option Chat.Attachment)
      (outcome : Except Fault Unit)
  /-- The octets of an image were fetched. -/
  | fetch (outcome : Except Fault Bytes)

/-- Everything noted so far, in the order in which it happened. -/
abbrev Transcript := List Note

/-- Surroundings with a transcript. -/
abbrev Transcribed (W : Type) := StateM (W × Transcript)

variable {W : Type}

/-! ## Keeping a transcript -/

def transcriber : Observer (StateM W) (Transcribed W) Note :=
  .beside fun transcript note => transcript ++ [note]

/-- The same world for a party whose doings are noted. -/
def transcribed (party : Nat) (world : World (StateM W)) : World (Transcribed W) :=
  transcriber.world
    { exchanged := some (.exchange party), slept := some .pause, logged := some .log } world

theorem exchange_transcribed_run {world : World (StateM W)} {client : Http.Client}
    {request : Http.Request} {before after : W}
    {outcome : Except Fault (Except Http.Failure Http.Response)}
    (ran : (world.exchange client request).run.run before = (outcome, after)) (party : Nat)
    (transcript : Transcript) :
    ((transcribed party world).exchange client request).run.run (before, transcript) =
      (outcome, after, transcript ++ [.exchange party request outcome]) :=
  Observer.beside_perform_run _ ran _ _

/-! ## Answers laid down -/

/-- What a request can come to: a response, or a failure of the exchange. -/
abbrev Outcome := Except Http.Failure Http.Response

/-- Servers that answer the requests as laid down, one after the other. The surroundings count
the requests, and nothing else is of interest. -/
def answering (script : Nat → Outcome) : World (StateM Nat) where
  openClient timeout userAgent := return ⟨0, timeout, userAgent⟩
  closeClient _ := return
  exchange _ _ := .mk fun number => (.ok (script number), number + 1)
  sleep _ := return
  clock := return 0
  localTime := return .first
  timestamp := return ""
  freshMark := return ""
  log _ := return
  present _ := return
  writeFile _ _ := return

end ObservatoryWatch
