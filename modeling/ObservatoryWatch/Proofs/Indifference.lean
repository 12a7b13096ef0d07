import ObservatoryWatch.Proofs.Delivery
import ObservatoryWatch.Proofs.Dictation
import ObservatoryWatch.Proofs.Mirror

/-!
Monitors that hear the same.

Two monitors in surroundings that answer alike go through the same run, whatever becomes of the
cards that they send; one that has nobody to send cards to learns as much as one that has. The
surroundings may be of different kinds. What they have in common is a relation between them, which
every question keeps that both answer alike.
-/

namespace ObservatoryWatch.Monitor

open Observatory

variable {W V U α : Type}

/-- From alike surroundings both actions come to the same, and the surroundings stay alike. -/
def Agrees (alike : W → V → Prop) (left : StateM W α) (right : StateM V α) : Prop :=
  ∀ world other, alike world other →
    (left.run world).1 = (right.run other).1 ∧ alike (left.run world).2 (right.run other).2

/-! ## Watches in pairs -/

/-- From related scenes both watches come to the same, and the scenes stay related. -/
def paired (related : Scene W → Scene V → Prop) :
    Likeness (Witnessed (StateM W)) (Witnessed (StateM V)) where
  Alike _ left right := ∀ before other, related before other →
    (play left before).1 = (play right other).1 ∧ related (play left before).2 (play right other).2
  pure _ _ _ start := ⟨rfl, start⟩
  bind := by
    intro α β early late left right leftNext rightNext first next before other start
    have led := first before other start
    rw [play_bind, play_bind]
    generalize play left before = halfway at led ⊢
    generalize play right other = otherway at led ⊢
    rcases halfway with ⟨_ | value, middle⟩ <;> rcases otherway with ⟨_ | other, between⟩ <;>
      rcases led with ⟨⟨⟩, related⟩
    · exact ⟨rfl, related⟩
    · exact next value middle between related

/-- A relation of scenes that asks no more of the surroundings than that they are alike, and of the
memories that they know the same. -/
structure Relating (alike : W → V → Prop) (related : Scene W → Scene V → Prop) : Prop where
  world {before : Scene W} {other : Scene V} : related before other →
    alike before.world other.world
  knowledge {before : Scene W} {other : Scene V} : related before other →
    before.state.knowledge = other.state.knowledge
  learned {before : Scene W} {other : Scene V} (change : Knowledge → Knowledge) :
    related before other → related (before.updated (State.learned change))
      (other.updated (State.learned change))
  inWorld {before : Scene W} {other : Scene V} {world : W} {otherWorld : V} :
    related before other → alike world otherWorld →
      related (before.inWorld world) (other.inWorld otherWorld)
  jotted {before : Scene W} {other : Scene V} (entry : Entry) : related before other →
    related (before.jotted entry) (other.jotted entry)

/-- A watch of which at most the surroundings take notice, and not in what holds of them. -/
def Whispered (holds : W → Prop) (watch : Watched W Unit) : Prop :=
  ∀ scene, holds scene.world →
    ∃ world, play watch scene = (.ok (), scene.inWorld world) ∧ holds world

theorem note_whispered {watcher : Watcher (StateM W)} {holds : W → Prop} {record : Log.Record}
    (spares : Spares holds (watcher.world.log record)) :
    Whispered holds (watcher.witnessed.note record) :=
  fun scene start => ⟨_, rfl, spares scene.world start⟩

theorem noteFlip_whispered {watcher : Watcher (StateM W)} {holds : W → Prop}
    (log : ∀ record, Spares holds (watcher.world.log record))
    (time : Spares holds watcher.world.localTime) (flipHours : Option Binary64) :
    Whispered holds (watcher.witnessed.noteFlip flipHours) := by
  intro scene start
  cases flipHours with
  | none => exact ⟨scene.world, rfl, start⟩
  | some hours => exact ⟨_, rfl, log _ _ (time scene.world start)⟩

namespace Relating

variable {alike : W → V → Prop} {related : Scene W → Scene V → Prop}
  (relating : Relating alike related)
include relating

theorem learning : Learning (paired related) fun _ => True where
  throw _ _ _ start := ⟨rfl, start⟩
  read next before other start :=
    next before.state other.state (relating.knowledge start) before other start
  learn change _ _ start := ⟨rfl, relating.learned change start⟩

theorem lift {left : StateM W α} {right : StateM V α} (agrees : Agrees alike left right) :
    (paired related).Alike []
      (liftM (StateT.lift left : Witnessed (StateM W) α) : Watched W α)
      (liftM (StateT.lift right : Witnessed (StateM V) α) : Watched V α) := by
  intro before other start
  rcases agrees before.world other.world (relating.world start) with ⟨same, alike⟩
  exact ⟨congrArg _ same, relating.inWorld start alike⟩

theorem whispers {left : Watched W Unit} {right : Watched V Unit}
    (first : ∀ other, Whispered (alike · other) left)
    (second : ∀ world, Whispered (alike world) right) : (paired related).Alike [] left right := by
  intro before other start
  rcases first other.world before (relating.world start) with ⟨world, played, spared⟩
  rcases second world other spared with ⟨otherWorld, otherPlayed, alike⟩
  rw [played, otherPlayed]
  exact ⟨rfl, relating.inWorld start alike⟩

section

variable {entry : Except Fault α → Entry} {left : Action (StateM W) α}
  {right : Action (StateM V) α} (agrees : Agrees alike left.run right.run)
include agrees

theorem perform {phases : List Phase} :
    (paired related).Alike phases (Watch.perform (noted entry left))
      (Watch.perform (noted entry right)) := by
  intro before other start
  rcases agrees before.world other.world (relating.world start) with ⟨same, alike⟩
  rw [play_noted, play_noted, same]
  exact ⟨rfl, relating.inWorld (relating.jotted _ start) alike⟩

theorem attempt {ε : Type} {phases : List Phase} {select : Fault → Option ε} :
    (paired related).Alike phases (Watch.perform ((noted entry left).attemptFor select))
      (Watch.perform ((noted entry right).attemptFor select)) := by
  intro before other start
  have performed : (paired related).Alike phases (Watch.perform (noted entry left))
      (Watch.perform (noted entry right)) := relating.perform agrees
  rcases performed before other start with ⟨same, related⟩
  rw [play_attemptFor, play_attemptFor, same]
  exact ⟨rfl, related⟩

theorem asks {ε : Type} {phases : List Phase} {select : Fault → Option ε}
    {sound : Except ε α → Prop} (all : ∀ answer, sound answer) :
    (paired related).Asks phases sound
      (Watch.perform ((noted entry left).attemptFor select))
      (Watch.perform ((noted entry right).attemptFor select)) :=
  (paired related).asks_of_alike all (relating.attempt agrees)

end

theorem asksAtStart {left : Watcher (StateM W)} {right : Watcher (StateM V)}
    (agrees : Agrees alike left.station.events.run right.station.events.run) :
    (paired related).Asks [.events] (SoundEvents fun _ => True)
      (Watch.perform left.witnessed.station.events)
      (Watch.perform right.witnessed.station.events) :=
  (paired related).asks_of_alike soundEvents_true (relating.perform agrees)

theorem pause {left : Watcher (StateM W)} {right : Watcher (StateM V)}
    (same : left.pollInterval = right.pollInterval)
    (agrees : Agrees alike (left.world.sleep left.pollInterval).run
      (right.world.sleep right.pollInterval).run) :
    (paired related).Alike [.pause]
      (Watch.perform (left.witnessed.world.sleep left.witnessed.pollInterval))
      (Watch.perform (right.witnessed.world.sleep right.witnessed.pollInterval)) := by
  rw [← same] at agrees
  change (paired related).Alike _ _ (Watch.perform
    (noted (fun _ => .pause right.pollInterval) (right.world.sleep right.pollInterval)))
  rw [← same]
  exact relating.perform agrees

end Relating

/-! ## The same channels, but for what they do -/

/-- Surroundings in which two monitors get the same answers and read the same clocks. Both have as
many channels; what these do with a card makes no difference to later answers. -/
structure Indistinct (left : Watcher (StateM W)) (right : Watcher (StateM V))
    (alike : W → V → Prop) : Prop where
  channels : left.channels.length = right.channels.length
  pollInterval : left.pollInterval = right.pollInterval
  events : Agrees alike left.station.events.run right.station.events.run
  images : Agrees alike left.station.images.run right.station.images.run
  sequence : Agrees alike left.station.sequence.run right.station.sequence.run
  mount : Agrees alike left.station.mount.run right.station.mount.run
  autofocus : Agrees alike left.station.autofocus.run right.station.autofocus.run
  thumbnail (index : Nat) : Agrees alike (left.station.thumbnail index none).run
    (right.station.thumbnail index none).run
  clock : Agrees alike left.world.clock right.world.clock
  localTime : Agrees alike left.world.localTime right.world.localTime
  timestamp : Agrees alike left.world.timestamp right.world.timestamp
  sleep : Agrees alike (left.world.sleep left.pollInterval).run
    (right.world.sleep right.pollInterval).run
  leftUndisturbed (other : V) : Undisturbed left (alike · other)
  rightUndisturbed (world : W) : Undisturbed right (alike world)

/-- Scenes of which all is the same but the surroundings. -/
structure Twins (alike : W → V → Prop) (before : Scene W) (other : Scene V) : Prop where
  state : before.state = other.state
  journal : before.journal = other.journal
  world : alike before.world other.world

theorem twins_relating (alike : W → V → Prop) : Relating alike (Twins alike) where
  world := Twins.world
  knowledge twins := congrArg State.knowledge twins.state
  learned change twins := ⟨congrArg (State.learned change) twins.state, twins.journal, twins.world⟩
  inWorld twins alike := ⟨twins.state, twins.journal, alike⟩
  jotted entry twins := ⟨twins.state, congrArg (· ++ [entry]) twins.journal, twins.world⟩

namespace Indistinct

variable {left : Watcher (StateM W)} {right : Watcher (StateM V)} {alike : W → V → Prop}
  (indistinct : Indistinct left right alike)
include indistinct

/-- Both have sent the card, and it does not show in anything what has become of it. -/
theorem deal_alike (card : Card) (image : Option Chat.Attachment) :
    (paired (Twins alike)).Alike [] (left.witnessed.deal card image)
      (right.witnessed.deal card image) := by
  intro before other twins
  rcases (indistinct.leftUndisturbed other.world).deal_yields card image before twins.world with
    ⟨after, leftYields, leftState, leftJournal, spared⟩
  rcases (indistinct.rightUndisturbed after.world).deal_yields card image other spared with
    ⟨otherAfter, rightYields, rightState, rightJournal, alike⟩
  have leftPlayed : play (left.witnessed.deal card image) before = (.ok (), after) := leftYields
  have rightPlayed : play (right.witnessed.deal card image) other = (.ok (), otherAfter) :=
    rightYields
  rw [leftPlayed, rightPlayed]
  refine ⟨rfl, ?_, ?_, alike⟩
  · rw [leftState, rightState, twins.state]
  · rw [leftJournal, rightJournal, twins.journal, indistinct.channels]

theorem clock_alike : (paired (Twins alike)).Alike []
    (liftM left.witnessed.world.clock : Watched W Binary64)
    (liftM right.witnessed.world.clock : Watched V Binary64) := by
  intro before other twins
  rcases indistinct.clock before.world other.world twins.world with ⟨same, alike⟩
  refine ⟨congrArg _ same, twins.state, ?_, alike⟩
  have journals : before.journal ++ [.clock (left.world.clock.run before.world).1] =
      other.journal ++ [.clock (right.world.clock.run other.world).1] := by
    rw [same, twins.journal]
  exact journals

theorem lockstep : Lockstep (paired (Twins alike)) left.witnessed right.witnessed where
  channels := by
    have leftLength := length_witnessedChannels 0 left.channels
    have rightLength := length_witnessedChannels 0 right.channels
    exact leftLength.trans (indistinct.channels.trans rightLength.symm)
  note record := (twins_relating alike).whispers
    (fun other => note_whispered ((indistinct.leftUndisturbed other).log record))
    (fun world => note_whispered ((indistinct.rightUndisturbed world).log record))
  clock := indistinct.clock_alike
  localTime := (twins_relating alike).lift indistinct.localTime
  timestamp := (twins_relating alike).lift indistinct.timestamp
  inspect next before other twins := by
    rw [play_get_bind, play_get_bind, twins.state]
    exact next other.state before other twins
  regate change before other twins :=
    ⟨rfl, by rw [play_modify, play_modify, Scene.state_updated, Scene.state_updated, twins.state],
      twins.journal, twins.world⟩
  deal := indistinct.deal_alike
  thumbnail index := (twins_relating alike).attempt (indistinct.thumbnail index)

theorem run (limit : Option Nat) :
    (paired (Twins alike)).Alike
      ([.events, .sequence, .images] ++ Watcher.rounds (limit.getD Watcher.endless))
      (left.witnessed.run limit) (right.witnessed.run limit) := by
  have relating := twins_relating alike
  have reports := indistinct.lockstep.reports (relating.attempt indistinct.mount) relating.learning
    (relating.asks indistinct.autofocus soundAutofocus_true)
  have looks : Looks (paired (Twins alike)) (fun _ => True) left.witnessed right.witnessed := {
    sequence := relating.asks indistinct.sequence soundSequence_true
    events := relating.asks indistinct.events soundHistory_true
    images := relating.attempt indistinct.images
    pause := relating.pause indistinct.pollInterval indistinct.sleep }
  exact looks.run reports (relating.asksAtStart indistinct.events)
    (relating.perform indistinct.images) limit

end Indistinct

/-! ## Without channels -/

/-- Surroundings in which a monitor without channels gets the same answers as another one. What only
the other one asks, about the mount, thumbnails and clocks, makes no difference to later answers;
its questions about the mount fail in no other way than by the interface. -/
structure Unheard (silent : Watcher (StateM U)) (heard : Watcher (StateM V))
    (alike : U → V → Prop) : Prop where
  channels : silent.channels = []
  pollInterval : silent.pollInterval = heard.pollInterval
  events : Agrees alike silent.station.events.run heard.station.events.run
  images : Agrees alike silent.station.images.run heard.station.images.run
  sequence : Agrees alike silent.station.sequence.run heard.station.sequence.run
  autofocus : Agrees alike silent.station.autofocus.run heard.station.autofocus.run
  sleep : Agrees alike (silent.world.sleep silent.pollInterval).run
    (heard.world.sleep heard.pollInterval).run
  silentLog (other : V) (record : Log.Record) : Spares (alike · other) (silent.world.log record)
  silentTime (other : V) : Spares (alike · other) silent.world.localTime
  undisturbed (world : U) : Undisturbed heard (alike world)
  clock (world : U) : Spares (alike world) heard.world.clock
  localTime (world : U) : Spares (alike world) heard.world.localTime
  timestamp (world : U) : Spares (alike world) heard.world.timestamp
  mount (world : U) : Spares (alike world) heard.station.mount.run
  mountAnswered (fault : Fault) : Raises heard.station.mount fault → fault.imaging? ≠ none
  thumbnail (world : U) (index : Nat) :
    Spares (alike world) (heard.station.thumbnail index none).run
  thumbnailAnswered (index : Nat) (fault : Fault) :
    Raises (heard.station.thumbnail index none) fault → fault.failure? ≠ none

/-- Both know the same, but the one has never sent anything, and its gate is as it was. -/
structure Shadows (alike : U → V → Prop) (gate : Gate) (before : Scene U) (other : Scene V) :
    Prop where
  knowledge : before.state.knowledge = other.state.knowledge
  gate : before.state.gate = gate
  unsent : before.state.notificationsSent = 0
  world : alike before.world other.world

theorem shadows_relating (alike : U → V → Prop) (gate : Gate) :
    Relating alike (Shadows alike gate) where
  world := Shadows.world
  knowledge := Shadows.knowledge
  learned change shadows :=
    ⟨congrArg change shadows.knowledge, shadows.gate, shadows.unsent, shadows.world⟩
  inWorld shadows alike := ⟨shadows.knowledge, shadows.gate, shadows.unsent, alike⟩
  jotted _ shadows := ⟨shadows.knowledge, shadows.gate, shadows.unsent, shadows.world⟩

namespace Unheard

variable {silent : Watcher (StateM U)} {heard : Watcher (StateM V)} {alike : U → V → Prop}
  (unheard : Unheard silent heard alike)
include unheard

theorem heard_lockstep (world : U) :
    Lockstep (unmoved (alike world)).alone heard.witnessed heard.witnessed where
  channels := rfl
  note record := unmoved_lift ((unheard.undisturbed world).log record)
  clock scene := ⟨rfl, unheard.clock world scene.world⟩
  localTime := unmoved_lift (unheard.localTime world)
  timestamp := unmoved_lift (unheard.timestamp world)
  inspect := Footprint.keeps_get _
  regate _ := unmoved_modify fun _ => rfl
  deal := unmoved_deal (unheard.undisturbed world)
  thumbnail index := unmoved_attempt (unheard.thumbnail world index)
    (unheard.thumbnailAnswered index)

theorem mount_unmoved (world : U) :
    (unmoved (alike world)).Keeps [] (Watch.perform heard.witnessed.station.mount.attemptImaging) :=
  unmoved_attempt (unheard.mount world) unheard.mountAnswered

/-- Where the one monitor has nobody to tell, what the other one tells teaches it nothing. -/
theorem untold {gate : Gate} {tell : Watched U Unit} {told : Watched V Unit}
    (keeps : ∀ world, (unmoved (alike world)).Keeps [] told) :
    (paired (Shadows alike gate)).Alike []
      (if silent.witnessed.hasChannels then tell else pure ()) told := by
  have nobody : silent.witnessed.hasChannels = false := by
    rw [Watcher.hasChannels_witnessed, Watcher.hasChannels, unheard.channels]
    rfl
  rw [nobody]
  intro before other shadows
  have fits := keeps before.world other
  generalize play told other = ended at fits ⊢
  rcases ended with ⟨_ | _, after⟩
  · exact fits.1.elim
  · exact ⟨rfl, shadows.knowledge.trans fits.1.symm, shadows.gate, shadows.unsent,
      fits.2 shadows.world⟩

theorem reports (gate : Gate) :
    Reports (paired (Shadows alike gate)) (fun _ => True) silent.witnessed heard.witnessed where
  toLearning := (shadows_relating alike gate).learning
  note record := (shadows_relating alike gate).whispers
    (fun other => note_whispered (unheard.silentLog other record))
    (fun world => note_whispered ((unheard.undisturbed world).log record))
  noteFlip flipHours := (shadows_relating alike gate).whispers
    (fun other => noteFlip_whispered (unheard.silentLog other) (unheard.silentTime other) flipHours)
    (fun world => noteFlip_whispered (unheard.undisturbed world).log (unheard.localTime world)
      flipHours)
  autofocus := (shadows_relating alike gate).asks unheard.autofocus soundAutofocus_true
  reportTarget target previous flipHours := unheard.untold fun world =>
    (unheard.heard_lockstep world).reportTarget (unheard.mount_unmoved world) target previous
      flipHours
  reportAutofocus _ _ known := unheard.untold fun world =>
    (unheard.heard_lockstep world).reportAutofocus known
  reportMove event := unheard.untold fun world =>
    (unheard.heard_lockstep world).reportMove (unheard.mount_unmoved world) event
  reportEvent event := unheard.untold fun world =>
    (unheard.heard_lockstep world).reportEvent event
  handleImage index image := unheard.untold fun world =>
    (unheard.heard_lockstep world).handleImage index image
  greet := unheard.untold fun world =>
    (unheard.heard_lockstep world).greet (unheard.mount_unmoved world)

theorem run (gate : Gate) (limit : Option Nat) :
    (paired (Shadows alike gate)).Alike
      ([.events, .sequence, .images] ++ Watcher.rounds (limit.getD Watcher.endless))
      (silent.witnessed.run limit) (heard.witnessed.run limit) := by
  have relating := shadows_relating alike gate
  have looks : Looks (paired (Shadows alike gate)) (fun _ => True) silent.witnessed
      heard.witnessed := {
    sequence := relating.asks unheard.sequence soundSequence_true
    events := relating.asks unheard.events soundHistory_true
    images := relating.attempt unheard.images
    pause := relating.pause unheard.pollInterval unheard.sleep }
  exact looks.run (unheard.reports gate) (relating.asksAtStart unheard.events)
    (relating.perform unheard.images) limit

end Unheard

/-! ## Whole runs -/

/-- Two monitors with as many channels that get the same answers go through the same run, however
differently their channels treat the cards: they ask and send the same in the same order and
remember the same in the end, and each channel of both is given all cards that are counted, in
their order. A monitor without channels that gets the same answers comes to know the same, has
counted nothing and has not touched its gate. -/
theorem delivery_never_influences_monitoring {left : Watcher (StateM W)}
    {right : Watcher (StateM V)} {alike : W → V → Prop} (indistinct : Indistinct left right alike)
    {world : W} {other : V} (start : alike world other) {gate : Gate} {limit : Option Nat}
    {outcome otherOutcome : Except Fault Nat} {after : Scene W} {otherAfter : Scene V}
    (ended : Ends (left.witnessed.run limit) (.fresh gate world) outcome after)
    (otherEnded : Ends (right.witnessed.run limit) (.fresh gate other) otherOutcome otherAfter) :
    outcome = otherOutcome ∧ after.state = otherAfter.state ∧
      after.journal = otherAfter.journal ∧
      (∃ cards : List Card, cards.length = after.state.notificationsSent ∧
        ∀ position < left.channels.length,
          after.journal.cardsAt position = cards ∧ otherAfter.journal.cardsAt position = cards) ∧
      ∀ {U : Type} {silent : Watcher (StateM U)} {overheard : U → V → Prop} {silentWorld : U}
        {silentOutcome : Except Fault Nat} {silentAfter : Scene U},
        Unheard silent right overheard → overheard silentWorld other →
        Ends (silent.witnessed.run limit) (.fresh gate silentWorld) silentOutcome silentAfter →
          silentOutcome = otherOutcome ∧
            silentAfter.state.knowledge = otherAfter.state.knowledge ∧
            silentAfter.state.notificationsSent = 0 ∧ silentAfter.state.gate = gate := by
  have twins : Twins alike (.fresh gate world) (.fresh gate other) := ⟨rfl, rfl, start⟩
  have same := indistinct.run limit _ _ twins
  have attended := (indistinct.leftUndisturbed other).run_attended limit gate world
  have leftPlayed : play (left.witnessed.run limit) (.fresh gate world) = (outcome, after) := ended
  have rightPlayed : play (right.witnessed.run limit) (.fresh gate other) =
      (otherOutcome, otherAfter) := otherEnded
  rw [leftPlayed, rightPlayed] at same
  rw [leftPlayed] at attended
  rcases same with ⟨outcomes, states, journals, _⟩
  rcases attended with ⟨cards, counted, given⟩
  refine ⟨outcomes, states, journals, ⟨cards, counted, fun position bound => ?_⟩, ?_⟩
  · exact ⟨given position bound, (congrArg (·.cardsAt position) journals).symm.trans
      (given position bound)⟩
  intro U silent overheard silentWorld silentOutcome silentAfter unheard silentStart silentEnded
  have shadows : Shadows overheard gate (.fresh gate silentWorld) (.fresh gate other) :=
    ⟨rfl, rfl, rfl, silentStart⟩
  have learnt := unheard.run gate limit _ _ shadows
  have silentPlayed : play (silent.witnessed.run limit) (.fresh gate silentWorld) =
      (silentOutcome, silentAfter) := silentEnded
  rw [silentPlayed, rightPlayed] at learnt
  exact ⟨learnt.1, learnt.2.knowledge, learnt.2.unsent, learnt.2.gate⟩

namespace Dictation

/-- A channel that fails at every card. -/
def deaf : Chat.Channel (StateM Dictation) where
  name := "deaf"
  send _ := throw (.unforeseen "deaf")
  sendWithImage _ _ _ := throw (.system "deaf")
  close := return

/-- A monitor of this observatory with these channels. -/
def audience (channels : List (Chat.Channel (StateM Dictation))) : Watcher (StateM Dictation) :=
  { watcher 0 with channels }

/-- The same is still to be told; only the clocks may read differently. -/
structure SameAnswers (left right : Dictation) : Prop where
  events : left.events = right.events
  images : left.images = right.images
  sequences : left.sequences = right.sequences

theorem undisturbed {channels : List (Chat.Channel (StateM Dictation))}
    (known : ∀ each ∈ channels, each = channel ∨ each = deaf) (holds : Dictation → Prop) :
    Undisturbed (audience channels) holds where
  log _ _ start := start
  delivery each member card image dictation start := by
    rcases known each member with rfl | rfl <;> cases image <;> exact start
  uninterrupted each member card image message := by
    rintro ⟨dictation, interrupted⟩
    rcases known each member with rfl | rfl <;> cases image <;> cases interrupted

theorem agrees_self {α : Type} (action : StateM Dictation α) : Agrees Eq action action := by
  rintro dictation _ rfl
  exact ⟨rfl, rfl⟩

theorem indistinct {first second : List (Chat.Channel (StateM Dictation))}
    (same : first.length = second.length)
    (known : ∀ each ∈ first, each = channel ∨ each = deaf)
    (others : ∀ each ∈ second, each = channel ∨ each = deaf) :
    Indistinct (audience first) (audience second) Eq where
  channels := same
  pollInterval := rfl
  events := agrees_self _
  images := agrees_self _
  sequence := agrees_self _
  mount := agrees_self _
  autofocus := agrees_self _
  thumbnail _ := agrees_self _
  clock := agrees_self _
  localTime := agrees_self _
  timestamp := agrees_self _
  sleep := agrees_self _
  leftUndisturbed _ := undisturbed known _
  rightUndisturbed _ := undisturbed others _

theorem unheard {channels : List (Chat.Channel (StateM Dictation))}
    (known : ∀ each ∈ channels, each = channel ∨ each = deaf) :
    Unheard (audience []) (audience channels) SameAnswers where
  channels := rfl
  pollInterval := rfl
  events := by
    rintro ⟨events, _, _, _⟩ ⟨_, _, _, _⟩ ⟨rfl, rfl, rfl⟩
    cases events <;> exact ⟨rfl, rfl, rfl, rfl⟩
  images := by
    rintro ⟨_, images, _, _⟩ ⟨_, _, _, _⟩ ⟨rfl, rfl, rfl⟩
    cases images <;> exact ⟨rfl, rfl, rfl, rfl⟩
  sequence := by
    rintro ⟨_, _, sequences, _⟩ ⟨_, _, _, _⟩ ⟨rfl, rfl, rfl⟩
    cases sequences <;> exact ⟨rfl, rfl, rfl, rfl⟩
  autofocus _ _ same := ⟨rfl, same⟩
  sleep _ _ same := ⟨rfl, same⟩
  silentLog _ _ _ same := same
  silentTime _ _ same := same
  undisturbed _ := undisturbed known _
  clock dictation := by
    rintro ⟨_, _, _, readings⟩ ⟨events, images, sequences⟩
    cases readings <;> exact ⟨events, images, sequences⟩
  localTime _ _ same := same
  timestamp _ _ same := same
  mount _ _ same := same
  mountAnswered := by
    rintro _ ⟨_, ⟨⟩⟩
    exact Option.some_ne_none _
  thumbnail _ _ _ same := same
  thumbnailAnswered := by
    rintro _ _ ⟨_, ⟨⟩⟩
    exact Option.some_ne_none _

/-- A target is announced and an image taken while somebody is listening. -/
def eventful : Dictation where
  events := [.ok [], .ok [announcement "1" "M31"]]
  images := [.ok [], .ok [photo "2"]]
  sequences := []
  readings := [minute]

/-- The same, but nobody looks at the clock. -/
def timeless : Dictation := { eventful with readings := [] }

/-- One round before these channels. -/
def hearing (channels : List (Chat.Channel (StateM Dictation))) (dictation : Dictation) :
    Except Fault Nat × Scene Dictation :=
  play ((audience channels).witnessed.run (some 1)) (.fresh gate dictation)

theorem hearing_ends (channels : List (Chat.Channel (StateM Dictation))) (dictation : Dictation) :
    Ends ((audience channels).witnessed.run (some 1)) (.fresh gate dictation)
      (hearing channels dictation).1 (hearing channels dictation).2 :=
  ends_play _ _

end Dictation

theorem delivery_never_influences_monitoring_deaf :
    let heard := Dictation.hearing [Dictation.channel, Dictation.channel] Dictation.eventful
    let missed := Dictation.hearing [Dictation.deaf, Dictation.channel] Dictation.eventful
    let silent := Dictation.hearing [] Dictation.timeless
    heard.1 = missed.1 ∧ heard.2.state = missed.2.state ∧ heard.2.journal = missed.2.journal ∧
      missed.2.state.notificationsSent = 3 ∧
      missed.2.journal.cardsAt 0 = heard.2.journal.cardsAt 1 ∧
      silent.1 = missed.1 ∧ silent.2.state.knowledge = missed.2.state.knowledge ∧
      silent.2.state.notificationsSent = 0 ∧ silent.2.state.gate = Dictation.gate := by
  intro heard missed silent
  have alike : Indistinct (Dictation.audience [Dictation.channel, Dictation.channel])
      (Dictation.audience [Dictation.deaf, Dictation.channel]) Eq :=
    Dictation.indistinct rfl (by simp) (by simp)
  have unheard : Unheard (Dictation.audience [])
      (Dictation.audience [Dictation.deaf, Dictation.channel]) Dictation.SameAnswers :=
    Dictation.unheard (by simp)
  have sent : missed.2.state.notificationsSent = 3 := by decide +kernel
  have heardEnds := Dictation.hearing_ends [Dictation.channel, Dictation.channel] Dictation.eventful
  have missedEnds := Dictation.hearing_ends [Dictation.deaf, Dictation.channel] Dictation.eventful
  have silentEnds := Dictation.hearing_ends [] Dictation.timeless
  rcases delivery_never_influences_monitoring alike rfl heardEnds missedEnds with
    ⟨outcomes, states, journals, ⟨cards, _, given⟩, silently⟩
  have told : Dictation.SameAnswers Dictation.timeless Dictation.eventful := ⟨rfl, rfl, rfl⟩
  rcases silently unheard told silentEnds with ⟨same, knowledge, unsent, untouched⟩
  have first := (given 0 (by decide)).2
  have second := (given 1 (by decide)).1
  exact ⟨outcomes, states, journals, sent, first.trans second.symm, same, knowledge, unsent,
    untouched⟩

end ObservatoryWatch.Monitor
