import ObservatoryWatch.Proofs.Footprint

/-!
What a card does on its way to the channels.

A channel may accept a card or fail at it, in any way but by an interruption. Either way the card is
counted once and every channel is given it once, and whatever the channels do not touch is as
before.
-/

namespace ObservatoryWatch.Monitor

open Observatory

variable {W α : Type}

/-! ## Channels that keep to themselves -/

/-- What holds of the surroundings holds after the action too. -/
def Spares (holds : W → Prop) (action : StateM W α) : Prop :=
  ∀ world, holds world → holds (action.run world).2

/-- Sendings, whether they succeed or fail, and complaints about them leave what holds of the
surroundings, and no sending is interrupted. -/
structure Undisturbed (watcher : Watcher (StateM W)) (holds : W → Prop) : Prop where
  log (record : Log.Record) : Spares holds (watcher.world.log record)
  delivery : ∀ channel ∈ watcher.channels, ∀ card image,
    Spares holds (channel.deliver card image).run
  uninterrupted : ∀ channel ∈ watcher.channels, ∀ card image message,
    ¬ Raises (channel.deliver card image) (.interrupted message)

theorem Undisturbed.relaxed {watcher : Watcher (StateM W)} {holds : W → Prop}
    (undisturbed : Undisturbed watcher holds) : Undisturbed watcher fun _ => True where
  log _ _ _ := trivial
  delivery _ _ _ _ _ _ := trivial
  uninterrupted := undisturbed.uninterrupted

/-! ## Nothing is learnt -/

/-- The knowledge stays, what holds of the surroundings too, and no fault comes of it. -/
def unmoved (holds : W → Prop) : Footprint W where
  Leaves _ before after := after.state.knowledge = before.state.knowledge ∧
    (holds before.world → holds after.world)
  Fails _ := False
  refl _ := ⟨rfl, id⟩
  trans first second := ⟨second.1.trans first.1, fun start => second.2 (first.2 start)⟩

section

variable {holds : W → Prop}

theorem unmoved_lift {action : StateM W α} (spares : Spares holds action) :
    (unmoved holds).Keeps []
      (liftM (StateT.lift action : Witnessed (StateM W) α) : Watched W α) :=
  fun scene => ⟨rfl, spares scene.world⟩

theorem unmoved_modify {change : State → State}
    (same : ∀ state, (change state).knowledge = state.knowledge) :
    (unmoved holds).Keeps [] (modify change : Watched W PUnit) :=
  fun scene => ⟨same scene.state, id⟩

theorem unmoved_attempt {ε : Type} {select : Fault → Option ε}
    {entry : Except Fault α → Entry} {action : Action (StateM W) α}
    (spares : Spares holds action.run)
    (met : ∀ fault, Raises action fault → select fault ≠ none) :
    (unmoved holds).Keeps [] (Watch.perform ((noted entry action).attemptFor select)) :=
  Footprint.keeps_attempt _ met fun scene => ⟨rfl, spares scene.world⟩

variable {watcher : Watcher (StateM W)} (undisturbed : Undisturbed watcher holds)
include undisturbed

theorem unmoved_deal (card : Card) (image : Option Chat.Attachment) :
    (unmoved holds).Keeps [] (watcher.witnessed.deal card image) := by
  refine Footprint.keeps_deal _ (fun record => unmoved_lift (undisturbed.log record)) ?_
    (unmoved_modify fun _ => rfl)
  intro channel member position
  exact unmoved_attempt (undisturbed.delivery channel member card image)
    (failure?_of_uninterrupted (undisturbed.uninterrupted channel member card image))

/-- A card is counted, and every channel is given it. -/
theorem Undisturbed.deal_yields (card : Card) (image : Option Chat.Attachment) (before : Scene W)
    (start : holds before.world) :
    ∃ after, Yields (watcher.witnessed.deal card image) before () after ∧
      after.state =
        { before.state with notificationsSent := before.state.notificationsSent + 1 } ∧
      after.journal = before.journal ++ deliveries card image 0 watcher.channels.length ∧
      holds after.world := by
  have fits := unmoved_deal undisturbed card image before
  rcases ended : play (watcher.witnessed.deal card image) before with ⟨_ | _, after⟩
  · rw [ended] at fits
    exact fits.1.elim
  rw [ended] at fits
  have yields : Yields (watcher.witnessed.deal card image) before () after := ended
  refine ⟨after, yields, ?_⟩
  simp only [Watcher.deal, Watcher.countNotification, yields_bind, yields_discard,
    yields_modify] at yields
  rcases yields with ⟨_, _, ⟨failed, delivered⟩, rfl⟩
  rcases deliverAll_yields watcher.channels delivered with ⟨state, journal⟩
  exact ⟨by rw [Scene.state_updated, state], journal, fits.2 start⟩

end

/-! ## Cards are counted -/

/-- Each of so many channels is given the same cards, as many as are counted. -/
def attended (channels : Nat) : Footprint W where
  Leaves _ before after := ∃ cards : List Card,
    after.state.notificationsSent = before.state.notificationsSent + cards.length ∧
      ∀ position < channels, after.journal.cardsAt position =
        before.journal.cardsAt position ++ cards
  Fails _ := True
  refl _ := ⟨[], rfl, fun _ _ => (List.append_nil _).symm⟩
  trans := by
    rintro _ _ first second third ⟨early, counted, given⟩ ⟨late, others, after⟩
    refine ⟨early ++ late, ?_, fun position bound => ?_⟩
    · rw [others, counted, List.length_append, Nat.add_assoc]
    · rw [after position bound, given position bound, List.append_assoc]

theorem attended_of_journal {channels : Nat} {phases : List Phase} {before after : Scene W}
    (state : after.state.notificationsSent = before.state.notificationsSent) (lines : Journal)
    (journal : after.journal = before.journal ++ lines)
    (other : ∀ position, Journal.cardsAt lines position = []) :
    (attended channels).Leaves phases before after := by
  refine ⟨[], state, fun position _ => ?_⟩
  rw [journal, Journal.cardsAt_append, other]

theorem attended_perform {channels : Nat} {phases : List Phase} {entry : Except Fault α → Entry}
    {action : Action (StateM W) α} (other : ∀ outcome position,
      Journal.cardsAt [entry outcome] position = []) :
    (attended channels).Keeps phases (Watch.perform (noted entry action)) := by
  intro scene
  have leaves : (attended channels).Leaves phases scene
      (play (Watch.perform (noted entry action)) scene).2 :=
    attended_of_journal rfl _ rfl (other _)
  generalize play (Watch.perform (noted entry action)) scene = ended at leaves ⊢
  rcases ended with ⟨_ | _, after⟩
  · exact ⟨trivial, phases, List.prefix_refl phases, leaves⟩
  · exact leaves

theorem attended_attempt {ε : Type} {channels : Nat} {phases : List Phase}
    {select : Fault → Option ε} {entry : Except Fault α → Entry} {action : Action (StateM W) α}
    (other : ∀ outcome position, Journal.cardsAt [entry outcome] position = []) :
    (attended channels).Keeps phases (Watch.perform ((noted entry action).attemptFor select)) :=
  Footprint.keeps_attempt _ (fun _ _ _ => trivial) fun _ =>
    attended_of_journal rfl _ rfl (other _)

namespace Undisturbed

variable {watcher : Watcher (StateM W)} {holds : W → Prop}
  (undisturbed : Undisturbed watcher holds)
include undisturbed

theorem attended_lockstep :
    Lockstep (attended watcher.channels.length).alone watcher.witnessed watcher.witnessed where
  channels := rfl
  note _ _ := attended_of_journal rfl [] (List.append_nil _).symm fun _ => rfl
  clock _ := attended_of_journal rfl [.clock _] rfl fun _ => rfl
  localTime _ := attended_of_journal rfl [] (List.append_nil _).symm fun _ => rfl
  timestamp _ := attended_of_journal rfl [] (List.append_nil _).symm fun _ => rfl
  inspect := Footprint.keeps_get _
  regate _ _ := attended_of_journal rfl [] (List.append_nil _).symm fun _ => rfl
  deal card image scene := by
    rcases undisturbed.relaxed.deal_yields card image scene trivial with
      ⟨after, yields, state, journal, _⟩
    have played : play (watcher.witnessed.deal card image) scene = (.ok (), after) := yields
    rw [played]
    refine ⟨[card], by rw [state]; rfl, fun position bound => ?_⟩
    rw [journal, Journal.cardsAt_append, Journal.cardsAt_deliveries, if_pos (by omega)]
  thumbnail _ := attended_attempt fun _ _ => rfl

/-- In a whole run each channel is given as many cards as are counted, the same as all others. -/
theorem run_attended (limit : Option Nat) (gate : Gate) (world : W) :
    ∃ cards : List Card,
      cards.length =
        (play (watcher.witnessed.run limit) (.fresh gate world)).2.state.notificationsSent ∧
      ∀ position < watcher.channels.length,
        (play (watcher.witnessed.run limit) (.fresh gate world)).2.journal.cardsAt position =
          cards := by
  let footprint : Footprint W := attended watcher.channels.length
  have learning : Learning footprint.alone fun _ => True :=
    footprint.alone_learning (fun _ _ => trivial) fun _ _ =>
      attended_of_journal rfl [] (List.append_nil _).symm fun _ => rfl
  have reports := undisturbed.attended_lockstep.reports (attended_attempt fun _ _ => rfl) learning
    (footprint.alone.asks_of_alike soundAutofocus_true (attended_attempt fun _ _ => rfl))
  have looks : Looks footprint.alone (fun _ => True) watcher.witnessed watcher.witnessed := {
    sequence := footprint.alone.asks_of_alike soundSequence_true (attended_attempt fun _ _ => rfl)
    events := footprint.alone.asks_of_alike soundHistory_true (attended_attempt fun _ _ => rfl)
    images := attended_attempt fun _ _ => rfl
    pause := attended_perform fun _ _ => rfl }
  have keeps := looks.run reports
    (footprint.alone.asks_of_alike soundEvents_true (attended_perform fun _ _ => rfl))
    (attended_perform fun _ _ => rfl) limit
  rcases Footprint.leaves_of_keeps _ keeps (.fresh gate world) with ⟨_, cards, counted, given⟩
  exact ⟨cards, by rw [counted]; exact (Nat.zero_add _).symm, given⟩

end Undisturbed

end ObservatoryWatch.Monitor
