import ObservatoryWatch.Proofs.CardReading
import ObservatoryWatch.Proofs.Scene

/-!
What each action of the monitor leaves behind.

Most of what the monitor does is beside the point of its bookkeeping: it writes to the
log, asks about the mount, posts a card. Such an aside changes neither the sets of what
was seen, nor the gate, nor the target. Every handler is an aside, apart from the one
change that it is there for, which its lemma names.
-/

namespace ObservatoryWatch

namespace Monitor

open Observatory

variable {W α : Type}

/-! ## Hushed actions -/

/-- Lines about questions of the monitor that nobody else hears of. -/
def Entry.isQuestion : Entry → Bool
  | mount _ | autofocus _ | pause _ => true
  | _ => false

/-- Nothing is remembered and no card is sent; at most a question is noted. -/
structure Hushed (before after : Scene W) : Prop where
  state : after.state = before.state
  journal : ∃ entries, after.journal = before.journal ++ entries ∧
    ∀ entry ∈ entries, entry.isQuestion = true

namespace Hushed

theorem refl (scene : Scene W) : Hushed scene scene := ⟨rfl, [], by simp⟩

theorem trans {first second third : Scene W} (left : Hushed first second)
    (right : Hushed second third) : Hushed first third := by
  rcases left.journal with ⟨early, leftJournal, leftLines⟩
  rcases right.journal with ⟨late, rightJournal, rightLines⟩
  refine ⟨right.state.trans left.state, early ++ late, ?_,
    List.forall_mem_append.mpr ⟨leftLines, rightLines⟩⟩
  rw [rightJournal, leftJournal, List.append_assoc]

theorem of_world {before : Scene W} (world : W) : Hushed before (before.inWorld world) :=
  ⟨rfl, [], by simp⟩

theorem of_pure {before after : Scene W} {value result : α}
    (yields : Yields (pure value) before result after) : Hushed before after := by
  rcases yields_pure.mp yields with ⟨_, rfl⟩
  exact refl before

theorem of_lift {action : StateM W α} {before after : Scene W} {value : α}
    (yields : Yields (liftM (StateT.lift action : Witnessed (StateM W) α) : Watched W α)
      before value after) : Hushed before after := by
  rcases yields_lift_lift.mp yields with ⟨world, _, rfl⟩
  exact of_world world

theorem of_attempt {entry : Except Fault α → Entry} {action : Action (StateM W) α}
    {before after : Scene W} {answer : Except Imaging.Fault α}
    (question : ∀ outcome, (entry outcome).isQuestion = true)
    (yields : Yields (Watch.perform (noted entry action).attemptImaging) before answer after) :
    Hushed before after := by
  rcases yields_attempt_noted yields with ⟨world, rfl⟩
  exact ⟨rfl, [entry (answer.mapError .imaging)], rfl, by simpa using question _⟩

end Hushed

/-! ## Asides -/

/-- Lines about anything but histories, what is new in them, and cards of images. -/
def Entry.isAside : Entry → Bool
  | mount _ | autofocus _ | pause _ => true
  | delivery _ card _ => !card.isOfImage
  | _ => false

namespace Journal

theorem filterMap_eq_nil {β : Type} {allowed : Entry → Bool} {select : Entry → Option β}
    {entries : Journal} (lines : ∀ entry ∈ entries, allowed entry = true)
    (blind : ∀ entry, allowed entry = true → select entry = none) :
    entries.filterMap select = [] :=
  List.filterMap_eq_nil_iff.mpr fun entry member => blind entry (lines entry member)

variable {entries : Journal} (aside : ∀ entry ∈ entries, entry.isAside = true)
include aside

theorem eventHistories_of_aside : eventHistories entries = [] :=
  filterMap_eq_nil aside fun entry aside => by cases entry <;> simp [Entry.isAside] at aside ⊢

theorem imageHistories_of_aside : imageHistories entries = [] :=
  filterMap_eq_nil aside fun entry aside => by cases entry <;> simp [Entry.isAside] at aside ⊢

theorem handedEvents_of_aside : handedEvents entries = [] :=
  filterMap_eq_nil aside fun entry aside => by cases entry <;> simp [Entry.isAside] at aside ⊢

theorem handedImages_of_aside : handedImages entries = [] :=
  filterMap_eq_nil aside fun entry aside => by cases entry <;> simp [Entry.isAside] at aside ⊢

end Journal

/-- At most the number of notifications and asides of the journal differ. -/
structure Aside (before after : Scene W) : Prop where
  gate : after.state.gate = before.state.gate
  seenEvents : after.state.seenEvents = before.state.seenEvents
  seenImages : after.state.seenImages = before.state.seenImages
  target : after.state.target = before.state.target
  flipHours : after.state.flipHours = before.state.flipHours
  sequenceSeen : after.state.sequenceSeen = before.state.sequenceSeen
  journal : ∃ entries, after.journal = before.journal ++ entries ∧
    ∀ entry ∈ entries, entry.isAside = true

namespace Aside

theorem refl (scene : Scene W) : Aside scene scene :=
  ⟨rfl, rfl, rfl, rfl, rfl, rfl, [], by simp⟩

theorem trans {first second third : Scene W} (left : Aside first second)
    (right : Aside second third) : Aside first third := by
  rcases left.journal with ⟨early, leftJournal, leftAside⟩
  rcases right.journal with ⟨late, rightJournal, rightAside⟩
  refine ⟨right.gate.trans left.gate, right.seenEvents.trans left.seenEvents,
    right.seenImages.trans left.seenImages, right.target.trans left.target,
    right.flipHours.trans left.flipHours, right.sequenceSeen.trans left.sequenceSeen,
    early ++ late, ?_, List.forall_mem_append.mpr ⟨leftAside, rightAside⟩⟩
  rw [rightJournal, leftJournal, List.append_assoc]

theorem of_hushed {before after : Scene W} (hushed : Hushed before after) :
    Aside before after := by
  rcases hushed.journal with ⟨entries, journal, lines⟩
  refine ⟨by rw [hushed.state], by rw [hushed.state], by rw [hushed.state], by rw [hushed.state],
    by rw [hushed.state], by rw [hushed.state], entries, journal, ?_⟩
  intro entry member
  have question := lines entry member
  cases entry <;> simp [Entry.isQuestion, Entry.isAside] at question ⊢

theorem of_world {before : Scene W} (world : W) : Aside before (before.inWorld world) :=
  of_hushed (.of_world world)

end Aside

/-! ## Deliveries -/

/-- A delivery to so many channels from a position on. -/
def deliveries (card : Card) (image : Option Chat.Attachment) (position count : Nat) :
    List Entry :=
  (List.range' position count).map fun given => .delivery given card image

theorem isAside_deliveries {card : Card} {image : Option Chat.Attachment} {position count : Nat}
    (other : card.isOfImage = false) :
    ∀ entry ∈ deliveries card image position count, entry.isAside = true := by
  intro entry member
  rcases List.mem_map.mp member with ⟨given, _, rfl⟩
  simp [Entry.isAside, other]

namespace Journal

theorem cardsAt_append (early late : Journal) (position : Nat) :
    cardsAt (early ++ late) position = cardsAt early position ++ cardsAt late position :=
  List.filterMap_append

theorem cardsAt_of_question {entries : Journal} (position : Nat)
    (lines : ∀ entry ∈ entries, entry.isQuestion = true) : cardsAt entries position = [] :=
  filterMap_eq_nil lines fun entry line => by cases entry <;> simp [Entry.isQuestion] at line ⊢

theorem cardsAt_deliveries {card : Card} {image : Option Chat.Attachment} {position : Nat}
    (count start : Nat) :
    cardsAt (deliveries card image start count) position =
      if start ≤ position ∧ position < start + count then [card] else [] := by
  -- Positions go up from the start, so the start moves on with the rest.
  induction count generalizing start with
  | zero =>
      rw [if_neg (by omega)]
      rfl
  | succ count induction =>
      have first : deliveries card image start (count + 1) =
          .delivery start card image :: deliveries card image (start + 1) count := by
        simp [deliveries, List.range'_succ]
      rw [first]
      by_cases here : start = position
      · subst position
        have given : cardsAt (.delivery start card image :: deliveries card image (start + 1) count)
            start = card :: cardsAt (deliveries card image (start + 1) count) start := by
          simp [cardsAt]
        rw [given, induction, if_neg (by omega), if_pos (by omega)]
      · have passed : cardsAt (.delivery start card image ::
            deliveries card image (start + 1) count) position =
              cardsAt (deliveries card image (start + 1) count) position := by
          simp [cardsAt, here]
        have inside : (start + 1 ≤ position ∧ position < start + 1 + count) ↔
            (start ≤ position ∧ position < start + (count + 1)) := by omega
        rw [passed, induction]
        simp only [inside]

end Journal

theorem deliver_witnessed (channel : Chat.Channel (StateM W)) (position : Nat) (card : Card)
    (image : Option Chat.Attachment) :
    (witnessedChannel position channel).deliver card image =
      noted (fun _ => .delivery position card image) (channel.deliver card image) :=
  witness.deliver_channel ..

/-- What a channel is given is noted, whatever comes of it. -/
theorem deliver_ends {channel : Chat.Channel (StateM W)} {position : Nat} {card : Card}
    {image : Option Chat.Attachment} {before after : Scene W} {outcome : Except Fault Unit}
    (ended : Ends (Watch.perform ((witnessedChannel position channel).deliver card image))
      before outcome after) :
    after.state = before.state ∧
      after.journal = before.journal ++ [.delivery position card image] := by
  rw [deliver_witnessed] at ended
  rcases ends_perform_noted.mp ended with ⟨world, _, rfl⟩
  exact ⟨rfl, rfl⟩

theorem deliverAll_yields {world : World (StateM W)} {card : Card}
    {image : Option Chat.Attachment} (channels : List (Chat.Channel (StateM W)))
    {position : Nat} {before after : Scene W} {failed : List String}
    (yields : Yields (Watch.perform (Chat.deliverAll (witnessedWorld world) card image
      (witnessedChannels position channels))) before failed after) :
    after.state = before.state ∧
      after.journal = before.journal ++ deliveries card image position channels.length := by
  -- A channel that fails is followed by a line of the log; the rest is the same for both.
  induction channels generalizing position before failed with
  | nil =>
      rw [witnessedChannels_nil, Chat.deliverAll, yields_perform_pure] at yields
      rcases yields with ⟨_, rfl⟩
      simp [deliveries]
  | cons channel rest induction =>
      rw [witnessedChannels_cons, Chat.deliverAll, yields_perform_bind] at yields
      rcases yields with ⟨answer, given, attempted, yields⟩
      rcases yields_perform_attemptFor.mp attempted with ⟨outcome, ended, _⟩
      rcases deliver_ends ended with ⟨givenState, givenJournal⟩
      have remaining : after.state = given.state ∧ after.journal = given.journal ++
          deliveries card image (position + 1) rest.length := by
        cases answer with
        | ok _ => exact induction yields
        | error fault =>
            simp only [yields_perform_bind] at yields
            rcases yields with ⟨_, next, noted, _, last, yields, final⟩
            rcases yields_perform_pure.mp final with ⟨_, rfl⟩
            rcases yields_lift_lift.mp noted with ⟨world, _, rfl⟩
            have later := induction yields
            exact later
      refine ⟨remaining.1.trans givenState, ?_⟩
      rw [remaining.2, givenJournal, List.append_assoc]
      simp [deliveries, List.range'_succ]

namespace Watcher

variable {watcher : Watcher (StateM W)} {before after : Scene W}

/-! ## Reporting -/

theorem hasChannels_witnessed : watcher.witnessed.hasChannels = watcher.hasChannels := by
  unfold hasChannels witnessed
  cases watcher.channels <;> rfl

theorem hasChannels_iff : watcher.hasChannels = true ↔ watcher.channels ≠ [] := by
  unfold hasChannels
  cases watcher.channels <;> simp

theorem isEmpty_witnessed (listening : watcher.channels ≠ []) :
    watcher.witnessed.channels.isEmpty = false := by
  have some : watcher.witnessed.hasChannels = true := by
    rw [hasChannels_witnessed, hasChannels_iff]
    exact listening
  rw [hasChannels] at some
  exact (Bool.not_eq_true' _).mp some

theorem note_yields {record : Log.Record} {value : Unit}
    (yields : Yields (watcher.witnessed.note record) before value after) :
    ∃ world, after = before.inWorld world := by
  rcases yields_lift_lift.mp yields with ⟨world, _, same⟩
  exact ⟨world, same.symm⟩

theorem note_hushed {record : Log.Record} {value : Unit}
    (yields : Yields (watcher.witnessed.note record) before value after) :
    Hushed before after := .of_lift yields

theorem localTime_hushed {now : Calendar.Moment}
    (yields : Yields (liftM watcher.witnessed.world.localTime) before now after) :
    Hushed before after := .of_lift yields

theorem stamp_yields {card stamped : Card}
    (yields : Yields (watcher.witnessed.stamp card) before stamped after) :
    ∃ timestamp world, stamped = card.stampedAt timestamp ∧ after = before.inWorld world := by
  unfold stamp at yields
  rw [yields_bind] at yields
  rcases yields with ⟨timestamp, middle, asked, yields⟩
  rw [yields_pure] at yields
  rcases yields with ⟨rfl, rfl⟩
  rcases yields_lift_lift.mp asked with ⟨world, _, rfl⟩
  exact ⟨timestamp, world, rfl, rfl⟩

/-- A card that is posted gets a time stamp and goes to every channel once. -/
theorem post_yields {card : Card} {value : Unit}
    (yields : Yields (watcher.witnessed.post card) before value after) :
    ∃ timestamp,
      after.journal = before.journal ++
        deliveries (card.stampedAt timestamp) none 0 watcher.channels.length ∧
      after.state =
        { before.state with notificationsSent := before.state.notificationsSent + 1 } := by
  simp only [post, yields_bind, yields_discard] at yields
  rcases yields with ⟨stamped, first, stamping, _, second, ⟨failed, delivered⟩, counted⟩
  rcases stamp_yields stamping with ⟨timestamp, world, rfl, rfl⟩
  rcases deliverAll_yields watcher.channels delivered with ⟨state, journal⟩
  rw [countNotification, yields_modify] at counted
  subst after
  exact ⟨timestamp, journal, by rw [Scene.state_updated, state, Scene.state_inWorld]⟩

theorem post_aside {card : Card} {value : Unit} (other : card.isOfImage = false)
    (yields : Yields (watcher.witnessed.post card) before value after) :
    Aside before after := by
  rcases post_yields yields with ⟨timestamp, journal, state⟩
  have stampedOther : (card.stampedAt timestamp).isOfImage = false :=
    (Card.isOfImage_stampedAt card timestamp).trans other
  exact ⟨by rw [state], by rw [state], by rw [state], by rw [state], by rw [state],
    by rw [state], _, journal, isAside_deliveries stampedOther⟩

theorem sleep_aside {seconds : Binary64} {value : Unit}
    (yields : Yields (Watch.perform (watcher.witnessed.world.sleep seconds)) before value after) :
    Aside before after := by
  rcases ends_perform_noted.mp yields with ⟨world, _, rfl⟩
  exact .of_hushed ⟨rfl, [.pause seconds], rfl, by simp [Entry.isQuestion]⟩

theorem mount?_hushed {value : Option Mount}
    (yields : Yields watcher.witnessed.mount? before value after) : Hushed before after := by
  unfold mount? at yields
  rw [yields_bind] at yields
  rcases yields with ⟨answer, middle, asked, yields⟩
  have first : Hushed before middle := .of_attempt (fun _ => rfl) asked
  cases answer with
  | ok mount => exact first.trans (.of_pure yields)
  | error fault =>
      rw [yields_bind] at yields
      rcases yields with ⟨_, next, noted, yields⟩
      exact first.trans <| (note_hushed noted).trans (.of_pure yields)

end Watcher

end Monitor

end ObservatoryWatch
