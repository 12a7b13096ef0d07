import ObservatoryWatch.Proofs.Newcomers
import ObservatoryWatch.Proofs.Passage

/-!
What becomes of images.

A new image is either held back or reported, as the gate says, and the gate remembers
which. Of the memory nothing else changes but the number of notifications.
-/

namespace ObservatoryWatch.Monitor

open Observatory

variable {W : Type}

/-- Lines about new images and what becomes of them. -/
def Entry.isOfImage : Entry → Bool
  | newImage _ _ | clock _ | thumbnail _ _ | delivery _ _ _ => true
  | _ => false

namespace Journal

variable {entries : Journal} (lines : ∀ entry ∈ entries, entry.isOfImage = true)
include lines

theorem eventHistories_of_image : eventHistories entries = [] :=
  filterMap_eq_nil lines fun entry line => by cases entry <;> simp [Entry.isOfImage] at line ⊢

theorem imageHistories_of_image : imageHistories entries = [] :=
  filterMap_eq_nil lines fun entry line => by cases entry <;> simp [Entry.isOfImage] at line ⊢

theorem handedEvents_of_image : handedEvents entries = [] :=
  filterMap_eq_nil lines fun entry line => by cases entry <;> simp [Entry.isOfImage] at line ⊢

end Journal

/-- What the events and the sequence have taught is left as it is. -/
structure ImageFrame (before after : Scene W) : Prop where
  seenEvents : after.state.seenEvents = before.state.seenEvents
  target : after.state.target = before.state.target
  flipHours : after.state.flipHours = before.state.flipHours
  sequenceSeen : after.state.sequenceSeen = before.state.sequenceSeen
  journal : ∃ entries, after.journal = before.journal ++ entries ∧
    ∀ entry ∈ entries, entry.isOfImage = true

namespace ImageFrame

theorem refl (scene : Scene W) : ImageFrame scene scene :=
  ⟨rfl, rfl, rfl, rfl, [], by simp⟩

theorem trans {first second third : Scene W} (left : ImageFrame first second)
    (right : ImageFrame second third) : ImageFrame first third := by
  rcases left.journal with ⟨early, leftJournal, leftLines⟩
  rcases right.journal with ⟨late, rightJournal, rightLines⟩
  refine ⟨right.seenEvents.trans left.seenEvents, right.target.trans left.target,
    right.flipHours.trans left.flipHours, right.sequenceSeen.trans left.sequenceSeen,
    early ++ late, ?_, List.forall_mem_append.mpr ⟨leftLines, rightLines⟩⟩
  rw [rightJournal, leftJournal, List.append_assoc]

end ImageFrame

namespace Scene

/-- The scene once an image is known. -/
def withImage (scene : Scene W) (index : Nat) (image : Image) (seen : Seen) : Scene W :=
  (scene.jotted (.newImage index image)).updated fun state => { state with seenImages := seen }

def imageCard (scene : Scene W) (image : Image) (now : Calendar.Moment) (timestamp : String) :
    Card :=
  (Card.image image scene.state.target scene.state.gate.suppressed scene.state.flipHours
    now).stampedAt timestamp

end Scene

/-- A thumbnail as it is attached; without it the card is sent alone. -/
def attached (index : Nat) (answer : Except Fault Bytes) : Option Chat.Attachment :=
  answer.toOption.map fun content => ⟨content, Watcher.thumbnailName index⟩

/-- The clock was asked whether the gate is open; a gate that has let nothing pass is. -/
inductive Gate.Asked (gate : Gate) : List Binary64 → Bool → Prop where
  | unused (unused : gate.lastSentAt = none) : Asked gate [] true
  | read (last reading : Binary64) (used : gate.lastSentAt = some last) :
      Asked gate [reading] (gate.isOpen reading)

/-- What becomes of a new image when there are channels. -/
inductive Dealt (watcher : Watcher (StateM W)) (index : Nat) (image : Image)
    (before after : Scene W) : Prop where
  | held (readings : List Binary64) (asked : before.state.gate.Asked readings false)
      (reading : Binary64)
      (state : after.state = { before.state with gate := before.state.gate.holdBack })
      (journal : after.journal = before.journal ++ readings.map .clock ++ [.clock reading])
  | reported (readings : List Binary64) (asked : before.state.gate.Asked readings true)
      (sentAt : Binary64) (now : Calendar.Moment) (timestamp : String)
      (answer : Except Fault Bytes)
      (state : after.state =
        { before.state with
          gate := before.state.gate.letPass sentAt
          notificationsSent := before.state.notificationsSent + 1 })
      (journal : after.journal = before.journal ++ readings.map .clock ++
        .clock sentAt :: .thumbnail index answer ::
          deliveries (before.imageCard image now timestamp) (attached index answer) 0
            watcher.channels.length)

theorem isOfImage_clock (readings : List Binary64) :
    ∀ entry ∈ readings.map Entry.clock, entry.isOfImage = true := by
  intro entry member
  rcases List.mem_map.mp member with ⟨reading, _, rfl⟩
  rfl

theorem isOfImage_deliveries {card : Card} {image : Option Chat.Attachment}
    {position count : Nat} :
    ∀ entry ∈ deliveries card image position count, entry.isOfImage = true := by
  intro entry member
  rcases List.mem_map.mp member with ⟨given, _, rfl⟩
  rfl

theorem Dealt.frame {watcher : Watcher (StateM W)} {index : Nat} {image : Image}
    {before after : Scene W} (dealt : Dealt watcher index image before after) :
    ImageFrame before after := by
  cases dealt with
  | held readings _ reading state journal =>
      refine ⟨by rw [state], by rw [state], by rw [state], by rw [state],
        readings.map .clock ++ [.clock reading], by rw [journal, List.append_assoc], ?_⟩
      exact List.forall_mem_append.mpr ⟨isOfImage_clock readings, isOfImage_clock [reading]⟩
  | reported readings _ sentAt now timestamp answer state journal =>
      refine ⟨by rw [state], by rw [state], by rw [state], by rw [state], _,
        by rw [journal, List.append_assoc], ?_⟩
      refine List.forall_mem_append.mpr ⟨isOfImage_clock readings, ?_⟩
      exact List.forall_mem_cons.mpr ⟨rfl, List.forall_mem_cons.mpr ⟨rfl, isOfImage_deliveries⟩⟩

theorem Dealt.seenImages {watcher : Watcher (StateM W)} {index : Nat} {image : Image}
    {before after : Scene W} (dealt : Dealt watcher index image before after) :
    after.state.seenImages = before.state.seenImages := by
  cases dealt with
  | held _ _ _ state _ => rw [state]
  | reported _ _ _ _ _ _ state _ => rw [state]

/-- Dealing with an image hands no further one over. -/
theorem Dealt.handedImages {watcher : Watcher (StateM W)} {index : Nat} {image : Image}
    {before after : Scene W} (dealt : Dealt watcher index image before after) :
    after.journal.handedImages = before.journal.handedImages := by
  have clocks : ∀ readings : List Binary64,
      Journal.handedImages (readings.map .clock) = [] :=
    fun readings => List.filterMap_eq_nil_iff.mpr (by simp)
  cases dealt with
  | held readings _ reading state journal =>
      rw [journal, Journal.handedImages_append, Journal.handedImages_append, clocks]
      exact (List.append_nil _).trans (List.append_nil _)
  | reported readings _ sentAt now timestamp answer state journal =>
      have delivered : ∀ card attachment count,
          Journal.handedImages (deliveries card attachment 0 count) = [] :=
        fun card attachment count => List.filterMap_eq_nil_iff.mpr (by simp [deliveries])
      rw [journal, Journal.handedImages_append, Journal.handedImages_append, clocks]
      change _ ++ [] ++ Journal.handedImages (deliveries _ _ _ _) = _
      rw [delivered, List.append_nil, List.append_nil]

namespace Watcher

variable {watcher : Watcher (StateM W)} {before after : Scene W}

theorem clock_yields {reading : Binary64}
    (yields : Yields (liftM watcher.witnessed.world.clock) before reading after) :
    ∃ world, after = (before.jotted (.clock reading)).inWorld world := by
  rcases yields_lift.mp yields with ⟨journal, world, ran, rfl⟩
  change (match watcher.world.clock before.world with
    | (reading, world) => ((reading, before.journal ++ [Entry.clock reading]), world)) =
      ((reading, journal), world) at ran
  generalize watcher.world.clock before.world = outcome at ran
  cases ran
  exact ⟨outcome.2, rfl⟩

theorem gateIsOpen_yields {opened : Bool}
    (yields : Yields watcher.witnessed.gateIsOpen before opened after) :
    ∃ readings, before.state.gate.Asked readings opened ∧ after.state = before.state ∧
      after.journal = before.journal ++ readings.map .clock := by
  simp only [gateIsOpen, yields_bind, yields_get] at yields
  rcases yields with ⟨_, _, ⟨rfl, rfl⟩, yields⟩
  cases used : before.state.gate.lastSentAt with
  | none =>
      rw [used, Option.isNone_none, if_pos rfl, yields_pure] at yields
      rcases yields with ⟨rfl, rfl⟩
      exact ⟨[], .unused used, rfl, by simp⟩
  | some last =>
      simp only [used, Option.isNone_some, Bool.false_eq_true, if_false, yields_bind,
        yields_pure] at yields
      rcases yields with ⟨reading, _, asked, rfl, rfl⟩
      rcases clock_yields asked with ⟨world, rfl⟩
      exact ⟨[reading], .read last reading used, rfl, rfl⟩

theorem holdBack_yields {value : Unit}
    (yields : Yields watcher.witnessed.holdBack before value after) :
    ∃ reading,
      after.state = { before.state with gate := before.state.gate.holdBack } ∧
        after.journal = before.journal ++ [.clock reading] := by
  simp only [holdBack, yields_bind, yields_modify, yields_get] at yields
  rcases yields with ⟨_, _, rfl, state, _, ⟨rfl, rfl⟩, reading, _, asked, noted⟩
  rcases clock_yields asked with ⟨world, rfl⟩
  rcases note_yields noted with ⟨later, rfl⟩
  exact ⟨reading, rfl, rfl⟩

/-- With channels, a card with an image makes one question and one delivery to each. -/
theorem deliverWithImage_yields {card : Card} {index : Nat} {failed : List String}
    (listening : watcher.channels ≠ [])
    (yields : Yields (Watch.perform (Chat.deliverWithImage watcher.witnessed.world
      watcher.witnessed.channels card (watcher.witnessed.station.thumbnail index none)
      (thumbnailName index))) before failed after) :
    ∃ answer, after.state = before.state ∧
      after.journal = before.journal ++ .thumbnail index answer ::
        deliveries card (attached index answer) 0 watcher.channels.length := by
  unfold Chat.deliverWithImage at yields
  rw [isEmpty_witnessed listening] at yields
  simp only [Bool.false_eq_true, if_false, yields_perform_bind] at yields
  rcases yields with ⟨answer, asked, attempted, yields⟩
  rcases yields_perform_attemptFor.mp attempted with ⟨outcome, ended, held⟩
  rcases ends_perform_noted.mp ended with ⟨world, _, rfl⟩
  -- What came of the question decides what is attached, and nothing else.
  refine ⟨outcome, ?_⟩
  cases outcome with
  | ok content =>
      cases held
      rcases deliverAll_yields watcher.channels yields with ⟨state, journal⟩
      exact ⟨state, by simp [journal, attached, Except.toOption]⟩
  | error fault =>
      cases answer with
      | ok content => cases fault <;> cases held
      | error _ =>
          rw [yields_perform_bind] at yields
          rcases yields with ⟨_, _, noted, yields⟩
          rcases yields_lift_lift.mp noted with ⟨later, _, rfl⟩
          rcases deliverAll_yields watcher.channels yields with ⟨state, journal⟩
          exact ⟨state, by simp [journal, attached, Except.toOption]⟩

theorem reportImage_yields {index : Nat} {image : Image} {value : Unit}
    (listening : watcher.channels ≠ [])
    (yields : Yields (watcher.witnessed.reportImage index image) before value after) :
    ∃ sentAt now timestamp answer,
      after.state =
          { before.state with
            gate := before.state.gate.letPass sentAt
            notificationsSent := before.state.notificationsSent + 1 } ∧
        after.journal = before.journal ++ .clock sentAt :: .thumbnail index answer ::
          deliveries (before.imageCard image now timestamp) (attached index answer) 0
            watcher.channels.length := by
  simp only [reportImage, countNotification, yields_bind, yields_modify, yields_get,
    yields_discard] at yields
  rcases yields with ⟨_, _, ⟨rfl, rfl⟩, sentAt, _, asked, _, _, rfl, now, _, told, _, _, ⟨rfl, rfl⟩,
    card, _, stamping, _, middle, ⟨failed, delivered⟩, rfl⟩
  rcases clock_yields asked with ⟨_, rfl⟩
  rcases yields_lift_lift.mp told with ⟨_, _, rfl⟩
  rcases stamp_yields stamping with ⟨timestamp, _, rfl, rfl⟩
  rcases deliverWithImage_yields listening delivered with ⟨answer, state, journal⟩
  refine ⟨sentAt, now, timestamp, answer, ?_, ?_⟩
  · rw [Scene.state_updated, state]
    rfl
  · rw [Scene.journal_updated, journal]
    simp [Scene.imageCard]

/-- Without channels nobody is told about an image, and the gate does not count it. -/
theorem handleImage_of_silent {index : Nat} {image : Image} {value : Unit}
    (silent : watcher.channels = [])
    (yields : Yields (watcher.witnessed.handleImage index image) before value after) :
    after = before := by
  have none : watcher.witnessed.hasChannels = false := by
    rw [hasChannels_witnessed, hasChannels, silent]
    rfl
  simp only [handleImage, none, Bool.false_eq_true, if_false, yields_pure] at yields
  exact yields.2.symm

theorem handleImage_dealt {index : Nat} {image : Image} {value : Unit}
    (listening : watcher.channels ≠ [])
    (yields : Yields (watcher.witnessed.handleImage index image) before value after) :
    Dealt watcher index image before after := by
  have some : watcher.witnessed.hasChannels = true := by
    rw [hasChannels_witnessed, hasChannels_iff]
    exact listening
  simp only [handleImage, some, if_true, yields_bind] at yields
  rcases yields with ⟨opened, middle, asked, yields⟩
  rcases gateIsOpen_yields asked with ⟨readings, answered, state, journal⟩
  cases opened with
  | false =>
      rw [if_neg Bool.false_ne_true] at yields
      rcases holdBack_yields yields with ⟨reading, heldState, heldJournal⟩
      refine .held readings answered reading ?_ ?_
      · rw [heldState, state]
      · rw [heldJournal, journal]
  | true =>
      rw [if_pos rfl] at yields
      rcases reportImage_yields listening yields with
        ⟨sentAt, now, timestamp, answer, sentState, sentJournal⟩
      have card : middle.imageCard image now timestamp =
          before.imageCard image now timestamp := by
        unfold Scene.imageCard
        rw [state]
      refine .reported readings answered sentAt now timestamp answer ?_ ?_
      · rw [sentState, state]
      · rw [sentJournal, journal, card]

/-- An image of the history is left alone if it is known; else it is remembered, once and for all,
and dealt with. -/
theorem considerImage_dealt {deal : Nat → Image → Watched W Unit} {index : Nat} {image : Image}
    {value : Unit}
    (yields : Yields (watcher.witnessed.considerImage deal index image) before value after) :
    (after = before ∧ image.fingerprint ∈ before.state.seenImages.fingerprints) ∨
      ∃ seen world, before.state.seenImages.add? image.fingerprint = some seen ∧
        Yields (deal index image)
          ((before.updated fun state => { state with seenImages := seen }).inWorld world)
          value after := by
  simp only [considerImage, yields_bind, yields_get] at yields
  rcases yields with ⟨_, _, ⟨rfl, rfl⟩, yields⟩
  cases added : before.state.seenImages.add? image.fingerprint with
  | none =>
      rw [added, yields_pure] at yields
      exact .inl ⟨yields.2.symm, Seen.add?_eq_none.mp added⟩
  | some seen =>
      simp only [added, yields_bind, yields_modify] at yields
      rcases yields with ⟨_, _, rfl, _, _, told, handled⟩
      rcases note_yields told with ⟨world, rfl⟩
      exact .inr ⟨seen, world, rfl, handled⟩

/-- A new image is noted when it is dealt with. -/
theorem considerImage_yields {index : Nat} {image : Image} {value : Unit}
    (yields : Yields (watcher.witnessed.considerImage watcher.handleImageNoted index image)
      before value after) :
    (after = before ∧ image.fingerprint ∈ before.state.seenImages.fingerprints) ∨
      ∃ seen world, before.state.seenImages.add? image.fingerprint = some seen ∧
        Yields (watcher.witnessed.handleImage index image)
          ((before.withImage index image seen).inWorld world) value after := by
  rcases considerImage_dealt yields with same | ⟨seen, world, added, handled⟩
  · exact .inl same
  · simp only [handleImageNoted, yields_bind, yields_lift_jot] at handled
    rcases handled with ⟨_, _, rfl, handled⟩
    exact .inr ⟨seen, world, added, handled⟩

/-- Whatever becomes of an image, the images remembered stay the same. -/
theorem handleImage_frame {index : Nat} {image : Image} {value : Unit}
    (yields : Yields (watcher.witnessed.handleImage index image) before value after) :
    ImageFrame before after ∧ after.state.seenImages = before.state.seenImages := by
  by_cases silent : watcher.channels = []
  · rw [handleImage_of_silent silent yields]
    exact ⟨.refl before, rfl⟩
  · have dealt := handleImage_dealt silent yields
    exact ⟨dealt.frame, dealt.seenImages⟩

/-- Whatever becomes of an image, its lines are all that the rest is told of it. -/
theorem considerImage_frame {index : Nat} {image : Image} {value : Unit}
    (yields : Yields (watcher.witnessed.considerImage watcher.handleImageNoted index image)
      before value after) : ImageFrame before after := by
  rcases considerImage_yields yields with ⟨rfl, _⟩ | ⟨seen, world, _, handled⟩
  · exact .refl after
  · have known : ImageFrame before ((before.withImage index image seen).inWorld world) :=
      ⟨rfl, rfl, rfl, rfl, [.newImage index image], rfl, by simp [Entry.isOfImage]⟩
    exact known.trans (handleImage_frame handled).1

end Watcher

end ObservatoryWatch.Monitor
