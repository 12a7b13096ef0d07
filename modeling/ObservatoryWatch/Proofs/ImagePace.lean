import Mathlib.Data.List.Chain
import ObservatoryWatch.Proofs.Dictation
import ObservatoryWatch.Proofs.Footprint
import ObservatoryWatch.Proofs.Ledger
import ObservatoryWatch.Proofs.Rounding

/-!
The pace of image cards.

The clock is read once to ask the gate and once more to stamp the card that it lets pass. As the
clock never goes back, the stamp is no earlier than the reading that opened the gate, so the stamps
of two cards in a row are as far apart as the gate demands. The gate remembers the last stamp, and
nothing but a new image changes it.
-/

namespace ObservatoryWatch.Monitor

open Observatory

variable {W : Type} {watcher : Watcher (StateM W)}

/-! ## Readings and stamps -/

def Entry.reading? : Entry → Option Binary64
  | clock reading => some reading
  | _ => none

/-- The reading noted last, and for each card of an image the one noted last before it. -/
structure Pace where
  reading : Option Binary64
  sent : List Binary64

def Pace.after (position : Nat) (pace : Pace) : Entry → Pace
  | .clock reading => { pace with reading := some reading }
  | .delivery given card _ =>
    if given = position ∧ card.isOfImage = true then
      { pace with sent := pace.sent ++ pace.reading.toList }
    else pace
  | _ => pace

namespace Journal

def readings (journal : Journal) : List Binary64 := journal.filterMap Entry.reading?

def paceAt (journal : Journal) (position : Nat) : Pace :=
  journal.foldl (Pace.after position) ⟨none, []⟩

/-- The stamps of the cards of images that the channel at a position was given. -/
def sendTimes (journal : Journal) (position : Nat) : List Binary64 :=
  (journal.paceAt position).sent

theorem readings_append (early late : Journal) :
    readings (early ++ late) = readings early ++ readings late :=
  List.filterMap_append

theorem readings_clock (times : List Binary64) : readings (times.map .clock) = times := by
  unfold readings
  rw [List.filterMap_map]
  exact List.filterMap_some

theorem readings_deliveries (card : Card) (image : Option Chat.Attachment) (first count : Nat) :
    readings (deliveries card image first count) = [] := by
  apply List.filterMap_eq_nil_iff.mpr
  intro entry member
  rcases List.mem_map.mp member with ⟨given, _, rfl⟩
  rfl

theorem imageCardsAt_append (early late : Journal) (position : Nat) :
    imageCardsAt (early ++ late) position =
      imageCardsAt early position ++ imageCardsAt late position := by
  unfold imageCardsAt
  rw [cardsAt_append, List.filter_append]

end Journal

/-! ## Lines that bring no card of an image -/

theorem imageCardsAt_of_silent {position : Nat} {entries : Journal}
    (silent : ∀ entry ∈ entries, entry.isSilentAt position = true) :
    entries.imageCardsAt position = [] := by
  unfold Journal.imageCardsAt Journal.cardsAt
  rw [List.filter_filterMap]
  apply Journal.filterMap_eq_nil silent
  intro entry silent
  cases entry with
  | delivery given card image =>
      by_cases here : given = position
      · simpa [Entry.isSilentAt, here] using silent
      · simp [here]
  | _ => rfl

theorem handedImages_of_silent {position : Nat} {entries : Journal}
    (silent : ∀ entry ∈ entries, entry.isSilentAt position = true) :
    entries.handedImages = [] := by
  apply Journal.filterMap_eq_nil silent
  intro entry silent
  cases entry with
  | newImage index image => cases silent
  | _ => rfl

namespace Pace

variable {position : Nat} {pace : Pace}

theorem sent_of_silent {entries : Journal}
    (silent : ∀ entry ∈ entries, entry.isSilentAt position = true) :
    (entries.foldl (after position) pace).sent = pace.sent := by
  induction entries generalizing pace with
  | nil => rfl
  | cons entry rest induction =>
      rw [List.forall_mem_cons] at silent
      rw [List.foldl_cons, induction silent.2]
      cases entry with
      | delivery given card image =>
          have elsewhere : ¬ (given = position ∧ card.isOfImage = true) := by
            rintro ⟨here, shows⟩
            simp [Entry.isSilentAt, here, shows] at silent
          rw [after, if_neg elsewhere]
      | _ => rfl

theorem after_card {card : Card} {image : Option Chat.Attachment}
    (shows : card.isOfImage = true) :
    pace.after position (.delivery position card image) =
      { pace with sent := pace.sent ++ pace.reading.toList } :=
  if_pos ⟨rfl, shows⟩

/-- Deliveries read no clock. -/
theorem reading_deliveries {card : Card} {image : Option Chat.Attachment} (count : Nat)
    (first : Nat) :
    ((deliveries card image first count).foldl (after position) pace).reading = pace.reading := by
  induction count generalizing first pace with
  | zero => rfl
  | succ count induction =>
      rw [deliveries, List.range'_succ, List.map_cons, List.foldl_cons]
      change ((deliveries card image (first + 1) count).foldl (after position) _).reading = _
      rw [induction, after]
      split <;> rfl

end Pace

namespace Journal

variable {position : Nat} {journal : Journal}

theorem sendTimes_append_silent {entries : Journal}
    (silent : ∀ entry ∈ entries, entry.isSilentAt position = true) :
    sendTimes (journal ++ entries) position = sendTimes journal position := by
  unfold sendTimes paceAt
  rw [List.foldl_append]
  exact Pace.sent_of_silent silent

theorem sendTimes_append_newImage (index : Nat) (image : Image) :
    sendTimes (journal ++ [.newImage index image]) position = sendTimes journal position := by
  unfold sendTimes paceAt
  rw [List.foldl_append]
  rfl

/-- A card of an image is stamped with the reading before it. -/
theorem sendTimes_append_report {card : Card} {attachment : Option Chat.Attachment} {count : Nat}
    (index : Int) (sentAt : Binary64) (answer : Except Fault Bytes) (inside : position < count)
    (shows : card.isOfImage = true) :
    sendTimes (journal ++ .clock sentAt :: .thumbnail index answer ::
      deliveries card attachment 0 count) position = sendTimes journal position ++ [sentAt] := by
  have early : ∀ entry ∈ deliveries card attachment 0 position,
      entry.isSilentAt position = true :=
    isSilentAt_deliveries (.inr (Nat.le_of_eq (Nat.zero_add position)))
  have late : ∀ entry ∈ deliveries card attachment (position + 1) (count - position - 1),
      entry.isSilentAt position = true :=
    isSilentAt_deliveries (.inl (Nat.lt_succ_self position))
  unfold sendTimes paceAt
  rw [List.foldl_append, List.foldl_cons, List.foldl_cons, deliveries_split inside,
    List.foldl_append, List.foldl_cons, Pace.sent_of_silent late, Pace.after_card shows,
    Pace.reading_deliveries, Pace.sent_of_silent early]
  rfl

theorem imageCardsAt_report {card : Card} {attachment : Option Chat.Attachment} {count : Nat}
    (inside : position < count) (shows : card.isOfImage = true) :
    imageCardsAt (deliveries card attachment 0 count) position = [card] := by
  unfold imageCardsAt
  rw [cardsAt_deliveries, if_pos ⟨Nat.zero_le position, by omega⟩]
  simp [shows]

end Journal

/-! ## Distances -/

/-- Readings of a clock that never goes back. -/
structure Steady (readings : List Binary64) : Prop where
  finite : ∀ reading ∈ readings, reading.isFinite = true
  order : readings.Pairwise fun earlier later => earlier.isAtMost later = true

theorem Steady.left {early late : List Binary64} (steady : Steady (early ++ late)) :
    Steady early :=
  ⟨fun reading member => steady.finite reading (List.mem_append_left late member),
    (List.pairwise_append.mp steady.order).1⟩

theorem Steady.right {early late : List Binary64} (steady : Steady (early ++ late)) :
    Steady late :=
  ⟨fun reading member => steady.finite reading (List.mem_append_right early member),
    (List.pairwise_append.mp steady.order).2.1⟩

/-- At least the cooldown lies between two readings: as it is computed, and truly, unless the
distance had to be rounded. -/
def Apart (cooldown earlier later : Binary64) : Prop :=
  cooldown.isAtMost (later - earlier) = true ∧
    ∀ distance, earlier.distance? later = some distance →
      (later - earlier).rank? = some distance →
        ∃ least, cooldown.rank? = some least ∧ least ≤ distance

/-- Truly less than the cooldown lies between two readings. -/
def Near (cooldown earlier later : Binary64) : Prop :=
  ∃ distance least, earlier.distance? later = some distance ∧ cooldown.rank? = some least ∧
    distance < least

theorem Apart.of_isAtMost {cooldown earlier later : Binary64}
    (computed : cooldown.isAtMost (later - earlier) = true) : Apart cooldown earlier later := by
  refine ⟨computed, fun distance _ exact => ?_⟩
  rcases Binary64.isAtMost_iff.mp computed with ⟨least, _, placed, same, le⟩
  rw [exact] at same
  cases same
  exact ⟨least, placed, le⟩

/-- A gate that is open at a reading keeps a later stamp apart from the former one. -/
theorem Gate.apart_of_isOpen {gate : Gate} {last reading sentAt : Binary64}
    (used : gate.lastSentAt = some last) (opened : gate.isOpen reading = true)
    (lastFinite : last.isFinite = true) (steady : Steady [reading, sentAt]) :
    Apart gate.cooldown last sentAt := by
  have far : gate.cooldown.isAtMost (reading - last) = true := by
    rw [Gate.isOpen, used] at opened
    exact opened
  have order : reading.isAtMost sentAt = true :=
    List.rel_of_pairwise_cons steady.order (List.mem_singleton_self sentAt)
  have finite := List.forall_mem_cons.mp steady.finite
  exact .of_isAtMost <| Binary64.isAtMost_sub_of_isAtMost lastFinite finite.1
    (finite.2 sentAt (List.mem_singleton_self sentAt)) order far

theorem Gate.near_of_not_isOpen {gate : Gate} {last reading : Binary64}
    (notNegative : Binary64.isAtMost 0 gate.cooldown = true)
    (used : gate.lastSentAt = some last) (closed : gate.isOpen reading = false)
    (lastFinite : last.isFinite = true) (readingFinite : reading.isFinite = true) :
    Near gate.cooldown last reading := by
  have near : gate.cooldown.isAtMost (reading - last) = false := by
    rw [Gate.isOpen, used] at closed
    exact closed
  rcases Binary64.isAtMost_iff.mp notNegative with ⟨_, least, _, placed, _⟩
  rcases Binary64.distance?_lt_of_not_isAtMost placed lastFinite readingFinite near with
    ⟨distance, true, less⟩
  exact ⟨distance, least, true, placed, less⟩

/-! ## Steps -/

/-- The gate is left as it is, and no image is handed over or shown on a card. -/
structure Idle (position : Nat) (before after : Scene W) : Prop where
  gate : after.state.gate = before.state.gate
  journal : ∃ entries, after.journal = before.journal ++ entries ∧
    ∀ entry ∈ entries, entry.isSilentAt position = true

namespace Idle

variable {position : Nat} {before after : Scene W}

theorem refl (scene : Scene W) : Idle position scene scene := ⟨rfl, [], by simp⟩

theorem trans {first second third : Scene W} (left : Idle position first second)
    (right : Idle position second third) : Idle position first third := by
  rcases left.journal with ⟨early, leftJournal, leftSilent⟩
  rcases right.journal with ⟨late, rightJournal, rightSilent⟩
  refine ⟨right.gate.trans left.gate, early ++ late, ?_,
    List.forall_mem_append.mpr ⟨leftSilent, rightSilent⟩⟩
  rw [rightJournal, leftJournal, List.append_assoc]

theorem of_aside (aside : Aside before after) : Idle position before after := by
  rcases aside.journal with ⟨entries, journal, lines⟩
  exact ⟨aside.gate, entries, journal, fun entry member => isSilentAt_of_aside (lines entry member)⟩

theorem of_line (entry : Entry) (gate : after.state.gate = before.state.gate)
    (journal : after.journal = before.journal ++ [entry])
    (silent : entry.isSilentAt position = true) : Idle position before after :=
  ⟨gate, [entry], journal, by simpa using silent⟩

theorem imageCardsAt (idle : Idle position before after) :
    after.journal.imageCardsAt position = before.journal.imageCardsAt position := by
  rcases idle.journal with ⟨entries, journal, silent⟩
  rw [journal, Journal.imageCardsAt_append, imageCardsAt_of_silent silent, List.append_nil]

theorem sendTimes (idle : Idle position before after) :
    after.journal.sendTimes position = before.journal.sendTimes position := by
  rcases idle.journal with ⟨entries, journal, silent⟩
  rw [journal, Journal.sendTimes_append_silent silent]

theorem handedImages (idle : Idle position before after) :
    after.journal.handedImages = before.journal.handedImages := by
  rcases idle.journal with ⟨entries, journal, silent⟩
  rw [journal, Journal.handedImages_append, handedImages_of_silent silent, List.append_nil]

end Idle

/-- A step is idle, unless it takes a new image into account. -/
theorem Effect.idle_or_taken {earlier later : Stage W} (position : Nat)
    (effect : Effect watcher earlier later) :
    (Idle position earlier.scene later.scene ∧
        ∀ index image rest, earlier.agenda = .image index image :: rest →
          image.fingerprint ∈ earlier.scene.state.seenImages.fingerprints) ∨
      ∃ index image rest seen world, earlier.agenda = .image index image :: rest ∧
        earlier.scene.state.seenImages.add? image.fingerprint = some seen ∧
        Yields (watcher.witnessed.handleImage index image)
          ((earlier.scene.withImage index image seen).inWorld world) () later.scene := by
  cases effect with
  | @sequenceMissed before _ fault aside =>
      have told : Idle position before (before.jotted (.sequence (.error fault))) :=
        .of_line _ rfl rfl rfl
      exact .inl ⟨told.trans (.of_aside aside), by simp⟩
  | @sequenceSeen before _ tree flipHours aside =>
      have told : Idle position before (before.withSequence tree flipHours) :=
        .of_line (.sequence (.ok tree)) rfl rfl rfl
      exact .inl ⟨told.trans (.of_aside aside), by simp⟩
  | eventsAsked answer world => exact .inl ⟨.of_line (.events answer) rfl rfl rfl, by simp⟩
  | imagesAsked answer world => exact .inl ⟨.of_line (.images answer) rfl rfl rfl, by simp⟩
  | eventPassed old => exact .inl ⟨.refl _, by simp⟩
  | @eventTaken before _ event _ seen telling added aside =>
      have told : Idle position before (before.withEvent event seen) :=
        .of_line (.newEvent event) rfl rfl rfl
      exact .inl ⟨told.trans (.of_aside aside), by simp⟩
  | imagePassed old =>
      refine .inl ⟨.refl _, ?_⟩
      rintro _ _ _ ⟨⟩
      exact old
  | imageTaken seen world added handled frame =>
      exact .inr ⟨_, _, _, seen, world, rfl, added, handled⟩
  | paused aside => exact .inl ⟨.of_aside aside, by simp⟩

/-! ## New images -/

namespace Gate.Asked

variable {gate : Gate} {readings : List Binary64}

theorem of_closed (asked : gate.Asked readings false) :
    ∃ last reading, gate.lastSentAt = some last ∧ readings = [reading] ∧
      gate.isOpen reading = false := by
  generalize answer : false = opened at asked
  cases asked with
  | unused => cases answer
  | read last reading used => exact ⟨last, reading, used, rfl, rfl⟩

theorem of_open (asked : gate.Asked readings true) :
    (gate.lastSentAt = none ∧ readings = []) ∨
      ∃ last reading, gate.lastSentAt = some last ∧ readings = [reading] ∧
        gate.isOpen reading = true := by
  generalize answer : true = opened at asked
  cases asked with
  | unused unused => exact .inl ⟨unused, rfl⟩
  | read last reading used => exact .inr ⟨last, reading, used, rfl, rfl⟩

end Gate.Asked

/-- What dealing with a new image does to the gate, to the readings and to the cards of images. -/
inductive Dealing (position : Nat) (image : Image) (before after : Scene W) : Prop where
  | held (last reading second : Binary64)
      (used : before.state.gate.lastSentAt = some last)
      (closed : before.state.gate.isOpen reading = false)
      (gate : after.state.gate = before.state.gate.holdBack)
      (readings : after.journal.readings = before.journal.readings ++ [reading, second])
      (cards : after.journal.imageCardsAt position = before.journal.imageCardsAt position)
      (times : after.journal.sendTimes position = before.journal.sendTimes position)
  | reported (asked : List Binary64) (opened : before.state.gate.Asked asked true)
      (sentAt : Binary64) (now : Calendar.Moment) (timestamp : String)
      (gate : after.state.gate = before.state.gate.letPass sentAt)
      (readings : after.journal.readings = before.journal.readings ++ (asked ++ [sentAt]))
      (cards : after.journal.imageCardsAt position =
        before.journal.imageCardsAt position ++ [before.imageCard image now timestamp])
      (times : after.journal.sendTimes position =
        before.journal.sendTimes position ++ [sentAt])

theorem Dealt.dealing {position index : Nat} {image : Image} {seen : Seen} {world : W}
    {before after : Scene W} (inside : position < watcher.channels.length)
    (dealt : Dealt watcher index image ((before.withImage index image seen).inWorld world) after) :
    Dealing position image before after := by
  have clocks : ∀ readings : List Binary64, ∀ entry ∈ readings.map Entry.clock,
      entry.isSilentAt position = true := by simp [Entry.isSilentAt]
  have start : ((before.withImage index image seen).inWorld world).journal =
      before.journal ++ [.newImage index image] := rfl
  have noReadings : Journal.readings [.newImage index image] = [] := rfl
  have noCards : Journal.imageCardsAt [.newImage index image] position = [] := rfl
  cases dealt with
  | held readings asked second state journal =>
      rcases asked.of_closed with ⟨last, reading, used, rfl, closed⟩
      rw [start, List.append_assoc] at journal
      change after.journal = _ ++ [Entry.newImage index image] ++ [reading, second].map .clock
        at journal
      refine .held last reading second used closed (by rw [state]; rfl) ?_ ?_ ?_
      · rw [journal, Journal.readings_append, Journal.readings_append, noReadings,
          Journal.readings_clock, List.append_nil]
      · rw [journal, Journal.imageCardsAt_append, Journal.imageCardsAt_append, noCards,
          imageCardsAt_of_silent (clocks _), List.append_nil, List.append_nil]
      · rw [journal, Journal.sendTimes_append_silent (clocks _), Journal.sendTimes_append_newImage]
  | reported readings asked sentAt now timestamp answer state journal =>
      have shows : (before.imageCard image now timestamp).isOfImage = true :=
        Card.isOfImage_image ..
      have card : ((before.withImage index image seen).inWorld world).imageCard image now
          timestamp = before.imageCard image now timestamp := rfl
      rw [start, card] at journal
      refine .reported readings asked sentAt now timestamp (by rw [state]; rfl) ?_ ?_ ?_
      · have last : Journal.readings (.clock sentAt :: .thumbnail index answer ::
            deliveries (before.imageCard image now timestamp) (attached index answer) 0
              watcher.channels.length) = [sentAt] :=
          congrArg (sentAt :: ·) (Journal.readings_deliveries ..)
        rw [journal, Journal.readings_append, Journal.readings_append, Journal.readings_append,
          noReadings, Journal.readings_clock, last, List.append_nil, List.append_assoc]
      · have sent : Journal.imageCardsAt (.clock sentAt :: .thumbnail index answer ::
            deliveries (before.imageCard image now timestamp) (attached index answer) 0
              watcher.channels.length) position = [before.imageCard image now timestamp] :=
          Journal.imageCardsAt_report inside shows
        rw [journal, Journal.imageCardsAt_append, Journal.imageCardsAt_append,
          Journal.imageCardsAt_append, noCards, imageCardsAt_of_silent (clocks _), sent,
          List.append_nil, List.append_nil]
      · rw [journal, Journal.sendTimes_append_report _ sentAt answer inside shows,
          Journal.sendTimes_append_silent (clocks _), Journal.sendTimes_append_newImage]

/-- A new image is handed over once. -/
theorem Dealt.handedImages_append {index : Nat} {image : Image} {seen : Seen} {world : W}
    {before after : Scene W}
    (dealt : Dealt watcher index image ((before.withImage index image seen).inWorld world) after) :
    after.journal.handedImages = before.journal.handedImages ++ [image] := by
  rw [dealt.handedImages]
  exact Journal.handedImages_append ..

/-! ## The invariant -/

/-- The gate remembers the last stamp, there is one for each card of an image, and as long as the
clock does not go back they are apart. -/
structure Paced (position : Nat) (cooldown : Binary64) (scene : Scene W) : Prop where
  cooldown_eq : scene.state.gate.cooldown = cooldown
  stamp : scene.state.gate.lastSentAt = (scene.journal.sendTimes position).getLast?
  unused_iff : scene.state.gate.lastSentAt = none ↔ scene.journal.handedImages = []
  count : (scene.journal.sendTimes position).length =
    (scene.journal.imageCardsAt position).length
  noted : ∀ time ∈ scene.journal.sendTimes position, time ∈ scene.journal.readings
  apart : Steady scene.journal.readings →
    (scene.journal.sendTimes position).IsChain (Apart cooldown)

namespace Paced

variable {position : Nat} {cooldown : Binary64} {before after : Scene W}

/-- A gate that has let nothing pass, and a journal without images. -/
theorem fresh {gate : Gate} {world : W} (new : Gate.new? cooldown = some gate) :
    gate.lastSentAt = none ∧ Paced position cooldown (.fresh gate world) := by
  unfold Gate.new? at new
  split at new
  · cases new
    have unused : (Scene.fresh (⟨cooldown, none, 0, ‹_›⟩ : Gate) world).journal.handedImages = [] :=
      rfl
    exact ⟨rfl, rfl, rfl, ⟨fun _ => unused, fun _ => rfl⟩, rfl, List.forall_mem_nil _,
      fun _ => .nil⟩
  · cases new

theorem idle (paced : Paced position cooldown before) (idle : Idle position before after) :
    Paced position cooldown after := by
  rcases idle.journal with ⟨entries, journal, _⟩
  have readings : after.journal.readings = before.journal.readings ++ entries.readings := by
    rw [journal, Journal.readings_append]
  constructor
  · exact idle.gate ▸ paced.cooldown_eq
  · rw [idle.gate, idle.sendTimes, paced.stamp]
  · rw [idle.gate, idle.handedImages, paced.unused_iff]
  · rw [idle.sendTimes, idle.imageCardsAt, paced.count]
  · intro time member
    rw [idle.sendTimes] at member
    exact readings ▸ List.mem_append_left _ (paced.noted time member)
  · intro steady
    rw [readings] at steady
    rw [idle.sendTimes]
    exact paced.apart steady.left

/-- The last stamp is a reading of the clock, and so it is finite. -/
theorem finite_of_used (paced : Paced position cooldown before) {last : Binary64}
    (used : before.state.gate.lastSentAt = some last) (steady : Steady before.journal.readings) :
    last.isFinite = true := by
  have stamped : last ∈ before.journal.sendTimes position :=
    List.mem_of_getLast? (paced.stamp ▸ used)
  exact steady.finite last (paced.noted last stamped)

theorem dealing {image : Image} (paced : Paced position cooldown before)
    (dealing : Dealing position image before after)
    (handed : after.journal.handedImages = before.journal.handedImages ++ [image]) :
    Paced position cooldown after := by
  cases dealing with
  | held last reading second used closed gate readings cards times =>
      constructor
      · rw [gate]
        exact paced.cooldown_eq
      · rw [gate, times]
        exact paced.stamp
      · rw [gate, handed]
        have stamped : before.state.gate.holdBack.lastSentAt = some last := used
        simp [stamped]
      · rw [times, cards, paced.count]
      · intro time member
        rw [times] at member
        exact readings ▸ List.mem_append_left _ (paced.noted time member)
      · intro steady
        rw [readings] at steady
        rw [times]
        exact paced.apart steady.left
  | reported asked opened sentAt now timestamp gate readings cards times =>
      constructor
      · rw [gate]
        exact paced.cooldown_eq
      · rw [gate, times]
        simp [Gate.letPass]
      · rw [gate, handed]
        simp [Gate.letPass]
      · rw [times, cards, List.length_append, List.length_append, paced.count]
        rfl
      · intro time member
        rw [times, List.mem_append, List.mem_singleton] at member
        rcases member with member | rfl
        · exact readings ▸ List.mem_append_left _ (paced.noted time member)
        · simp [readings]
      · -- The new stamp has to be apart from the last one only.
        intro steady
        rw [readings] at steady
        rw [times]
        refine List.isChain_append.mpr ⟨paced.apart steady.left, .singleton sentAt, ?_⟩
        rintro last isLast _ ⟨⟩
        rw [← paced.stamp] at isLast
        rcases opened.of_open with ⟨unused, _⟩ | ⟨_, reading, used, rfl, answer⟩
        · cases unused.symm.trans isLast
        · cases used.symm.trans isLast
          rw [← paced.cooldown_eq]
          exact Gate.apart_of_isOpen used answer (paced.finite_of_used used steady.left)
            steady.right

theorem step {earlier later : Stage W} (inside : position < watcher.channels.length)
    (paced : Paced position cooldown earlier.scene) (taken : Step watcher earlier later) :
    Paced position cooldown later.scene := by
  rcases taken.effect.idle_or_taken position with
    ⟨idle, _⟩ | ⟨index, image, rest, seen, world, _, _, handled⟩
  · exact paced.idle idle
  · have listening : watcher.channels ≠ [] := List.ne_nil_of_length_pos (by omega)
    have dealt := Watcher.handleImage_dealt listening handled
    exact paced.dealing (dealt.dealing inside) dealt.handedImages_append

theorem of_leads {start : Scene W} {stage : Stage W} (inside : position < watcher.channels.length)
    (paced : Paced position cooldown start) (leads : Leads watcher ⟨start, []⟩ stage) :
    Paced position cooldown stage.scene := by
  induction leads with
  | refl => exact paced
  | tail _ taken kept => exact kept.step inside taken

end Paced

/-- What a step does to the pace of images. -/
inductive Paces (position : Nat) (cooldown : Binary64) (earlier later : Stage W) : Prop where
  /-- Without a new image the gate is not changed. -/
  | kept
      (old : ∀ index image rest, earlier.agenda = .image index image :: rest →
        image.fingerprint ∈ earlier.scene.state.seenImages.fingerprints)
      (gate : later.scene.state.gate = earlier.scene.state.gate)
      (cards : later.scene.journal.imageCardsAt position =
        earlier.scene.journal.imageCardsAt position)
  /-- A new image is shown on a card, and the gate remembers the stamp. -/
  | sent (index : Nat) (image : Image) (rest : List Item) (sentAt : Binary64)
      (now : Calendar.Moment) (timestamp : String)
      (next : earlier.agenda = .image index image :: rest)
      (new : image.fingerprint ∉ earlier.scene.state.seenImages.fingerprints)
      (gate : later.scene.state.gate = earlier.scene.state.gate.letPass sentAt)
      (cards : later.scene.journal.imageCardsAt position =
        earlier.scene.journal.imageCardsAt position ++
          [earlier.scene.imageCard image now timestamp])
      (times : later.scene.journal.sendTimes position =
        earlier.scene.journal.sendTimes position ++ [sentAt])
  /-- A new image is held back, but not the first one, and only if the reading that was taken for
  it comes too soon. -/
  | held (index : Nat) (image : Image) (rest : List Item) (last reading second : Binary64)
      (next : earlier.agenda = .image index image :: rest)
      (new : image.fingerprint ∉ earlier.scene.state.seenImages.fingerprints)
      (notFirst : earlier.scene.journal.handedImages ≠ [])
      (used : earlier.scene.state.gate.lastSentAt = some last)
      (readings : later.scene.journal.readings =
        earlier.scene.journal.readings ++ [reading, second])
      (near : Near cooldown last reading)
      (gate : later.scene.state.gate = earlier.scene.state.gate.holdBack)
      (cards : later.scene.journal.imageCardsAt position =
        earlier.scene.journal.imageCardsAt position)

theorem Paced.paces {position : Nat} {cooldown : Binary64} {earlier later : Stage W}
    (inside : position < watcher.channels.length)
    (notNegative : Binary64.isAtMost 0 cooldown = true)
    (paced : Paced position cooldown earlier.scene) (taken : Step watcher earlier later)
    (steady : Steady later.scene.journal.readings) : Paces position cooldown earlier later := by
  rcases taken.effect.idle_or_taken position with
    ⟨idle, old⟩ | ⟨index, image, rest, seen, world, next, added, handled⟩
  · exact .kept old idle.gate idle.imageCardsAt
  · have listening : watcher.channels ≠ [] := List.ne_nil_of_length_pos (by omega)
    have new := (Seen.add?_eq_some.mp added).1
    cases (Watcher.handleImage_dealt listening handled).dealing inside with
    | held last reading second used closed gate readings cards times =>
        have handed : earlier.scene.journal.handedImages ≠ [] := by
          intro none
          cases used.symm.trans (paced.unused_iff.mpr none)
        rw [readings] at steady
        have near := Gate.near_of_not_isOpen (paced.cooldown_eq ▸ notNegative) used closed
          (paced.finite_of_used used steady.left) (steady.right.finite reading (by simp))
        rw [paced.cooldown_eq] at near
        exact .held index image rest last reading second next new handed used readings near gate
          cards
    | reported asked opened sentAt now timestamp gate readings cards times =>
        exact .sent index image rest sentAt now timestamp next new gate cards times

/-- A pending image is dealt with, unless somebody interrupts: its card fails at no channel and for
want of no thumbnail. -/
theorem image_dealt_or_interrupted {before : Scene W} {index : Nat} {image : Image}
    {rest : List Item} :
    (∃ next, Step watcher ⟨before, .image index image :: rest⟩ next) ∨
      ∃ message after, Ends (watcher.witnessed.considerImage watcher.handleImageNoted index image)
        before (.error (.interrupted message)) after := by
  let footprint : Footprint W :=
    phased watcher.pollInterval fun fault => ∃ message, fault = .interrupted message
  have together : Lockstep footprint.alone watcher.witnessed watcher.witnessed :=
    phased_lockstep (fun _ _ _ _ _ _ passed => eq_interrupted_of_failure? passed)
      fun _ _ _ passed => eq_interrupted_of_failure? passed
  have dealing : footprint.Keeps [] (watcher.handleImageNoted index image) :=
    footprint.keeps_andThen (fun _ => .of_line (.newImage index image) rfl rfl (by simp)) fun _ =>
      together.handleImage index image
  have keeps : footprint.Keeps []
      (watcher.witnessed.considerImage watcher.handleImageNoted index image) := by
    refine footprint.keeps_get fun state => ?_
    cases state.seenImages.add? image.fingerprint with
    | none => exact footprint.keeps_pure ()
    | some seen =>
        exact footprint.keeps_andThen (phased_modify _) fun _ =>
          footprint.keeps_andThen (together.note _) fun _ => dealing
  have fits := keeps before
  rcases ended : play (watcher.witnessed.considerImage watcher.handleImageNoted index image) before
    with ⟨fault | _, after⟩
  · rw [ended] at fits
    rcases fits.1 with ⟨message, rfl⟩
    exact .inr ⟨message, after, ended⟩
  · exact .inl ⟨_, .image ended⟩

/-- Whatever the cooldown, as long as the clock does not go back: the stamps of any two cards of
images in a row are apart, and the last of them is the one that the gate remembers. The start
leaves the gate as it was, and so does every step but those that take a new image into account.
The first new image is shown on a card; another one is held back only if the reading that was
taken for it lies less than the cooldown after the last stamp. Nothing but an interruption keeps a
pending image from being dealt with. -/
theorem image_cards_are_apart {cooldown : Binary64} {gate : Gate} {world : W} {start : Scene W}
    {stage : Stage W} {position : Nat} (inside : position < watcher.channels.length)
    (notNegative : Binary64.isAtMost 0 cooldown = true) (fresh : Gate.new? cooldown = some gate)
    (started : Yields watcher.witnessed.baseline (.fresh gate world) () start)
    (leads : Leads watcher ⟨start, []⟩ stage) (steady : Steady stage.scene.journal.readings) :
    start.state.gate = gate ∧ gate.lastSentAt = none ∧
      (stage.scene.journal.sendTimes position).IsChain (Apart cooldown) ∧
      (stage.scene.journal.sendTimes position).length =
        (stage.scene.journal.imageCardsAt position).length ∧
      stage.scene.state.gate.lastSentAt =
        (stage.scene.journal.sendTimes position).getLast? ∧
      (stage.scene.state.gate.lastSentAt = none ↔ stage.scene.journal.handedImages = []) ∧
      (∀ next, Step watcher stage next → Steady next.scene.journal.readings →
        Paces position cooldown stage next) ∧
      ∀ index image rest, stage.agenda = .image index image :: rest →
        (∃ next, Step watcher stage next) ∨
          ∃ message after,
            Ends (watcher.witnessed.considerImage watcher.handleImageNoted index image) stage.scene
              (.error (.interrupted message)) after := by
  have unsent : gate.lastSentAt = none ∧ Paced position cooldown (.fresh gate world) :=
    Paced.fresh fresh
  rcases unsent with ⟨unused, paced⟩
  rcases Watcher.baseline_started started with ⟨history, answer, images, known⟩
  rcases known.journal with ⟨entries, journal, lines⟩
  have opening : ∀ entry ∈ [Entry.events (.ok history), .sequence answer, .images (.ok images)],
      entry.isSilentAt position = true := by simp [Entry.isSilentAt]
  have idle : Idle position (.fresh gate world) start := by
    refine ⟨known.gate, _, journal.trans (List.append_assoc ..), ?_⟩
    exact List.forall_mem_append.mpr
      ⟨opening, fun entry member => isSilentAt_of_aside (lines entry member)⟩
  have kept := (paced.idle idle).of_leads inside leads
  refine ⟨known.gate, unused, kept.apart steady, kept.count, kept.stamp, kept.unused_iff,
    fun next taken steady => kept.paces inside notNegative taken steady, ?_⟩
  intro index image rest pending
  rcases stage with ⟨scene, agenda⟩
  cases pending
  exact image_dealt_or_interrupted

namespace Dictation

/-- Images that come just too early and just in time. -/
def punctual : Dictation where
  events := [.ok []]
  images := [.ok [photo "0"], .ok [photo "0", photo "1", photo "2"], .ok [photo "3", photo "4"]]
  sequences := []
  readings := [0, .ofNat 59, .ofNat 59, .ofNat 60, .ofNat 61, .ofNat 62, .ofNat 62]

def afterPunctual : Stage Dictation := ⟨after (punctual.start 2) 2 [.images, .pause, .images], []⟩

end Dictation

theorem image_cards_are_apart_punctual :
    1 < (Dictation.watcher 2).channels.length ∧
      Binary64.isAtMost 0 Dictation.minute = true ∧
      Gate.new? Dictation.minute = some Dictation.gate ∧
      Yields (Dictation.watcher 2).witnessed.baseline (.fresh Dictation.gate Dictation.punctual) ()
        (Dictation.punctual.start 2) ∧
      Leads (Dictation.watcher 2) ⟨Dictation.punctual.start 2, []⟩ Dictation.afterPunctual ∧
      Steady Dictation.afterPunctual.scene.journal.readings ∧
      Dictation.afterPunctual.scene.journal.sendTimes 1 = [0, .ofNat 61] ∧
      (Dictation.afterPunctual.scene.journal.sendTimes 1).IsChain (Apart Dictation.minute) ∧
      Dictation.afterPunctual.scene.state.gate.lastSentAt = some (.ofNat 61) := by
  have inside : 1 < (Dictation.watcher 2).channels.length := by decide
  have notNegative : Binary64.isAtMost 0 Dictation.minute = true := by decide +kernel
  have started : Yields (Dictation.watcher 2).witnessed.baseline
      (.fresh Dictation.gate Dictation.punctual) () (Dictation.punctual.start 2) :=
    Dictation.yields_past (by decide +kernel)
  have leads : Leads (Dictation.watcher 2) ⟨Dictation.punctual.start 2, []⟩
      Dictation.afterPunctual := Dictation.leads (by decide +kernel)
  have readings : Dictation.afterPunctual.scene.journal.readings = Dictation.punctual.readings := by
    decide +kernel
  have steady : Steady Dictation.afterPunctual.scene.journal.readings := by
    rw [readings]
    exact ⟨by decide +kernel, by decide +kernel⟩
  have times : Dictation.afterPunctual.scene.journal.sendTimes 1 = [0, .ofNat 61] := by
    decide +kernel
  rcases image_cards_are_apart inside notNegative Dictation.gate_fresh started leads steady with
    ⟨_, _, apart, _, stamp, _⟩
  rw [times] at stamp
  exact ⟨inside, notNegative, Dictation.gate_fresh, started, leads, steady, times, apart, stamp⟩

end ObservatoryWatch.Monitor
