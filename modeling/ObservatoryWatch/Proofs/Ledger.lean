import Mathlib.Algebra.GroupWithZero.Nat
import Mathlib.Data.List.Forall2
import ObservatoryWatch.Proofs.ImageHandling

/-!
The account of images that a journal gives for one channel.

An image waits from when it is handed over until a card of an image goes to the channel. The
card speaks for all that wait: for the last of them by what it shows, for the others by the
number of images passed over. In an account that is in order nothing else ever happens to an
image, so cards and waiting images together make up all that were handed over.
-/

namespace ObservatoryWatch.Monitor

open Observatory

/-! ## Waiting images -/

namespace Journal

/-- The images that wait after one more line. -/
def wait (position : Nat) (waiting : List Image) : Entry → List Image
  | .newImage _ image => waiting ++ [image]
  | .delivery given card _ => if given = position ∧ card.isOfImage = true then [] else waiting
  | _ => waiting

/-- The images that were handed over since the last card of an image. -/
def waiting (position : Nat) (journal : Journal) : List Image :=
  journal.foldl (wait position) []

/-- The cards of images that the channel at a position was given. -/
def imageCardsAt (journal : Journal) (position : Nat) : List Card :=
  (journal.cardsAt position).filter Card.isOfImage

end Journal

/-- A card that speaks for the images that wait: it shows the last of them and tells how many
others there are. -/
def SpeaksFor (card : Card) (waiting : List Image) : Prop :=
  ∃ held image current flipHours now timestamp, waiting = held ++ [image] ∧
    card = (Card.image image current held.length flipHours now).stampedAt timestamp ∧
      card.skippedImages = held.length

theorem SpeaksFor.length_eq {card : Card} {waiting : List Image}
    (speaks : SpeaksFor card waiting) : waiting.length = 1 + card.skippedImages := by
  rcases speaks with ⟨held, image, _, _, _, _, rfl, _, skipped⟩
  rw [skipped, List.length_append, List.length_singleton, Nat.add_comm]

/-! ## Accounts in order -/

/-- Each card of an image speaks for the images that wait, if so many wait already. -/
def Accounted (position : Nat) (waiting : List Image) : Journal → Prop
  | [] => True
  | entry :: rest =>
    (∀ card image, entry = .delivery position card image → card.isOfImage = true →
      SpeaksFor card waiting) ∧
      Accounted position (Journal.wait position waiting entry) rest

theorem accounted_append {position : Nat} (early late : Journal) {waiting : List Image} :
    Accounted position waiting (early ++ late) ↔
      Accounted position waiting early ∧
        Accounted position (early.foldl (Journal.wait position) waiting) late := by
  induction early generalizing waiting with
  | nil => simp [Accounted]
  | cons entry rest induction =>
      rw [List.cons_append, Accounted, induction, ← and_assoc]
      rfl

/-- In an account that is in order, a card of an image speaks for those that wait before it. -/
theorem speaksFor_of_accounted {position : Nat} {early late : Journal} {card : Card}
    {image : Option Chat.Attachment}
    (accounted : Accounted position [] (early ++ .delivery position card image :: late))
    (shows : card.isOfImage = true) : SpeaksFor card (early.waiting position) :=
  ((accounted_append early _).mp accounted).2.1 card image rfl shows

/-! ## Lines that do not matter -/

/-- Lines that neither hand an image over nor bring the card of one to a position. -/
def Entry.isSilentAt (position : Nat) : Entry → Bool
  | newImage _ _ => false
  | delivery given card _ => !(given == position && card.isOfImage)
  | _ => true

theorem wait_of_silent {position : Nat} {waiting : List Image} {entry : Entry}
    (silent : entry.isSilentAt position = true) :
    Journal.wait position waiting entry = waiting := by
  cases entry with
  | newImage index image => simp [Entry.isSilentAt] at silent
  | delivery given card image =>
      refine if_neg fun settles => ?_
      simp [Entry.isSilentAt, settles] at silent
  | _ => rfl

theorem accounted_of_silent {position : Nat} {waiting : List Image} {entries : Journal}
    (silent : ∀ entry ∈ entries, entry.isSilentAt position = true) :
    entries.foldl (Journal.wait position) waiting = waiting ∧
      Accounted position waiting entries := by
  induction entries with
  | nil => exact ⟨rfl, trivial⟩
  | cons entry rest induction =>
      rw [List.forall_mem_cons] at silent
      rw [List.foldl_cons, Accounted, wait_of_silent silent.1]
      rcases induction silent.2 with ⟨same, accounted⟩
      refine ⟨same, ?_, accounted⟩
      rintro card image rfl shows
      simp [Entry.isSilentAt, shows] at silent

theorem isSilentAt_of_aside {position : Nat} {entry : Entry} (aside : entry.isAside = true) :
    entry.isSilentAt position = true := by
  cases entry <;> simp_all [Entry.isAside, Entry.isSilentAt]

/-! ## Deliveries -/

theorem isSilentAt_deliveries {position first count : Nat} {card : Card}
    {image : Option Chat.Attachment} (elsewhere : position < first ∨ first + count ≤ position) :
    ∀ entry ∈ deliveries card image first count, entry.isSilentAt position = true := by
  intro entry member
  rcases List.mem_map.mp member with ⟨given, inside, rfl⟩
  rw [List.mem_range'_1] at inside
  have different : given ≠ position := by omega
  simp [Entry.isSilentAt, different]

theorem deliveries_split {position count : Nat} {card : Card} {image : Option Chat.Attachment}
    (inside : position < count) :
    deliveries card image 0 count = deliveries card image 0 position ++
      .delivery position card image ::
        deliveries card image (position + 1) (count - position - 1) := by
  have range : List.range' 0 count =
      List.range' 0 position ++ position :: List.range' (position + 1) (count - position - 1) := by
    have whole : position + (count - position - 1 + 1) = count := by omega
    rw [← List.range'_succ]
    conv_lhs => rw [← whole, ← List.range'_append_1, Nat.zero_add]
  unfold deliveries
  rw [range, List.map_append, List.map_cons]

/-- A card of an image that goes to all channels settles the account of each. -/
theorem accounted_deliveries {position count : Nat} {card : Card}
    {image : Option Chat.Attachment} {waiting : List Image} (inside : position < count)
    (shows : card.isOfImage = true) (speaks : SpeaksFor card waiting) :
    (deliveries card image 0 count).foldl (Journal.wait position) waiting = [] ∧
      Accounted position waiting (deliveries card image 0 count) := by
  -- All channels get the card, but the account is that of one of them.
  have early : ∀ entry ∈ deliveries card image 0 position, entry.isSilentAt position = true :=
    isSilentAt_deliveries (.inr (Nat.le_of_eq (Nat.zero_add position)))
  have late : ∀ entry ∈ deliveries card image (position + 1) (count - position - 1),
      entry.isSilentAt position = true :=
    isSilentAt_deliveries (.inl (Nat.lt_succ_self position))
  have settled : Journal.wait position waiting (.delivery position card image) = [] :=
    if_pos ⟨rfl, shows⟩
  rcases accounted_of_silent early with ⟨beforeSame, before⟩
  rcases accounted_of_silent late with ⟨afterSame, after⟩
  rw [deliveries_split inside, accounted_append, List.foldl_append, beforeSame, List.foldl_cons,
    Accounted, settled, afterSame]
  refine ⟨rfl, before, ?_, after⟩
  rintro _ _ ⟨⟩ _
  exact speaks

/-! ## Settling -/

/-- An account that is in order and in which so many images wait. -/
structure Account (position : Nat) (journal : Journal) (count : Nat) : Prop where
  accounted : Accounted position [] journal
  waiting : (journal.waiting position).length = count

namespace Account

variable {position count : Nat} {journal : Journal}

theorem empty : Account position [] 0 := ⟨trivial, rfl⟩

theorem append_silent {entries : Journal} (account : Account position journal count)
    (silent : ∀ entry ∈ entries, entry.isSilentAt position = true) :
    Account position (journal ++ entries) count := by
  constructor
  · exact (accounted_append journal entries).mpr
      ⟨account.accounted, (accounted_of_silent silent).2⟩
  · rw [Journal.waiting, List.foldl_append, (accounted_of_silent silent).1]
    exact account.waiting

theorem append_newImage (account : Account position journal count) (index : Nat) (image : Image) :
    Account position (journal ++ [.newImage index image]) (count + 1) := by
  constructor
  · exact (accounted_append journal _).mpr ⟨account.accounted, nofun, trivial⟩
  · rw [Journal.waiting, List.foldl_append]
    change (journal.waiting position ++ [image]).length = count + 1
    rw [List.length_append, account.waiting, List.length_singleton]

/-- A card of the image that has just been handed over settles the account. -/
theorem append_report {channels : Nat} (account : Account position journal count) (index : Nat)
    (image : Image) {entries : Journal} (current : Option Target) (flipHours : Option Binary64)
    (now : Calendar.Moment) (timestamp : String) (attachment : Option Chat.Attachment)
    (silent : ∀ entry ∈ entries, entry.isSilentAt position = true)
    (inside : position < channels) :
    Account position
      (journal ++ [.newImage index image] ++ entries ++
        deliveries ((Card.image image current count flipHours now).stampedAt timestamp)
          attachment 0 channels) 0 := by
  have told := (account.append_newImage index image).append_silent silent
  have waits : (journal ++ [Entry.newImage index image] ++ entries).waiting position =
      journal.waiting position ++ [image] := by
    rw [Journal.waiting, List.foldl_append, (accounted_of_silent silent).1, List.foldl_append]
    rfl
  have shows : ((Card.image image current count flipHours now).stampedAt timestamp).isOfImage =
      true := Card.isOfImage_image ..
  have speaks : SpeaksFor ((Card.image image current count flipHours now).stampedAt timestamp)
      ((journal ++ [Entry.newImage index image] ++ entries).waiting position) := by
    rw [waits, ← account.waiting]
    exact ⟨journal.waiting position, image, current, flipHours, now, timestamp, rfl, rfl,
      Card.skippedImages_image ..⟩
  rcases accounted_deliveries inside shows speaks with ⟨settled, accounted⟩
  constructor
  · exact (accounted_append _ _).mpr ⟨told.accounted, accounted⟩
  · rw [Journal.waiting, List.foldl_append]
    exact congrArg List.length settled

end Account

/-! ## Conservation -/

/-- The images that were handed over fall into one batch for each card of an image, in the same
order, and those that still wait. Each card speaks for its batch. -/
theorem batches_of_accounted {position : Nat} {waiting : List Image} (journal : Journal)
    (accounted : Accounted position waiting journal) :
    ∃ batches, List.Forall₂ SpeaksFor (journal.imageCardsAt position) batches ∧
      waiting ++ journal.handedImages =
        batches.flatten ++ journal.foldl (Journal.wait position) waiting := by
  -- The images that wait are carried along, for the card that speaks for them comes later.
  induction journal generalizing waiting with
  | nil => exact ⟨[], .nil, List.append_nil waiting⟩
  | cons entry rest induction =>
      rcases accounted with ⟨speaks, remaining⟩
      rcases induction remaining with ⟨batches, later, same⟩
      rw [List.foldl_cons]
      cases entry with
      | newImage index image =>
          have waits : Journal.wait position waiting (.newImage index image) =
              waiting ++ [image] := rfl
          have handed : Journal.handedImages (.newImage index image :: rest) =
              image :: Journal.handedImages rest := rfl
          refine ⟨batches, later, ?_⟩
          rw [handed, ← same, waits, List.append_assoc, List.singleton_append]
      | delivery given card image =>
          have handed : Journal.handedImages (.delivery given card image :: rest) =
              Journal.handedImages rest := rfl
          by_cases settles : given = position ∧ card.isOfImage = true
          · have cards : Journal.imageCardsAt (.delivery given card image :: rest) position =
                card :: Journal.imageCardsAt rest position := by
              simp [Journal.imageCardsAt, Journal.cardsAt, settles]
            have none : Journal.wait position waiting (.delivery given card image) = [] :=
              if_pos settles
            have all := speaks card image (by rw [settles.1]) settles.2
            rw [none, List.nil_append] at same
            refine ⟨waiting :: batches, cards ▸ .cons all later, ?_⟩
            rw [handed, same, none, List.flatten_cons, List.append_assoc]
          · have cards : Journal.imageCardsAt (.delivery given card image :: rest) position =
                Journal.imageCardsAt rest position := by
              by_cases here : given = position
              · have other : card.isOfImage = false := by simpa [here] using settles
                simp [Journal.imageCardsAt, Journal.cardsAt, here, other]
              · simp [Journal.imageCardsAt, Journal.cardsAt, here]
            have stays : Journal.wait position waiting (.delivery given card image) = waiting :=
              if_neg settles
            rw [stays] at same
            rw [stays, handed]
            exact ⟨batches, cards ▸ later, same⟩
      | _ => exact ⟨batches, later, same⟩

/-- Cards and the numbers on them count the images that they speak for. -/
theorem length_flatten_of_speaksFor {cards : List Card} {batches : List (List Image)}
    (speaks : List.Forall₂ SpeaksFor cards batches) :
    batches.flatten.length = cards.length + (cards.map Card.skippedImages).sum := by
  induction speaks with
  | nil => rfl
  | cons first _ induction =>
      rw [List.flatten_cons, List.length_append, first.length_eq, induction, List.length_cons,
        List.map_cons, List.sum_cons]
      omega

end ObservatoryWatch.Monitor
