import ObservatoryWatch.Proofs.Dictation
import ObservatoryWatch.Proofs.QuietRounds
import ObservatoryWatch.Proofs.FanOut

/-!
Every card of an image carries the image's own thumbnail.

A look at the images is told as a whole, also if it is interrupted. Of each image of the history a
stretch of the journal tells: nothing if the image is known, a line about it if it is new, and then
either readings of the clock alone or, after them, the question about its thumbnail and the card for
each channel. So a thumbnail is asked for once for each card, and the positions go up.
-/

namespace ObservatoryWatch.Monitor

open Observatory

variable {W α β : Type}

/-! ## Watches that may fail -/

/-- An attempt fails only if it is interrupted. -/
theorem interrupted_of_held {outcome : Except Fault α} {fault : Fault}
    (held : Action.held Fault.failure? outcome = .error fault) :
    ∃ message, outcome = .error (.interrupted message) ∧ fault = .interrupted message := by
  cases outcome with
  | ok value => cases held
  | error raised =>
      cases raised <;> cases held
      exact ⟨_, rfl, rfl⟩

/-- A line for the log comes before whatever follows, and cannot fail. -/
theorem ends_perform_log {world : World (StateM W)} {record : Log.Record}
    {next : Action (Witnessed (StateM W)) α} {before after : Scene W} {outcome : Except Fault α}
    (ended : Ends (Watch.perform
      ((liftM ((witnessedWorld world).log record) : Action (Witnessed (StateM W)) Unit) >>=
        fun _ => next)) before outcome after) :
    ∃ told, Ends (Watch.perform next) (before.inWorld told) outcome after :=
  ⟨_, ended⟩

/-- If giving all channels a card fails, some of them have been given it. -/
theorem deliverAll_interrupted {world : World (StateM W)} {card : Card}
    {image : Option Chat.Attachment} (channels : List (Chat.Channel (StateM W))) {position : Nat}
    {before after : Scene W} {fault : Fault}
    (ended : Ends (Watch.perform (Chat.deliverAll (witnessedWorld world) card image
      (witnessedChannels position channels))) before (.error fault) after) :
    ∃ message count, fault = .interrupted message ∧ count ≤ channels.length ∧
      after.journal = before.journal ++ deliveries card image position count := by
  induction channels generalizing position before with
  | nil => cases ended
  | cons channel rest induction =>
      have counted (count : Nat) : deliveries card image position (count + 1) =
          .delivery position card image :: deliveries card image (position + 1) count := by
        simp [deliveries, List.range'_succ]
      rw [witnessedChannels_cons, Chat.deliverAll, perform_bind] at ended
      rcases ends_bind ended with ⟨_, ⟨⟩, failed⟩ | ⟨answer, given, attempted, later⟩
      · rcases ends_perform_attemptFor failed with ⟨outcome, delivered, held⟩
        rcases interrupted_of_held held with ⟨message, rfl, rfl⟩
        exact ⟨message, 1, rfl, Nat.le_add_left 1 _, (deliver_ends delivered).2⟩
      · rcases yields_perform_attemptFor.mp attempted with ⟨outcome, delivered, _⟩
        have journal := (deliver_ends delivered).2
        have remaining : ∃ message count, fault = .interrupted message ∧ count ≤ rest.length ∧
            after.journal = given.journal ++ deliveries card image (position + 1) count := by
          cases answer with
          | ok _ => exact induction later
          | error raised =>
              rcases ends_perform_log later with ⟨told, later⟩
              rw [perform_bind] at later
              rcases ends_bind later with ⟨_, ⟨⟩, failed⟩ | ⟨_, _, _, named⟩
              · have remaining := induction failed
                exact remaining
              · cases named
        rcases remaining with ⟨message, count, rfl, within, continued⟩
        refine ⟨message, count + 1, rfl, Nat.succ_le_succ within, ?_⟩
        rw [continued, journal, counted, List.append_assoc]
        rfl

/-! ## A new image -/

/-- A thumbnail is asked for, and the card that it belongs to is given to so many channels. -/
def picture (index : Nat) (octets : Except Fault Bytes) (card : Card) (count : Nat) : Journal :=
  .thumbnail index octets :: deliveries card (attached index octets) 0 count

/-- A card about an image, with the target and the hours to the flip that are remembered. -/
def IsCardOf (state : State) (image : Image) (card : Card) : Prop :=
  ∃ skipped now timestamp,
    card = (Card.image image state.target skipped state.flipHours now).stampedAt timestamp

theorem isCardOf_imageCard (scene : Scene W) (image : Image) (now : Calendar.Moment)
    (timestamp : String) : IsCardOf scene.state image (scene.imageCard image now timestamp) :=
  ⟨_, now, timestamp, rfl⟩

/-- What is noted about a new image, and what is remembered after it or how it ends. -/
inductive Treated (channels index : Nat) (image : Image) (state : State) :
    Journal → Except Fault State → Prop where
  | held {readings : List Binary64} (closed : state.gate.Asked readings false)
      (reading : Binary64) :
      Treated channels index image state (readings.map .clock ++ [.clock reading])
        (.ok { state with gate := state.gate.holdBack })
  | shown {readings : List Binary64} (opened : state.gate.Asked readings true)
      (sentAt : Binary64) (octets : Except Fault Bytes) {card : Card}
      (about : IsCardOf state image card) :
      Treated channels index image state
        (readings.map .clock ++ .clock sentAt :: picture index octets card channels)
        (.ok
          { state with
            gate := state.gate.letPass sentAt
            notificationsSent := state.notificationsSent + 1 })
  | interrupted {readings : List Binary64} (opened : state.gate.Asked readings true)
      (sentAt : Binary64) (octets : Except Fault Bytes) {card : Card}
      (about : IsCardOf state image card) (message : String) {count : Nat}
      (within : count ≤ channels) :
      Treated channels index image state
        (readings.map .clock ++ .clock sentAt :: picture index octets card count)
        (.error (.interrupted message))

namespace Watcher

variable {watcher : Watcher (StateM W)} {before after : Scene W} {fault : Fault}

theorem deal_interrupted {card : Card} {attachment : Option Chat.Attachment}
    (ended : Ends (watcher.witnessed.deal card attachment) before (.error fault) after) :
    ∃ message count, fault = .interrupted message ∧ count ≤ watcher.channels.length ∧
      after.journal = before.journal ++ deliveries card attachment 0 count := by
  unfold deal at ended
  rw [discard_bind] at ended
  rcases ends_bind ended with ⟨_, ⟨⟩, failed⟩ | ⟨_, _, _, counted⟩
  · exact deliverAll_interrupted watcher.channels failed
  · cases counted

theorem dealWithImage_interrupted {card : Card} {index : Nat}
    (ended : Ends (watcher.witnessed.dealWithImage card index) before (.error fault) after) :
    ∃ message octets count, fault = .interrupted message ∧ count ≤ watcher.channels.length ∧
      after.journal = before.journal ++ picture index octets card count := by
  unfold dealWithImage at ended
  rcases ends_bind ended with ⟨_, ⟨⟩, failed⟩ | ⟨answer, asked, attempted, later⟩
  · rcases ends_perform_attemptFor failed with ⟨outcome, fetched, held⟩
    rcases interrupted_of_held held with ⟨message, rfl, rfl⟩
    rcases ends_perform_noted.mp fetched with ⟨world, _, rfl⟩
    exact ⟨message, .error (.interrupted message), 0, rfl, Nat.zero_le _, rfl⟩
  · rcases yields_perform_attemptFor.mp attempted with ⟨octets, fetched, held⟩
    rcases ends_perform_noted.mp fetched with ⟨world, _, rfl⟩
    have dealt : ∃ told, Ends (watcher.witnessed.deal card (attached index octets))
        (((before.jotted (.thumbnail index octets)).inWorld world).inWorld told)
        (.error fault) after := by
      cases octets with
      | ok content =>
          cases held
          exact ⟨world, later⟩
      | error missed =>
          cases answer with
          | ok content => cases missed <;> cases held
          | error _ => exact ⟨_, later⟩
    rcases dealt with ⟨told, dealt⟩
    rcases deal_interrupted dealt with ⟨message, count, rfl, within, journal⟩
    refine ⟨message, octets, count, rfl, within, ?_⟩
    rw [journal]
    exact List.append_assoc _ _ _

/-- Nothing before the question about the thumbnail can fail. -/
theorem reportImage_interrupted (listening : watcher.channels ≠ []) {index : Nat} {image : Image}
    (ended : Ends (watcher.witnessed.reportImage index image) before (.error fault) after) :
    ∃ sentAt message octets card count, fault = .interrupted message ∧
      IsCardOf before.state image card ∧ count ≤ watcher.channels.length ∧
        after.journal = before.journal ++ .clock sentAt :: picture index octets card count := by
  have hears : watcher.witnessed.hasChannels = true := by
    rw [hasChannels_witnessed, hasChannels_iff]
    exact listening
  have prepared : ∃ sentAt now timestamp world,
      play (watcher.witnessed.reportImage index image) before =
        play (watcher.witnessed.dealWithImage (before.imageCard image now timestamp) index)
          (((before.jotted (.clock sentAt)).updated fun state =>
            { state with gate := state.gate.letPass sentAt }).inWorld world) := by
    unfold reportImage
    simp only [watcher.witnessed.deliverWithImage_eq hears]
    exact ⟨_, _, _, _, rfl⟩
  rcases prepared with ⟨sentAt, now, timestamp, world, prepared⟩
  rcases dealWithImage_interrupted (prepared.symm.trans ended) with
    ⟨message, octets, count, rfl, within, journal⟩
  refine ⟨sentAt, message, octets, _, count, rfl, isCardOf_imageCard before image now timestamp,
    within, ?_⟩
  rw [journal]
  exact List.append_assoc _ _ _

theorem gateIsOpen_safe : ¬ Ends watcher.witnessed.gateIsOpen before (.error fault) after := by
  unfold Ends gateIsOpen
  rw [play_get_bind]
  dsimp only
  split <;> nofun

theorem handleImage_treated (listening : watcher.channels ≠ []) {index : Nat} {image : Image}
    {outcome : Except Fault Unit}
    (ended : Ends (watcher.witnessed.handleImage index image) before outcome after) :
    ∃ lines, after.journal = before.journal ++ lines ∧
      Treated watcher.channels.length index image before.state lines
        (outcome.map fun _ => after.state) := by
  cases outcome with
  | ok value =>
      rw [Except.map]
      cases handleImage_dealt listening ended with
      | held readings closed reading state journal =>
          rw [state, journal, List.append_assoc]
          exact ⟨_, rfl, .held closed reading⟩
      | reported readings opened sentAt now timestamp octets state journal =>
          rw [state, journal, List.append_assoc]
          have about := isCardOf_imageCard before image now timestamp
          exact ⟨_, rfl, .shown opened sentAt octets about⟩
  | error fault =>
      have hears : watcher.witnessed.hasChannels = true := by
        rw [hasChannels_witnessed, hasChannels_iff]
        exact listening
      unfold handleImage at ended
      rw [hears, if_pos rfl] at ended
      rcases ends_bind ended with ⟨_, _, failed⟩ | ⟨opened, middle, asked, later⟩
      · exact absurd failed gateIsOpen_safe
      · rcases gateIsOpen_yields asked with ⟨readings, answered, state, journal⟩
        cases opened with
        | false => nomatch later
        | true =>
            rcases reportImage_interrupted listening later with
              ⟨sentAt, message, octets, card, count, rfl, about, within, continued⟩
            rw [state] at about
            refine ⟨_, ?_, .interrupted answered sentAt octets about message within⟩
            rw [continued, journal, List.append_assoc]

theorem considerImage_taken {index : Nat} {image : Image} {seen : Seen}
    {outcome : Except Fault Unit}
    (added : before.state.seenImages.add? image.fingerprint = some seen)
    (ended : Ends (watcher.witnessed.considerImage watcher.handleImageNoted index image)
      before outcome after) :
    ∃ world, Ends (watcher.witnessed.handleImage index image)
      ((before.withImage index image seen).inWorld world) outcome after := by
  unfold Ends considerImage at ended
  rw [play_get_bind] at ended
  simp only [added] at ended
  exact ⟨_, ended⟩

end Watcher

/-! ## The history -/

/-- What is noted while the rest of a history is looked through, and what is remembered at its end
or how it ends. -/
inductive LookedThrough (channels : Nat) :
    State → List (Image × Nat) → Journal → Except Fault State → Prop where
  | done (state : State) : LookedThrough channels state [] [] (.ok state)
  | passed {state : State} {image : Image} {index : Nat} {rest : List (Image × Nat)}
      {lines : Journal} {outcome : Except Fault State}
      (old : image.fingerprint ∈ state.seenImages.fingerprints)
      (later : LookedThrough channels state rest lines outcome) :
      LookedThrough channels state ((image, index) :: rest) lines outcome
  | taken {state next : State} {image : Image} {index : Nat} {rest : List (Image × Nat)}
      {seen : Seen} {early late : Journal} {outcome : Except Fault State}
      (added : state.seenImages.add? image.fingerprint = some seen)
      (treated : Treated channels index image { state with seenImages := seen } early (.ok next))
      (later : LookedThrough channels next rest late outcome) :
      LookedThrough channels state ((image, index) :: rest) (.newImage index image :: early ++ late)
        outcome
  | brokenOff {state : State} {image : Image} {index : Nat} {rest : List (Image × Nat)}
      {seen : Seen} {early : Journal} {fault : Fault}
      (added : state.seenImages.add? image.fingerprint = some seen)
      (treated : Treated channels index image { state with seenImages := seen } early
        (.error fault)) :
      LookedThrough channels state ((image, index) :: rest) (.newImage index image :: early)
        (.error fault)

theorem Watcher.forM_considerImage_lookedThrough {watcher : Watcher (StateM W)}
    (listening : watcher.channels ≠ []) (images : List (Image × Nat)) {before after : Scene W}
    {outcome : Except Fault Unit}
    (ended : Ends (images.forM fun (image, index) =>
      watcher.witnessed.considerImage watcher.handleImageNoted index image) before outcome after) :
    ∃ lines, after.journal = before.journal ++ lines ∧
      LookedThrough watcher.channels.length before.state images lines
        (outcome.map fun _ => after.state) := by
  induction images generalizing before with
  | nil =>
      cases ended
      exact ⟨[], (List.append_nil _).symm, .done _⟩
  | cons entry rest induction =>
      rcases entry with ⟨image, index⟩
      cases added : before.state.seenImages.add? image.fingerprint with
      | none =>
          have old := Seen.add?_eq_none.mp added
          have quiet : Yields
              (watcher.witnessed.considerImage watcher.handleImageNoted index image)
              before () before := considerImage_quiet old
          rcases ends_bind ended with ⟨_, _, failed⟩ | ⟨_, _, first, later⟩
          · cases failed.symm.trans quiet
          · cases first.symm.trans quiet
            rcases induction later with ⟨lines, journal, looked⟩
            exact ⟨lines, journal, .passed old looked⟩
      | some seen =>
          rcases ends_bind ended with ⟨_, rfl, failed⟩ | ⟨_, middle, first, later⟩
          · rcases considerImage_taken added failed with ⟨world, handled⟩
            rcases handleImage_treated listening handled with ⟨lines, journal, treated⟩
            refine ⟨_, ?_, .brokenOff added treated⟩
            rw [journal]
            exact List.append_assoc _ _ _
          · rcases considerImage_taken added first with ⟨world, handled⟩
            rcases handleImage_treated listening handled with ⟨early, journal, treated⟩
            rcases induction later with ⟨late, continued, looked⟩
            refine ⟨_, ?_, .taken added treated looked⟩
            rw [continued, journal]
            simp [Scene.withImage]

/-! ## Thumbnails and cards -/

/-- Lines about thumbnails and cards. -/
def Entry.isPicture : Entry → Bool
  | thumbnail _ _ | delivery _ _ _ => true
  | _ => false

def Entry.asksFor? : Entry → Option Int
  | thumbnail index _ => some index
  | _ => none

/-- The positions of the thumbnails that were asked for. -/
def Journal.askedFor (lines : Journal) : List Int := lines.filterMap Entry.asksFor?

namespace Journal

theorem askedFor_append (early late : Journal) :
    askedFor (early ++ late) = askedFor early ++ askedFor late :=
  List.filterMap_append

theorem askedFor_clock (readings : List Binary64) : askedFor (readings.map .clock) = [] :=
  List.filterMap_eq_nil_iff.mpr (by simp [Entry.asksFor?])

theorem askedFor_picture (index : Nat) (octets : Except Fault Bytes) (card : Card) (count : Nat) :
    askedFor (picture index octets card count) = [(index : Int)] := by
  have silent : askedFor (deliveries card (attached index octets) 0 count) = [] :=
    List.filterMap_eq_nil_iff.mpr (by simp [deliveries, Entry.asksFor?])
  exact congrArg ((index : Int) :: ·) silent

end Journal

theorem mem_picture_thumbnail {index : Nat} {octets content : Except Fault Bytes} {card : Card}
    {count : Nat} {asked : Int} :
    Entry.thumbnail asked content ∈ picture index octets card count ↔
      asked = index ∧ content = octets := by
  simp [picture, deliveries]

theorem mem_picture_delivery {index position : Nat} {octets : Except Fault Bytes}
    {card given : Card} {attachment : Option Chat.Attachment} {count : Nat} :
    Entry.delivery position given attachment ∈ picture index octets card count ↔
      position < count ∧ given = card ∧ attachment = attached index octets := by
  simp [picture, deliveries, eq_comm]

namespace Treated

variable {channels index : Nat} {image : Image} {state next : State} {lines : Journal}
  {outcome : Except Fault State}

/-- Either only the clock is read, or there are also a thumbnail and a card. -/
theorem cases_picture (treated : Treated channels index image state lines outcome) :
    ∃ readings : List Binary64, lines = readings.map .clock ∨
      ∃ octets card count, lines = readings.map .clock ++ picture index octets card count ∧
        IsCardOf state image card ∧ count ≤ channels ∧
        (outcome.isOk = true → count = channels) := by
  cases treated with
  | @held readings _ reading => exact ⟨readings ++ [reading], .inl (by simp)⟩
  | @shown readings _ sentAt octets card about =>
      exact ⟨readings ++ [sentAt], .inr
        ⟨octets, card, channels, by simp, about, le_rfl, fun _ => rfl⟩⟩
  | @interrupted readings _ sentAt octets card about message count within =>
      exact ⟨readings ++ [sentAt], .inr ⟨octets, card, count, by simp, about, within, nofun⟩⟩

theorem askedFor_sublist (treated : Treated channels index image state lines outcome) :
    lines.askedFor.Sublist [(index : Int)] := by
  rcases treated.cases_picture with ⟨readings, rfl | ⟨octets, card, count, rfl, _⟩⟩
  · rw [Journal.askedFor_clock]
    exact List.nil_sublist _
  · rw [Journal.askedFor_append, Journal.askedFor_clock, Journal.askedFor_picture]
    exact List.Sublist.refl _

theorem learned (treated : Treated channels index image state lines (.ok next)) :
    next.seenImages = state.seenImages ∧ next.target = state.target ∧
      next.flipHours = state.flipHours := by
  cases treated <;> exact ⟨rfl, rfl, rfl⟩

end Treated

theorem LookedThrough.askedFor_sublist {channels : Nat} {state : State}
    {images : List (Image × Nat)} {lines : Journal} {outcome : Except Fault State}
    (looked : LookedThrough channels state images lines outcome) :
    lines.askedFor.Sublist (images.map fun entry => (entry.2 : Int)) := by
  induction looked with
  | done => exact .slnil
  | passed _ _ induction => exact induction.cons _
  | taken _ treated _ induction =>
      rw [List.cons_append]
      change (Journal.askedFor (_ ++ _)).Sublist _
      rw [Journal.askedFor_append]
      exact treated.askedFor_sublist.append induction
  | brokenOff _ treated => exact treated.askedFor_sublist.trans (.cons_cons _ (List.nil_sublist _))

theorem pairwise_positions (history : List Image) :
    (history.zipIdx.map fun entry => (entry.2 : Int)).Pairwise (· < ·) := by
  have positions : history.zipIdx.map Prod.snd = List.range' 0 history.length :=
    List.zipIdx_map_snd 0 history
  rw [← Function.comp_def, ← List.map_map, positions, List.pairwise_map]
  exact List.Pairwise.imp Int.ofNat_lt.mpr List.pairwise_lt_range'

/-- The image at this position of a history is new: nothing like it is known or comes before. -/
structure NewAt (known : List Fingerprint) (history : List Image) (index : Nat) (image : Image) :
    Prop where
  at_index : history[index]? = some image
  unknown : image.fingerprint ∉ known
  first : image.fingerprint ∉ (history.take index).map Image.fingerprint

/-- A new image of the history is shown to so many channels on a card with its own thumbnail. -/
structure Pictured (state : State) (history : List Image) (lines : Journal) (index : Nat)
    (octets : Except Fault Bytes) (image : Image) (card : Card) (count : Nat) : Prop where
  newAt : NewAt state.seenImages.fingerprints history index image
  about : IsCardOf state image card
  together : picture index octets card count <:+: lines

theorem NewAt.of_tally {known : List Fingerprint} {considered handed rest : List Image}
    {image : Image} {seen larger : Seen}
    (tally : Tally Image.fingerprint known considered handed seen)
    (added : seen.add? image.fingerprint = some larger) :
    NewAt known (considered ++ image :: rest) considered.length image := by
  have new := (Seen.add?_eq_some.mp added).1
  rw [tally.mem_seen, not_or] at new
  refine ⟨by simp, new.1, ?_⟩
  rw [List.take_left]
  exact new.2

theorem Pictured.within {state : State} {history : List Image} {lines longer : Journal}
    {index count : Nat} {octets : Except Fault Bytes} {image : Image} {card : Card}
    (pictured : Pictured state history lines index octets image card count)
    (inside : lines <:+: longer) :
    Pictured state history longer index octets image card count :=
  ⟨pictured.newAt, pictured.about, pictured.together.trans inside⟩

/-- The lines about one new image, among those about the whole history. -/
theorem Treated.pictured {channels : Nat} {start state : State} {image : Image}
    {considered rest : List Image} {lines longer : Journal} {outcome : Except Fault State}
    (treated : Treated channels considered.length image state lines outcome)
    (newAt : NewAt start.seenImages.fingerprints (considered ++ image :: rest) considered.length
      image)
    (target : state.target = start.target) (flipHours : state.flipHours = start.flipHours)
    (inside : lines <:+: longer) {entry : Entry} (member : entry ∈ lines)
    (pictures : entry.isPicture = true) :
    ∃ index octets image' card count,
      Pictured start (considered ++ image :: rest) longer index octets image' card count ∧
        entry ∈ picture index octets card count ∧ count ≤ channels ∧
          (outcome.isOk = true → count = channels) := by
  have timeless (readings : List Binary64) : entry ∉ readings.map .clock := by
    intro read
    rcases List.mem_map.mp read with ⟨_, _, rfl⟩
    cases pictures
  rcases treated.cases_picture with
    ⟨readings, rfl | ⟨octets, card, count, rfl, about, within, whole⟩⟩
  · exact absurd member (timeless readings)
  · have shown := (List.mem_append.mp member).resolve_left (timeless readings)
    unfold IsCardOf at about
    rw [target, flipHours] at about
    exact ⟨_, octets, image, card, count,
      ⟨newAt, about, (List.suffix_append _ _).isInfix.trans inside⟩, shown, within, whole⟩

/-- The induction is on what is left of the history; the tally tells what came before it. -/
theorem LookedThrough.pictured {channels : Nat} {start : State} (rest : List Image)
    {considered handed : List Image} {state : State} {lines : Journal}
    {outcome : Except Fault State}
    (looked : LookedThrough channels state (rest.zipIdx considered.length) lines outcome)
    (tally : Tally Image.fingerprint start.seenImages.fingerprints considered handed
      state.seenImages)
    (target : state.target = start.target) (flipHours : state.flipHours = start.flipHours)
    {entry : Entry} (member : entry ∈ lines) (pictures : entry.isPicture = true) :
    ∃ index octets image card count,
      Pictured start (considered ++ rest) lines index octets image card count ∧
        entry ∈ picture index octets card count ∧ count ≤ channels ∧
          (outcome.isOk = true → count = channels) := by
  induction rest generalizing considered handed state lines with
  | nil =>
      cases looked
      cases member
  | cons image rest induction =>
      rw [List.zipIdx_cons] at looked
      have further : considered.length + 1 = (considered ++ [image]).length := by simp
      rw [further] at looked
      cases looked with
      | passed old later =>
          rw [List.append_cons]
          exact induction later (tally.pass old) target flipHours member
      | @taken _ next _ _ _ seen early late _ added treated later =>
          rcases treated.learned with ⟨same, sameTarget, sameFlip⟩
          rw [List.cons_append, List.mem_cons, List.mem_append] at member
          rcases member with rfl | member | member
          · cases pictures
          · rcases treated.pictured (.of_tally tally added) target flipHours
              (List.infix_append [_] early late) member pictures with
              ⟨index, octets, shown, card, count, pictured, inside, within, whole⟩
            exact ⟨index, octets, shown, card, count, pictured, inside, within,
              fun _ => whole rfl⟩
          · have taken : Tally Image.fingerprint start.seenImages.fingerprints
                (considered ++ [image]) (handed ++ [image]) next.seenImages := by
              rw [same]
              exact tally.take added
            rcases induction later taken (sameTarget.trans target) (sameFlip.trans flipHours)
              member with ⟨index, octets, shown, card, count, pictured, inside, counted⟩
            rw [← List.append_cons] at pictured
            exact ⟨index, octets, shown, card, count,
              pictured.within (List.suffix_append (_ :: early) late).isInfix, inside, counted⟩
      | brokenOff added treated =>
          rw [List.mem_cons] at member
          rcases member with rfl | member
          · cases pictures
          · exact treated.pictured (.of_tally tally added) target flipHours
              (List.suffix_cons _ _).isInfix member pictures

/-! ## A look at the images -/

/-- A history cannot be had, or the look at the images goes on with what it is. -/
theorem ends_historyOrNone {history : Action (StateM W) (List Image)} {subject : String}
    {watcher : Watcher (StateM W)} {next : List Image → Watched W Unit} {before after : Scene W}
    {outcome : Except Fault Unit}
    (ended : Ends (watcher.witnessed.historyOrNone (noted .images history) subject >>= next)
      before outcome after) :
    ∃ answer, (answer.toOption = none ∧ after.journal = before.journal ++ [.images answer]) ∨
      ∃ world, Ends (next (answer.toOption.getD []))
        ((before.jotted (.images answer)).inWorld world) outcome after := by
  rcases ends_bind ended with ⟨fault, rfl, failed⟩ | ⟨images, middle, had, later⟩
  · unfold Watcher.historyOrNone at failed
    rcases ends_bind failed with ⟨_, ⟨⟩, missed⟩ | ⟨answer, asked, _, later⟩
    · rcases ends_perform_attemptFor missed with ⟨outcome, asked, held⟩
      rcases ends_perform_noted.mp asked with ⟨world, _, rfl⟩
      cases outcome with
      | ok history => cases held
      | error raised => exact ⟨.error raised, .inl ⟨rfl, rfl⟩⟩
    · cases answer <;> nomatch later
  · rcases Watcher.historyOrNone_yields had with ⟨answer, world, rfl, rfl⟩
    refine ⟨answer.mapError .imaging, .inr ⟨world, ?_⟩⟩
    rw [toOption_mapError]
    exact later

/-- However a look at the images ends: it asks for thumbnails in the order of the history, each at
most once, and only for those of new images that the gate lets pass. The question is followed by
the card of the same image, which is given to every channel, unless this is interrupted, with the
thumbnail under a name that has its position in it, or alone, if it could not be had. No image is
shown otherwise. -/
theorem image_cards_carry_own_thumbnails {watcher : Watcher (StateM W)}
    (listening : watcher.channels ≠ []) {before after : Scene W} {outcome : Except Fault Unit}
    (ended : Ends (watcher.phase .images) before outcome after) :
    ∃ answer lines, after.journal = before.journal ++ .images answer :: lines ∧
      (answer.toOption = none ∧ lines = [] ∨
        LookedThrough watcher.channels.length before.state (answer.toOption.getD []).zipIdx lines
          (outcome.map fun _ => after.state)) ∧
      (Journal.askedFor lines).Pairwise (· < ·) ∧
      (∀ (asked : Int) octets, .thumbnail asked octets ∈ lines →
        ∃ (index : Nat) (image : Image) (card : Card) (count : Nat), asked = index ∧
          Pictured before.state (answer.toOption.getD []) lines index octets image card count ∧
          count ≤ watcher.channels.length ∧
          (outcome = .ok () → count = watcher.channels.length)) ∧
      ∀ position card attachment, .delivery position card attachment ∈ lines →
        ∃ (index : Nat) (octets : Except Fault Bytes) (image : Image) (count : Nat),
          Pictured before.state (answer.toOption.getD []) lines index octets image card count ∧
          position < count ∧ attachment = octets.toOption.map fun content =>
            ⟨content, "thumbnail_" ++ toString index ++ ".jpg"⟩ := by
  rcases ends_historyOrNone ended with
    ⟨answer, ⟨missed, journal⟩ | ⟨world, later⟩⟩
  · exact ⟨answer, [], journal, .inl ⟨missed, rfl⟩, .nil, nofun, nofun⟩
  · rcases Watcher.forM_considerImage_lookedThrough listening _ later with
      ⟨lines, journal, looked⟩
    have start : Tally Image.fingerprint before.state.seenImages.fingerprints [] []
        before.state.seenImages := ⟨rfl, by simp⟩
    have pictured (entry : Entry) (member : entry ∈ lines) (pictures : entry.isPicture = true) :=
      LookedThrough.pictured (answer.toOption.getD []) looked start rfl rfl member pictures
    refine ⟨answer, lines, ?_, .inr looked, .sublist looked.askedFor_sublist ?_, ?_, ?_⟩
    · rw [journal]
      exact List.append_assoc _ _ _
    · exact pairwise_positions _
    · intro asked octets member
      rcases pictured _ member rfl with
        ⟨index, content, image, card, count, shown, inside, within, whole⟩
      rcases mem_picture_thumbnail.mp inside with ⟨same, rfl⟩
      refine ⟨index, image, card, count, same, shown, within, fun done => whole ?_⟩
      rw [done]
      rfl
    · intro position card attachment member
      rcases pictured _ member rfl with ⟨index, octets, image, given, count, shown, inside, _⟩
      rcases mem_picture_delivery.mp inside with ⟨within, rfl, attachment⟩
      exact ⟨index, octets, image, count, shown, within, attachment⟩

namespace Dictation

/-- A history with an image that is known, one that comes twice, and one that comes too early. -/
def album : List Image := [photo "0", photo "1", photo "1", photo "2", photo "3", photo "4"]

def browsing : Dictation where
  events := [.ok []]
  images := [.ok [photo "0"], .ok album]
  sequences := []
  readings := [.ofNat 10, .ofNat 20, .ofNat 20, .ofNat 100, .ofNat 110, .ofNat 180, .ofNat 190]

/-- A monitor with two channels that is given the thumbnails of two images, and no other. -/
def browser : Watcher (StateM Dictation) :=
  { watcher 2 with
    station := { station with
      thumbnail := fun index _ =>
        if index = 1 then return [255, 216]
        else if index = 4 then return [137, 80]
        else throw refusal } }

def afterBrowsing : Except Fault Unit × Scene Dictation :=
  play (browser.phase .images) (browsing.start 2)

/-- The channels that were given a card, and what was attached. -/
def attachments (lines : Journal) : List (Nat × Option (Bytes × String)) :=
  lines.filterMap fun
    | .delivery position _ attachment =>
      some (position, attachment.map fun image => (image.content, image.filename))
    | _ => none

end Dictation

theorem image_cards_carry_own_thumbnails_browsing :
    Dictation.browser.channels ≠ [] ∧
      Dictation.attachments
          (Dictation.afterBrowsing.2.journal.drop (Dictation.browsing.start 2).journal.length) =
        [(0, some ([255, 216], "thumbnail_1.jpg")), (1, some ([255, 216], "thumbnail_1.jpg")),
          (0, some ([137, 80], "thumbnail_4.jpg")), (1, some ([137, 80], "thumbnail_4.jpg")),
          (0, none), (1, none)] ∧
      ∃ answer lines, Dictation.afterBrowsing.2.journal =
          (Dictation.browsing.start 2).journal ++ .images answer :: lines ∧
        Journal.askedFor lines = [1, 4, 5] ∧
        ∃ octets image card, Pictured (Dictation.browsing.start 2).state
          (answer.toOption.getD []) lines 4 octets image card 2 := by
  have listening : Dictation.browser.channels ≠ [] := List.cons_ne_nil _ _
  have ended : Ends (Dictation.browser.phase .images) (Dictation.browsing.start 2)
      Dictation.afterBrowsing.1 Dictation.afterBrowsing.2 := ends_play _ _
  rcases image_cards_carry_own_thumbnails listening ended with
    ⟨answer, lines, journal, _, _, asked, _⟩
  have positions : Journal.askedFor lines = [1, 4, 5] := by
    have early : Journal.askedFor ((Dictation.browsing.start 2).journal ++ [.images answer]) =
        [] := by
      rw [Journal.askedFor_append]
      exact (List.append_nil _).trans (by decide +kernel)
    have all : Journal.askedFor Dictation.afterBrowsing.2.journal = [1, 4, 5] := by decide +kernel
    rw [journal, List.append_cons, Journal.askedFor_append, early, List.nil_append] at all
    exact all
  refine ⟨listening, by decide +kernel, answer, lines, journal, positions, ?_⟩
  have last : (4 : Int) ∈ Journal.askedFor lines := by
    rw [positions]
    decide
  rcases List.mem_filterMap.mp last with ⟨entry, member, asks⟩
  cases entry with
  | thumbnail index octets =>
      cases asks
      rcases asked 4 octets member with ⟨index, image, card, count, same, pictured, _, whole⟩
      cases Int.ofNat_inj.mp same
      cases whole (eq_ok_of_toOption (by decide +kernel))
      exact ⟨octets, image, card, pictured⟩
  | _ => cases asks

end ObservatoryWatch.Monitor
