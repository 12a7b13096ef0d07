import ObservatoryWatch.Proofs.Footprint
import ObservatoryWatch.Proofs.Running
import ObservatoryWatch.Proofs.Transcript
import ObservatoryWatch.Rehearsal

/-!
What becomes of a card on its way to the channels.

Every channel is given the card, in the order of the list, and what one of them makes of it is no
matter to the others. The names of those that fail are told, and the log is told about each of them.
An image is fetched once for all channels; if it cannot be had, all of them are given the card
alone.
-/

namespace ObservatoryWatch.Chat

open Monitor

variable {W : Type}

/-! ## One channel after the other -/

/-- The channels are given a card one after the other; what has come of it, channel by channel. -/
inductive Deliveries (world : World (StateM W)) (card : Card) (image : Option Attachment) :
    List (Channel (StateM W)) → W → List (Except Fault Unit) → W → Prop where
  | none (before : W) : Deliveries world card image [] before [] before
  | taken {channel : Channel (StateM W)} {rest : List (Channel (StateM W))}
      {before middle after : W} {outcomes : List (Except Fault Unit)}
      (ran : (channel.deliver card image).run.run before = (.ok (), middle))
      (later : Deliveries world card image rest middle outcomes after) :
      Deliveries world card image (channel :: rest) before (.ok () :: outcomes) after
  | missed {channel : Channel (StateM W)} {rest : List (Channel (StateM W))}
      {before middle after : W} {outcomes : List (Except Fault Unit)} {fault : Fault}
      (ran : (channel.deliver card image).run.run before = (.error fault, middle))
      (failure : fault.failure? = some fault)
      (later : Deliveries world card image rest
        (world.log (failureNotice card channel.name fault) middle).2 outcomes after) :
      Deliveries world card image (channel :: rest) before (.error fault :: outcomes) after

/-- The names of the channels with what has come of their deliveries. -/
def named {m : Type → Type} (channels : List (Channel m)) (outcomes : List (Except Fault Unit)) :
    List (String × Except Fault Unit) :=
  (channels.map (·.name)).zip outcomes

/-- The names of those that failed. -/
def failedNames (results : List (String × Except Fault Unit)) : List String :=
  results.filterMap fun
    | (_, .ok _) => none
    | (name, .error _) => some name

section

variable {world : World (StateM W)} {card : Card} {image : Option Attachment}

theorem deliverAll_run_of_taken {channel : Channel (StateM W)} {before middle : W}
    (ran : (channel.deliver card image).run.run before = (.ok (), middle))
    (rest : List (Channel (StateM W))) :
    (deliverAll world card image (channel :: rest)).run.run before =
      (deliverAll world card image rest).run.run middle := by
  rw [deliverAll, run_bind_ok (run_attempt_ok ran)]

theorem deliverAll_run_of_missed {channel : Channel (StateM W)} {before middle : W}
    {fault : Fault} (ran : (channel.deliver card image).run.run before = (.error fault, middle))
    (failure : fault.failure? = some fault) (rest : List (Channel (StateM W))) :
    (deliverAll world card image (channel :: rest)).run.run before =
      (deliverAll world card image rest >>= fun others =>
        return channel.name :: others).run.run
        (world.log (failureNotice card channel.name fault) middle).2 := by
  rw [deliverAll, run_bind_ok (run_attempt_failed ran failure)]
  rfl

theorem deliverAll_run_of_interrupted {channel : Channel (StateM W)} {before middle : W}
    {message : String}
    (ran : (channel.deliver card image).run.run before = (.error (.interrupted message), middle))
    (rest : List (Channel (StateM W))) :
    (deliverAll world card image (channel :: rest)).run.run before =
      (.error (.interrupted message), middle) := by
  rw [deliverAll, run_bind_error (run_attempt_interrupted ran)]

namespace Deliveries

variable {channels : List (Channel (StateM W))} {before after : W}
  {outcomes : List (Except Fault Unit)}

theorem length_eq (deliveries : Deliveries world card image channels before outcomes after) :
    outcomes.length = channels.length := by
  induction deliveries with
  | none before => rfl
  | taken ran later induction => exact congrArg Nat.succ induction
  | missed ran failure later induction => exact congrArg Nat.succ induction

theorem run (deliveries : Deliveries world card image channels before outcomes after) :
    (deliverAll world card image channels).run.run before =
      (.ok (failedNames (named channels outcomes)), after) := by
  induction deliveries with
  | none before => rfl
  | taken ran later induction =>
      rw [deliverAll_run_of_taken ran, induction]
      rfl
  | missed ran failure later induction =>
      rw [deliverAll_run_of_missed ran failure, run_bind_ok induction]
      rfl

end Deliveries

variable (world) in
/-- Either all channels are given the card, or one of them is interrupted. -/
theorem deliveries_or_interrupted (channels : List (Channel (StateM W))) (before : W) :
    (∃ outcomes after, Deliveries world card image channels before outcomes after) ∨
      ∃ message after, (deliverAll world card image channels).run.run before =
          (.error (.interrupted message), after) ∧
        ∃ channel ∈ channels, Raises (channel.deliver card image) (.interrupted message) := by
  induction channels generalizing before with
  | nil => exact .inl ⟨[], before, .none before⟩
  | cons channel rest induction =>
      rcases ran : (channel.deliver card image).run.run before with ⟨fault | ⟨⟩, middle⟩
      · cases passed : fault.failure? with
        | none =>
            rcases eq_interrupted_of_failure? passed with ⟨message, rfl⟩
            exact .inr ⟨message, middle, deliverAll_run_of_interrupted ran rest, channel,
              List.mem_cons_self, before, congrArg Prod.fst ran⟩
        | some chosen =>
            cases eq_of_failure? passed
            rcases induction (world.log (failureNotice card channel.name fault) middle).2 with
              ⟨outcomes, after, later⟩ | ⟨message, after, ended, other, member, raises⟩
            · exact .inl ⟨_, after, .missed ran passed later⟩
            · refine .inr ⟨message, after, ?_, other, List.mem_cons_of_mem channel member, raises⟩
              rw [deliverAll_run_of_missed ran passed, run_bind_error ended]
      · rcases induction middle with
          ⟨outcomes, after, later⟩ | ⟨message, after, ended, other, member, raises⟩
        · exact .inl ⟨_, after, .taken ran later⟩
        · refine .inr ⟨message, after, ?_, other, List.mem_cons_of_mem channel member, raises⟩
          rw [deliverAll_run_of_taken ran, ended]

/-- If names are told, all channels were given the card, and these are the names of those that
failed. -/
theorem deliveries_of_run {channels : List (Channel (StateM W))} {before after : W}
    {failed : List String}
    (ended : (deliverAll world card image channels).run.run before = (.ok failed, after)) :
    ∃ outcomes, Deliveries world card image channels before outcomes after ∧
      failed = failedNames (named channels outcomes) := by
  rcases deliveries_or_interrupted world channels before with
    ⟨outcomes, _, deliveries⟩ | ⟨_, _, interrupted, _⟩
  · rw [deliveries.run] at ended
    cases ended
    exact ⟨outcomes, deliveries, rfl⟩
  · rw [interrupted] at ended
    cases ended

variable (world) in
theorem deliveries_of_uninterrupted {channels : List (Channel (StateM W))}
    (uninterrupted : ∀ channel ∈ channels, ∀ message,
      ¬ Raises (channel.deliver card image) (.interrupted message)) (before : W) :
    ∃ outcomes after, Deliveries world card image channels before outcomes after := by
  rcases deliveries_or_interrupted world channels before with
    given | ⟨message, _, _, channel, member, raises⟩
  · exact given
  · exact absurd raises (uninterrupted channel member message)

end

/-! ## As it is noted -/

/-- What the channels are given is noted with what has come of it. -/
def notedChannels (position : Nat) (channels : List (Channel (StateM W))) :
    List (Channel (Transcribed W)) :=
  transcriber.channels .delivery position channels

/-- The octets are fetched, and this is noted. -/
def notedFetch (fetch : Action (StateM W) Bytes) : Action (Transcribed W) Bytes :=
  transcriber.perform (some .fetch) fetch

/-- What is noted about channels, from a position on, that are given a card: each delivery once, and
an error after those that failed. -/
def deliveryNotes (card : Card) (image : Option Attachment) (position : Nat)
    (results : List (String × Except Fault Unit)) : Transcript :=
  (results.zipIdx position).flatMap fun
    | ((_, .ok value), position) => [.delivery position card image (.ok value)]
    | ((name, .error fault), position) =>
      [.delivery position card image (.error fault), .log (failureNotice card name fault)]

/-- The image under its name, if its octets could be had. -/
def attachment? (filename : String) : Except Fault Bytes → Option Attachment
  | .ok content => some ⟨content, filename⟩
  | .error _ => none

def unavailableNotice (filename : String) (fault : Fault) : Log.Record :=
  .warning ("Attachment " ++ filename ++ " unavailable, sending text only: " ++
    Redaction.redact fault.message)

/-- What is noted about the octets of an image, and that they could not be had. -/
def fetchNotes (filename : String) : Except Fault Bytes → Transcript
  | .ok content => [.fetch (.ok content)]
  | .error fault => [.fetch (.error fault), .log (unavailableNotice filename fault)]

section

variable {card : Card} {image : Option Attachment} (position : Nat)

theorem deliveryNotes_nil {m : Type → Type} (outcomes : List (Except Fault Unit)) :
    deliveryNotes card image position (named ([] : List (Channel m)) outcomes) = [] := rfl

theorem deliveryNotes_taken {m : Type → Type} (channel : Channel m) (rest : List (Channel m))
    (outcomes : List (Except Fault Unit)) :
    deliveryNotes card image position (named (channel :: rest) (.ok () :: outcomes)) =
      .delivery position card image (.ok ()) ::
        deliveryNotes card image (position + 1) (named rest outcomes) := rfl

theorem deliveryNotes_missed {m : Type → Type} (channel : Channel m) (rest : List (Channel m))
    (fault : Fault) (outcomes : List (Except Fault Unit)) :
    deliveryNotes card image position (named (channel :: rest) (.error fault :: outcomes)) =
      .delivery position card image (.error fault) ::
        .log (failureNotice card channel.name fault) ::
          deliveryNotes card image (position + 1) (named rest outcomes) := rfl

variable {world : World (StateM W)} (party : Nat)

theorem deliver_transcribed_run {channel : Channel (StateM W)} {before after : W}
    {outcome : Except Fault Unit}
    (ran : (channel.deliver card image).run.run before = (outcome, after))
    (transcript : Transcript) :
    ((transcriber.channel (.delivery position) channel).deliver card image).run.run
        (before, transcript) =
      (outcome, after, transcript ++ [.delivery position card image outcome]) := by
  rw [Observer.deliver_channel]
  exact Observer.beside_perform_run _ ran _ _

/-- Whether notes are taken or not, the channels are given the card and do the same with it. -/
theorem Deliveries.noted {channels : List (Channel (StateM W))} {before after : W}
    {outcomes : List (Except Fault Unit)}
    (deliveries : Deliveries world card image channels before outcomes after)
    (transcript : Transcript) :
    Deliveries (transcribed party world) card image (notedChannels position channels)
      (before, transcript) outcomes
      (after, transcript ++ deliveryNotes card image position (named channels outcomes)) := by
  induction deliveries generalizing position transcript with
  | none before =>
      rw [deliveryNotes_nil, List.append_nil]
      exact .none _
  | taken ran later induction =>
      rw [deliveryNotes_taken, List.append_cons]
      exact .taken (deliver_transcribed_run position ran transcript) (induction (position + 1) _)
  | missed ran failure later induction =>
      rw [deliveryNotes_missed, List.append_cons, List.append_cons]
      exact .missed (deliver_transcribed_run position ran transcript) failure
        (induction (position + 1) _)

theorem named_noted (channels : List (Channel (StateM W))) (outcomes : List (Except Fault Unit)) :
    named (notedChannels position channels) outcomes = named channels outcomes := by
  rw [named, named, notedChannels, Observer.names_channels]

variable (world)

/-- The octets are fetched and then the channels are given the card, with the image if it could be
had; or the fetching is interrupted. -/
theorem deliverWithImage_or_interrupted {channels : List (Channel (Transcribed W))}
    (listening : channels ≠ []) (card : Card) (fetch : Action (StateM W) Bytes)
    (filename : String) (before : W) (transcript : Transcript) :
    (∃ after, (deliverWithImage (transcribed party world) channels card (notedFetch fetch)
        filename).run.run (before, transcript) =
      (deliverAll (transcribed party world) card (attachment? filename (fetch.run.run before).1)
        channels).run.run (after, transcript ++ fetchNotes filename (fetch.run.run before).1)) ∨
      ∃ message after, (deliverWithImage (transcribed party world) channels card (notedFetch fetch)
          filename).run.run (before, transcript) = (.error (.interrupted message), after) ∧
        Raises fetch (.interrupted message) := by
  have present : channels.isEmpty = false := List.isEmpty_eq_false_iff.mpr listening
  unfold deliverWithImage
  rw [present, if_neg Bool.false_ne_true]
  rcases ran : fetch.run.run before with ⟨outcome, after⟩
  have fetched : (notedFetch fetch).run.run (before, transcript) =
      (outcome, after, transcript ++ [.fetch outcome]) :=
    Observer.beside_perform_run _ ran _ _
  rcases outcome with fault | content
  · cases passed : fault.failure? with
    | none =>
        rcases eq_interrupted_of_failure? passed with ⟨message, rfl⟩
        exact .inr ⟨message, _, run_bind_error (run_attempt_interrupted fetched) _, before,
          congrArg Prod.fst ran⟩
    | some chosen =>
        cases eq_of_failure? passed
        refine .inl ⟨(world.log (unavailableNotice filename fault) after).2, ?_⟩
        have notes : transcript ++ fetchNotes filename (.error fault) =
            transcript ++ [.fetch (.error fault)] ++ [.log (unavailableNotice filename fault)] :=
          List.append_cons ..
        rw [run_bind_ok (run_attempt_failed fetched passed), notes]
        rfl
  · exact .inl ⟨after, run_bind_ok (run_attempt_ok fetched) _⟩

end

/-- Every channel is given the card exactly once, in the order of the list, whatever the others make
of it; the names of those that failed are told, and the log is told about each of them. An image is
fetched once if there is any channel, and then all of them get it, or all get the card alone because
it could not be had. -/
theorem every_channel_given_card (world : World (StateM W)) (channels : List (Channel (StateM W)))
    (card : Card) (fetch : Action (StateM W) Bytes) (filename : String)
    (uninterrupted : ∀ channel ∈ channels, ∀ image message,
      ¬ Raises (channel.deliver card image) (.interrupted message))
    (fetched : ∀ message, ¬ Raises fetch (.interrupted message)) (start : W) (party : Nat) :
    (∃ outcomes after, outcomes.length = channels.length ∧
      (deliverAll (transcribed party world) card none (notedChannels 0 channels)).run.run
          (start, []) =
        (.ok (failedNames (named channels outcomes)), after,
          deliveryNotes card none 0 (named channels outcomes))) ∧
    (channels = [] →
      (deliverWithImage (transcribed party world) (notedChannels 0 channels) card
        (notedFetch fetch) filename).run.run (start, []) = (.ok [], start, [])) ∧
    (channels ≠ [] → ∃ octets outcomes after, outcomes.length = channels.length ∧
      (deliverWithImage (transcribed party world) (notedChannels 0 channels) card
          (notedFetch fetch) filename).run.run (start, []) =
        (.ok (failedNames (named channels outcomes)), after,
          fetchNotes filename octets ++
            deliveryNotes card (attachment? filename octets) 0 (named channels outcomes))) ∧
    ∀ name fault, (failureNotice card name fault).level = .error ∧
      (failureNotice card name fault).channel = some name := by
  have given (image : Option Attachment) (before : W) (transcript : Transcript) :
      ∃ outcomes after, outcomes.length = channels.length ∧
        (deliverAll (transcribed party world) card image (notedChannels 0 channels)).run.run
            (before, transcript) =
          (.ok (failedNames (named channels outcomes)), after,
            transcript ++ deliveryNotes card image 0 (named channels outcomes)) := by
    have calm (channel : Channel (StateM W)) (member : channel ∈ channels) :=
      uninterrupted channel member image
    rcases deliveries_of_uninterrupted world calm before with ⟨outcomes, after, deliveries⟩
    refine ⟨outcomes, after, deliveries.length_eq, ?_⟩
    rw [(deliveries.noted 0 party transcript).run, named_noted]
  refine ⟨given none start [], ?_, fun listening => ?_, fun _ _ => ⟨rfl, rfl⟩⟩
  · rintro rfl
    rfl
  · have notedListening : notedChannels 0 channels ≠ [] := by
      rw [notedChannels, ← List.length_pos_iff, Observer.length_channels, List.length_pos_iff]
      exact listening
    rcases deliverWithImage_or_interrupted world party notedListening card fetch filename start []
      with ⟨middle, ran⟩ | ⟨message, _, _, raises⟩
    · rcases given _ middle _ with ⟨outcomes, after, all, delivered⟩
      exact ⟨_, outcomes, after, all, ran.trans delivered⟩
    · exact absurd raises (fetched message)

/-- Two rooms of one name that cannot be reached, and a third channel between them. -/
def strandedChannels : List (Channel Rehearsal) :=
  [Rehearsal.channel "room" (some "offline") none, Rehearsal.channel "hook" none none,
    Rehearsal.channel "room" (some "offline") none]

/-- An image that turns out to be empty. -/
def emptyImage : Action Rehearsal Bytes := throw (.imaging (.emptyThumbnail 3))

theorem strandedChannels_uninterrupted (channel : Channel Rehearsal)
    (member : channel ∈ strandedChannels) (card : Card) (image : Option Attachment)
    (message : String) : ¬ Raises (channel.deliver card image) (.interrupted message) := by
  simp only [strandedChannels, List.mem_cons, List.not_mem_nil, or_false] at member
  rcases member with rfl | rfl | rfl <;> cases image <;> rintro ⟨_, ⟨⟩⟩

theorem emptyImage_uninterrupted (message : String) :
    ¬ Raises emptyImage (.interrupted message) := by
  rintro ⟨_, ⟨⟩⟩

theorem every_channel_given_card_stranded :
    (∃ octets outcomes after, outcomes.length = 3 ∧
      (deliverWithImage (transcribed 3 Rehearsal.world) (notedChannels 0 strandedChannels)
          (.titled "Frame" 0) (notedFetch emptyImage) "thumbnail_3.jpg").run.run
            (.new .first, []) =
        (.ok (failedNames (named strandedChannels outcomes)), after,
          fetchNotes "thumbnail_3.jpg" octets ++
            deliveryNotes (.titled "Frame" 0) (attachment? "thumbnail_3.jpg" octets) 0
              (named strandedChannels outcomes))) ∧
      ((deliverWithImage (transcribed 3 Rehearsal.world) (notedChannels 0 strandedChannels)
        (.titled "Frame" 0) (notedFetch emptyImage) "thumbnail_3.jpg").run.run
          (.new .first, [])).1.toOption = some ["room", "room"] := by
  have given := every_channel_given_card Rehearsal.world strandedChannels (.titled "Frame" 0)
    emptyImage "thumbnail_3.jpg"
    (fun channel member => strandedChannels_uninterrupted channel member _)
    emptyImage_uninterrupted (.new .first) 3
  exact ⟨given.2.2.1 (List.cons_ne_nil _ _), by decide +kernel⟩

end ObservatoryWatch.Chat
