import Mathlib.Data.Finset.Dedup
import Mathlib.Data.Finset.Card
import ObservatoryWatch.Proofs.Dictation
import ObservatoryWatch.Proofs.Ledger

/-!
Each image is counted once.

For every channel the account of images is in order at every stage of a course, and the images
that still wait there are as many as the gate has held back. So the new images are those shown
on cards, those that the cards tell to have been passed over, and those held back since.
-/

namespace ObservatoryWatch.Monitor

open Observatory

variable {W : Type} {watcher : Watcher (StateM W)}

/-- How the images stand after so many of the later histories were taken into account, and how
the account of a channel does. -/
structure ImagesKept (position : Nat) (history considered : List Image) (stage : Stage W) :
    Prop where
  obtained : Obtained stage.scene.journal.imageHistories history considered stage.pendingImages
  tally : Tally Image.fingerprint (history.map Image.fingerprint) considered
    stage.scene.journal.handedImages stage.scene.state.seenImages
  account : Account position stage.scene.journal stage.scene.state.gate.suppressed

/-- Dealing with a new image keeps the account of a channel. -/
theorem Account.dealt {position : Nat} {before after : Scene W} {index : Nat}
    {image : Image} {seen : Seen} {world : W} (inside : position < watcher.channels.length)
    (account : Account position before.journal before.state.gate.suppressed)
    (dealt : Dealt watcher index image ((before.withImage index image seen).inWorld world)
      after) : Account position after.journal after.state.gate.suppressed := by
  have clocks : ∀ readings : List Binary64, ∀ entry ∈ readings.map Entry.clock,
      entry.isSilentAt position = true := by simp [Entry.isSilentAt]
  cases dealt with
  | held readings _ reading state journal =>
      rw [state, journal]
      exact ((account.append_newImage index image).append_silent (clocks readings)).append_silent
        (clocks [reading])
  | reported readings _ sentAt now timestamp answer state journal =>
      have silent : ∀ entry ∈ readings.map Entry.clock ++
          [.clock sentAt, .thumbnail index answer], entry.isSilentAt position = true := by
        refine List.forall_mem_append.mpr ⟨clocks readings, ?_⟩
        simp [Entry.isSilentAt]
      have reported := account.append_report index image before.state.target
        before.state.flipHours now timestamp (attached index answer) silent inside
      rw [state, journal]
      simpa [Scene.withImage, Scene.imageCard, Gate.letPass] using reported

namespace ImagesKept

variable {position : Nat} {history considered : List Image} {earlier later : Stage W}

theorem quiet (kept : ImagesKept position history considered earlier)
    (pending : later.pendingImages = earlier.pendingImages)
    (seen : later.scene.state.seenImages = earlier.scene.state.seenImages)
    (gate : later.scene.state.gate = earlier.scene.state.gate) {entries : Journal}
    (journal : later.scene.journal = earlier.scene.journal ++ entries)
    (histories : entries.imageHistories = []) (handed : entries.handedImages = [])
    (silent : ∀ entry ∈ entries, entry.isSilentAt position = true) :
    ImagesKept position history considered later := by
  constructor
  · rw [pending, journal, Journal.imageHistories_append, histories, List.append_nil]
    exact kept.obtained
  · rw [seen, journal, Journal.handedImages_append, handed, List.append_nil]
    exact kept.tally
  · rw [gate, journal]
    exact kept.account.append_silent silent

theorem jotted {scene : Scene W} {agenda : List Item} {entry : Entry}
    (kept : ImagesKept position history considered ⟨scene, agenda⟩)
    (histories : Journal.imageHistories [entry] = [])
    (handed : Journal.handedImages [entry] = [])
    (silent : entry.isSilentAt position = true) :
    ImagesKept position history considered ⟨scene.jotted entry, agenda⟩ :=
  kept.quiet rfl rfl rfl rfl histories handed (by simpa using silent)

theorem aside {before after : Scene W} {agenda : List Item}
    (kept : ImagesKept position history considered ⟨before, agenda⟩) (aside : Aside before after) :
    ImagesKept position history considered ⟨after, agenda⟩ := by
  rcases aside.journal with ⟨entries, journal, lines⟩
  exact kept.quiet rfl aside.seenImages aside.gate journal
    (Journal.imageHistories_of_aside lines) (Journal.handedImages_of_aside lines)
    fun entry member => isSilentAt_of_aside (lines entry member)

/-- The start hands nothing over and remembers the history. -/
theorem begin {start : Scene W} (begins : Begins watcher start) :
    ∃ history, ImagesKept position history [] ⟨start, []⟩ := by
  rcases begins with ⟨cooldown, gate, world, fresh, yields⟩
  rcases Watcher.baseline_started yields with ⟨events, answer, history, started⟩
  rcases started.journal with ⟨entries, journal, lines⟩
  refine ⟨history, ⟨[], ?_, rfl⟩, ⟨?_, ?_⟩, ?_⟩
  · rw [journal, Journal.imageHistories_append, Journal.imageHistories_of_aside lines]
    rfl
  · rw [journal, Journal.handedImages_append, Journal.handedImages_of_aside lines]
    rfl
  · intro fingerprint
    rw [started.seenImages, Seen.mem_foldl_addImage]
    simp [Scene.fresh, State.fresh, Seen.empty]
  · -- A new gate has held nothing back, so nothing may wait for a card yet.
    have none : gate.suppressed = 0 := by
      unfold Gate.new? at fresh
      split at fresh
      · cases fresh
        rfl
      · cases fresh
    rw [started.gate, journal]
    change Account position _ gate.suppressed
    rw [none]
    have opening : ∀ entry ∈ [Entry.events (.ok events), .sequence answer, .images (.ok history)],
        entry.isSilentAt position = true := by simp [Entry.isSilentAt]
    exact (Account.empty.append_silent opening).append_silent
      fun entry member => isSilentAt_of_aside (lines entry member)

theorem pass {scene : Scene W} {index : Nat} {image : Image} {rest : List Item}
    (kept : ImagesKept position history considered ⟨scene, .image index image :: rest⟩)
    (old : image.fingerprint ∈ scene.state.seenImages.fingerprints) :
    ImagesKept position history (considered ++ [image]) ⟨scene, rest⟩ :=
  ⟨kept.obtained.consider, kept.tally.pass old, kept.account⟩

theorem take {before after : Scene W} {index : Nat} {image : Image} {rest : List Item}
    {seen : Seen} {world : W} (inside : position < watcher.channels.length)
    (kept : ImagesKept position history considered ⟨before, .image index image :: rest⟩)
    (added : before.state.seenImages.add? image.fingerprint = some seen)
    (handled : Yields (watcher.witnessed.handleImage index image)
      ((before.withImage index image seen).inWorld world) () after)
    (frame : ImageFrame before after) :
    ImagesKept position history (considered ++ [image]) ⟨after, rest⟩ := by
  have listening : watcher.channels ≠ [] := List.ne_nil_of_length_pos (by omega)
  have dealt := Watcher.handleImage_dealt listening handled
  rcases frame.journal with ⟨entries, all, lines⟩
  refine ⟨?_, ?_, kept.account.dealt inside dealt⟩
  · rw [all, Journal.imageHistories_append, Journal.imageHistories_of_image lines,
      List.append_nil]
    exact kept.obtained.consider
  · rw [dealt.seenImages, dealt.handedImages]
    have handed : ((before.withImage index image seen).inWorld world).journal.handedImages =
        before.journal.handedImages ++ [image] := Journal.handedImages_append ..
    rw [handed]
    exact kept.tally.take added

/-- A history that was obtained is pending as a whole. -/
theorem fetched {before : Scene W} {answer : Except Fault (List Image)} {world : W}
    (kept : ImagesKept position history considered ⟨before, []⟩) :
    ImagesKept position history considered
      ⟨(before.jotted (.images answer)).inWorld world,
        Item.ofImages (answer.toOption.getD [])⟩ := by
  cases answer with
  | error fault =>
      have told : ImagesKept position history considered
          ⟨before.jotted (.images (.error fault)), []⟩ := kept.jotted rfl rfl rfl
      exact ⟨told.obtained, told.tally, told.account⟩
  | ok entries =>
      refine ⟨?_, ?_, kept.account.append_silent (by simp [Entry.isSilentAt])⟩
      · rw [Scene.journal_inWorld, Scene.journal_jotted, Journal.imageHistories_append,
          Stage.pendingImages_ofImages]
        exact kept.obtained.fetch entries
      · rw [Scene.journal_inWorld, Scene.journal_jotted, Journal.handedImages_append]
        exact (List.append_nil _).symm ▸ kept.tally

/-- Each step takes at most one more image into account. -/
theorem step (inside : position < watcher.channels.length)
    (kept : ImagesKept position history considered earlier)
    (taken : Step watcher earlier later) :
    ∃ considered, ImagesKept position history considered later := by
  cases taken.effect with
  | sequenceMissed fault aside => exact ⟨considered, (kept.jotted rfl rfl rfl).aside aside⟩
  | @sequenceSeen before _ tree flipHours aside =>
      have told : ImagesKept position history considered
          ⟨before.jotted (.sequence (.ok tree)), []⟩ := kept.jotted rfl rfl rfl
      have taught : ImagesKept position history considered
          ⟨before.withSequence tree flipHours, []⟩ :=
        ⟨told.obtained, told.tally, told.account⟩
      exact ⟨considered, taught.aside aside⟩
  | @eventsAsked before answer world =>
      have told : ImagesKept position history considered
          ⟨before.jotted (.events answer), []⟩ := kept.jotted rfl rfl rfl
      refine ⟨considered, ?_, told.tally, told.account⟩
      rw [Stage.pendingImages_ofEvents]
      exact told.obtained
  | imagesAsked answer world => exact ⟨considered, kept.fetched⟩
  | eventPassed old => exact ⟨considered, kept.obtained, kept.tally, kept.account⟩
  | @eventTaken before _ event rest seen telling added aside =>
      have told : ImagesKept position history considered
          ⟨before.jotted (.newEvent event), rest⟩ :=
        kept.quiet rfl rfl rfl rfl rfl rfl (by simp [Entry.isSilentAt])
      have heard : ImagesKept position history considered
          ⟨before.withEvent event seen, rest⟩ :=
        ⟨told.obtained, told.tally, told.account⟩
      exact ⟨considered, heard.aside aside⟩
  | imagePassed old => exact ⟨_, kept.pass old⟩
  | imageTaken seen world added handled frame =>
      exact ⟨_, kept.take inside added handled frame⟩
  | paused aside => exact ⟨considered, kept.aside aside⟩

theorem of_reached {stage : Stage W} (inside : position < watcher.channels.length)
    (reached : Reached watcher stage) :
    ∃ history considered, ImagesKept position history considered stage := by
  refine reached.induction
    (motive := fun stage => ∃ history considered, ImagesKept position history considered stage)
    ?_ ?_
  · intro start begins
    rcases begin begins with ⟨history, kept⟩
    exact ⟨history, [], kept⟩
  · rintro earlier later taken ⟨history, considered, kept⟩
    exact ⟨history, kept.step inside taken⟩

end ImagesKept

/-- There are as many newcomers as fingerprints that were not known. -/
theorem length_newcomers {α : Type} {mark : α → Fingerprint} {known : List Fingerprint}
    (entries : List α) :
    (newcomers mark known entries).length =
      ((entries.map mark).toFinset \ known.toFinset).card := by
  rcases @nodup_newcomers α mark known entries with ⟨nodup, new⟩
  have same : ((newcomers mark known entries).map mark).toFinset =
      (entries.map mark).toFinset \ known.toFinset := by
    ext fingerprint
    rw [List.mem_toFinset, Finset.mem_sdiff, List.mem_toFinset, List.mem_toFinset]
    have all := @mem_marks_newcomers α mark known entries fingerprint
    constructor
    · intro member
      have unknown : fingerprint ∉ known := by
        rcases List.mem_map.mp member with ⟨entry, kept, rfl⟩
        exact new entry kept
      exact ⟨(all.mp (.inr member)).resolve_left unknown, unknown⟩
    · rintro ⟨member, unknown⟩
      exact (all.mpr (.inr member)).resolve_left unknown
  rw [← same, List.toFinset_card_of_nodup nodup, List.length_map]

/-- At every stage of every course and for every channel: the fingerprints that the images taken
into account brought in, beyond those of the history at the start, are as many as the cards of
images that the channel was given, the images that these tell to have been passed over, and those
that the gate holds back now, taken together. The images handed over, each of them once, fall
into one batch for each card, which shows the last of it and tells the number of the others, and
those held back. Each card speaks for exactly the images that were handed over since the card of
an image before it. -/
theorem images_counted_once {stage : Stage W} {position : Nat}
    (inside : position < watcher.channels.length) (reached : Reached watcher stage) :
    ∃ history later considered batches,
      stage.scene.journal.imageHistories = history :: later ∧
      later.flatten = considered ++ stage.pendingImages ∧
      ((considered.map Image.fingerprint).toFinset \
          (history.map Image.fingerprint).toFinset).card =
        (stage.scene.journal.imageCardsAt position).length +
          ((stage.scene.journal.imageCardsAt position).map Card.skippedImages).sum +
            stage.scene.state.gate.suppressed ∧
      stage.scene.journal.handedImages =
        newcomers Image.fingerprint (history.map Image.fingerprint) considered ∧
      (stage.scene.journal.handedImages.map Image.fingerprint).Nodup ∧
      stage.scene.journal.handedImages =
        batches.flatten ++ stage.scene.journal.waiting position ∧
      List.Forall₂ SpeaksFor (stage.scene.journal.imageCardsAt position) batches ∧
      (stage.scene.journal.waiting position).length = stage.scene.state.gate.suppressed ∧
      ∀ (early : Journal) card attachment late,
        stage.scene.journal = early ++ .delivery position card attachment :: late →
          card.isOfImage = true → SpeaksFor card (early.waiting position) := by
  rcases ImagesKept.of_reached inside reached with ⟨history, considered, kept⟩
  rcases kept.obtained with ⟨later, histories, entries⟩
  rcases batches_of_accounted _ kept.account.accounted with ⟨batches, speak, parts⟩
  rw [List.nil_append] at parts
  refine ⟨history, later, considered, batches, histories, entries, ?_, kept.tally.handed_eq, ?_,
    parts, speak, kept.account.waiting, ?_⟩
  · rw [← length_newcomers, ← kept.tally.handed_eq, parts, List.length_append,
      length_flatten_of_speaksFor speak]
    exact congrArg _ kept.account.waiting
  · rw [kept.tally.handed_eq]
    exact (nodup_newcomers _).1
  · intro early card attachment late journal shows
    have accounted := kept.account.accounted
    rw [journal] at accounted
    exact speaksFor_of_accounted accounted shows

namespace Dictation

/-- Histories of which one repeats an entry and one fails, while the clock reads a time at which
the gate is closed, then a later one, and then again one that is too early. -/
def clouded : Dictation where
  events := [.ok []]
  images :=
    [.ok [photo "0"],
      .ok [photo "0", photo "1", photo "2", photo "2", photo "3"],
      .error refusal,
      .ok [photo "3", photo "4", photo "5"]]
  sequences := []
  readings := [0, .ofNat 10, .ofNat 10, .ofNat 20, .ofNat 20, .ofNat 100, .ofNat 100, .ofNat 110]

def afterClouded : Stage Dictation :=
  ⟨after (clouded.start 2) 2 [.images, .images, .pause, .images], []⟩

end Dictation

theorem images_counted_once_clouded :
    1 < (Dictation.watcher 2).channels.length ∧
      Reached (Dictation.watcher 2) Dictation.afterClouded ∧
      (Dictation.afterClouded.scene.journal.imageCardsAt 1).map Card.skippedImages = [0, 2] ∧
      Dictation.afterClouded.scene.state.gate.suppressed = 1 ∧
      ∃ history later considered,
        Dictation.afterClouded.scene.journal.imageHistories = history :: later ∧
        later.flatten = considered ++ Dictation.afterClouded.pendingImages ∧
        ((considered.map Image.fingerprint).toFinset \
          (history.map Image.fingerprint).toFinset).card = 5 := by
  have inside : 1 < (Dictation.watcher 2).channels.length := by decide
  have reached : Reached (Dictation.watcher 2) Dictation.afterClouded :=
    ⟨_, Dictation.begins (by decide +kernel), Dictation.leads (by decide +kernel)⟩
  have cards : (Dictation.afterClouded.scene.journal.imageCardsAt 1).map Card.skippedImages =
      [0, 2] := by decide +kernel
  have held : Dictation.afterClouded.scene.state.gate.suppressed = 1 := by decide +kernel
  rcases images_counted_once inside reached with
    ⟨history, later, considered, batches, histories, entries, count, _⟩
  refine ⟨inside, reached, cards, held, history, later, considered, histories, entries, ?_⟩
  have two := congrArg List.length cards
  rw [List.length_map] at two
  rw [count, cards, held, two]
  rfl

end ObservatoryWatch.Monitor
