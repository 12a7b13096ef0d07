import ObservatoryWatch.Proofs.Dictation
import ObservatoryWatch.Proofs.TargetReading

/-!
What the chat is told about the target.

A channel that reads the cards given to it from the first one on knows at every stage the name of
the target that the monitor works with: no card contradicts what was announced before it, and
whatever changes the target ends with a card that announces the new one. Each action of the monitor
continues the conversation in this way, and so does each step of a course.
-/

namespace ObservatoryWatch.Monitor

open Observatory

variable {W : Type}

/-! ## Conversations -/

/-- The name announced last, on one of these cards or before them. -/
def lastAnnounced (last : Option String) (cards : List Card) : Option String :=
  cards.foldl (fun last card => card.announced?.or last) last

/-- What a card says about the target fits what was announced last. -/
def Suits (last : Option String) (card : Card) : Prop :=
  match card.topic with
  | .welcome => False
  | .started => last = none ∧ card.announced?.isSome = true
  | .changed => ∃ previous name, last = some previous ∧
      card.value? "Previous Target" = some previous ∧ card.announced? = some name ∧
      name ≠ previous
  | .image => card.value? "Target" = last
  | .mount => card.value? "Current Target" = last
  | .other => True

def Conversation : Option String → List Card → Prop
  | _, [] => True
  | last, card :: rest => Suits last card ∧ Conversation (card.announced?.or last) rest

theorem lastAnnounced_append (last : Option String) (early late : List Card) :
    lastAnnounced last (early ++ late) = lastAnnounced (lastAnnounced last early) late :=
  List.foldl_append

theorem conversation_append {last : Option String} {early late : List Card} :
    Conversation last (early ++ late) ↔
      Conversation last early ∧ Conversation (lastAnnounced last early) late := by
  induction early generalizing last with
  | nil => simp [Conversation, lastAnnounced]
  | cons card rest induction =>
      rw [List.cons_append, Conversation, Conversation, induction, and_assoc]
      rfl

namespace Conversation

theorem suits {last : Option String} {early late : List Card} {card : Card}
    (conversation : Conversation last (early ++ card :: late)) :
    Suits (lastAnnounced last early) card :=
  (conversation_append.mp conversation).2.1

/-- Where a target is known, none is said to be the first. -/
theorem started_eq_nil {last : Option String} {cards : List Card}
    (conversation : Conversation last cards) (known : last.isSome = true) :
    cards.filter (·.topic = .started) = [] := by
  induction cards generalizing last with
  | nil => rfl
  | cons card rest induction =>
      have later : (card.announced?.or last).isSome = true := by simp [known]
      have first : card.topic ≠ .started := by
        intro started
        have suits := conversation.1
        rw [Suits, started] at suits
        simp [suits.1] at known
      rw [List.filter_cons_of_neg (by simpa using first)]
      exact induction conversation.2 later

theorem length_started_le {last : Option String} {cards : List Card}
    (conversation : Conversation last cards) :
    (cards.filter (·.topic = .started)).length ≤ 1 := by
  induction cards generalizing last with
  | nil => exact Nat.zero_le 1
  | cons card rest induction =>
      by_cases started : card.topic = .started
      · have suits := conversation.1
        rw [Suits, started] at suits
        have later : (card.announced?.or last).isSome = true := by simp [suits.2]
        rw [List.filter_cons_of_pos (by simpa using started), conversation.2.started_eq_nil later]
        exact Nat.le_refl 1
      · rw [List.filter_cons_of_neg (by simpa using started)]
        exact induction conversation.2

end Conversation

/-! ## Cards that suit -/

/-- A card that suits what was announced last, and the name announced last after it. -/
def Passes (last : Option String) (card : Card) (next : Option String) : Prop :=
  Suits last card ∧ card.announced?.or last = next

theorem passes_other {card : Card} (other : card.topic = .other) (last : Option String) :
    Passes last card last := by
  simp [Passes, Suits, Card.announced?, other]

theorem passes_image (image : Image) (current : Option Target) (skipped : Int)
    (flipHours : Option Binary64) (now : Calendar.Moment) :
    Passes (current.map Target.name) (Card.image image current skipped flipHours now)
      (current.map Target.name) := by
  have topic := Card.topic_image image current skipped flipHours now
  simp [Passes, Suits, Card.announced?, topic, Card.value?_target_image]

theorem passes_mountEvent {event : Event} (current : Option Target) (mount : Option Mount)
    (kind : event.kind ∈ Watcher.mountKinds) :
    Passes (current.map Target.name) (Card.mountEvent event current mount)
      (current.map Target.name) := by
  have topic := Card.topic_mountEvent current mount kind
  simp [Passes, Suits, Card.announced?, topic, Card.value?_currentTarget_mountEvent]

theorem passes_newTarget {target : Target} {previous : Option Target}
    (new : previous.any (·.name == target.name) = false) (flipHours : Option Binary64)
    (mount : Option Mount) (now : Calendar.Moment) :
    Passes (previous.map Target.name) (Card.newTarget target previous flipHours mount now)
      (some target.name) := by
  have topic := Card.topic_newTarget target previous flipHours mount now
  have announced := Card.announced?_newTarget target previous flipHours mount now
  refine ⟨?_, by rw [announced, Option.some_or]⟩
  unfold Suits
  cases previous with
  | none => simp [topic, announced]
  | some previous =>
      have different : target.name ≠ previous.name := by
        rintro same
        simp [same] at new
      simp [topic, announced, Card.value?_previousTarget, different]

theorem Passes.stampedAt {last next : Option String} {card : Card}
    (passes : Passes last card next) (timestamp : String) :
    Passes last (card.stampedAt timestamp) next := passes

/-! ## What a channel is given -/

theorem Hushed.cardsAt {before after : Scene W} (hushed : Hushed before after) (position : Nat) :
    after.journal.cardsAt position = before.journal.cardsAt position := by
  rcases hushed.journal with ⟨entries, journal, lines⟩
  rw [journal, Journal.cardsAt_append, Journal.cardsAt_of_question position lines, List.append_nil]

def Scene.targetName? (scene : Scene W) : Option String := scene.state.target.map Target.name

/-- The channel was told nothing about the target that does not go with what it knew, and knows
the target as well as before. -/
def Continues (position : Nat) (before after : Scene W) : Prop :=
  ∃ cards, after.journal.cardsAt position = before.journal.cardsAt position ++ cards ∧
    Conversation before.targetName? cards ∧
    lastAnnounced before.targetName? cards = after.targetName?

namespace Continues

variable {position : Nat} {before middle after : Scene W}

/-- Who is given no card goes on knowing what it knew. -/
theorem of_silent (cards : after.journal.cardsAt position = before.journal.cardsAt position)
    (target : after.state.target = before.state.target) : Continues position before after := by
  refine ⟨[], cards.trans (List.append_nil _).symm, trivial, ?_⟩
  rw [Scene.targetName?, Scene.targetName?, target]
  rfl

theorem of_line (entry : Entry) (journal : after.journal = before.journal ++ [entry])
    (silent : Journal.cardsAt [entry] position = [])
    (target : after.state.target = before.state.target) : Continues position before after := by
  refine of_silent ?_ target
  rw [journal, Journal.cardsAt_append, silent, List.append_nil]

theorem refl (scene : Scene W) : Continues position scene scene := of_silent rfl rfl

theorem trans (left : Continues position before middle) (right : Continues position middle after) :
    Continues position before after := by
  rcases left with ⟨early, leftCards, leftConversation, leftLast⟩
  rcases right with ⟨late, rightCards, rightConversation, rightLast⟩
  refine ⟨early ++ late, ?_, ?_, ?_⟩
  · rw [rightCards, leftCards, List.append_assoc]
  · rw [conversation_append, leftLast]
    exact ⟨leftConversation, rightConversation⟩
  · rw [lastAnnounced_append, leftLast, rightLast]

theorem of_hushed (hushed : Hushed before after) : Continues position before after :=
  of_silent (hushed.cardsAt position) (by rw [hushed.state])

/-- One card is given to the channel, and it passes from the target known before to the one known
after. -/
theorem of_card (card : Card)
    (given : after.journal.cardsAt position = before.journal.cardsAt position ++ [card])
    (passes : Passes before.targetName? card after.targetName?) :
    Continues position before after :=
  ⟨[card], given, ⟨passes.1, trivial⟩, passes.2⟩

end Continues

namespace Watcher

variable {watcher : Watcher (StateM W)} {position : Nat} {before after : Scene W}

/-- A channel is given a card that is posted, and nothing else. -/
theorem post_given {card : Card} {value : Unit} (inside : position < watcher.channels.length)
    (yields : Yields (watcher.witnessed.post card) before value after) :
    ∃ timestamp, after.journal.cardsAt position =
        before.journal.cardsAt position ++ [card.stampedAt timestamp] ∧
      after.targetName? = before.targetName? := by
  rcases post_yields yields with ⟨timestamp, journal, state⟩
  refine ⟨timestamp, ?_, by rw [Scene.targetName?, state, Scene.targetName?]⟩
  rw [journal, Journal.cardsAt_append, Journal.cardsAt_deliveries, if_pos (by omega)]

theorem post_continues {card : Card} {value : Unit} (inside : position < watcher.channels.length)
    (passes : Passes before.targetName? card before.targetName?)
    (yields : Yields (watcher.witnessed.post card) before value after) :
    Continues position before after := by
  rcases post_given inside yields with ⟨timestamp, given, same⟩
  refine .of_card _ given ?_
  rw [same]
  exact passes.stampedAt timestamp

theorem update_continues {target : Target} {value : Unit}
    (inside : position < watcher.channels.length)
    (yields : Yields (watcher.witnessed.update target) before value after) :
    Continues position before after := by
  rcases update_cases yields with ⟨_, rfl⟩ | ⟨new, middle, hushed, reported⟩
  · exact .refl after
  · rcases reported with ⟨silent, _⟩ | ⟨flipHours, mount, now, posted⟩
    · exact absurd inside (by simp [silent])
    · rcases post_given inside posted with ⟨timestamp, given, same⟩
      refine .of_card ((Card.newTarget target before.state.target flipHours mount
        now).stampedAt timestamp) ?_ ?_
      · rw [given, hushed.cardsAt]
        rfl
      · have known : after.targetName? = some target.name := by
          rw [same, Scene.targetName?, hushed.state]
          rfl
        rw [known]
        exact (passes_newTarget new flipHours mount now).stampedAt timestamp

theorem handle_continues {event : Event} {value : Unit}
    (inside : position < watcher.channels.length)
    (yields : Yields (watcher.witnessed.handle event) before value after) :
    Continues position before after := by
  cases handle_handled yields with
  | ignored same _ =>
      subst after
      exact .refl before
  | started start _ _ updated => exact update_continues inside updated
  | focused _ focused =>
      rcases handleAutofocus_cases focused with
        hushed | ⟨result, card, middle, written, hushed, posted⟩
      · exact .of_hushed hushed
      · exact (Continues.of_hushed hushed).trans
          (post_continues inside (passes_other (Card.topic_autofocus written) _) posted)
  | moved _ kind mount middle asked posted =>
      refine (Continues.of_hushed asked).trans (post_continues inside ?_ posted)
      rw [Scene.targetName?, asked.state]
      exact passes_mountEvent before.state.target mount kind
  | told other posted =>
      exact post_continues inside (passes_other (Card.topic_event other) _) posted

theorem considerEvent_continues {event : Event} {value : Unit}
    (inside : position < watcher.channels.length)
    (yields : Yields (watcher.witnessed.considerEvent watcher.handleNoted event)
      before value after) : Continues position before after := by
  rcases (considerEvent_dealt yields).2 with ⟨rfl, _⟩ | ⟨_, seen, world, _, handled⟩
  · exact .refl after
  · simp only [handleNoted, yields_bind, yields_lift_jot] at handled
    rcases handled with ⟨_, _, rfl, handled⟩
    refine .trans ?_ (handle_continues inside handled)
    exact .of_line (.newEvent event) rfl rfl rfl

theorem pollSequence_continues {value : Unit} (inside : position < watcher.channels.length)
    (yields : Yields watcher.witnessed.pollSequence before value after) :
    Continues position before after := by
  rcases pollSequence_cases yields with
    ⟨fault, world, rfl⟩ | ⟨tree, flipHours, world, _, ⟨rfl, _⟩ | ⟨name, _, updated⟩⟩
  · exact .of_line (.sequence (.error (.imaging fault))) rfl rfl rfl
  · exact .of_line (.sequence (.ok tree)) rfl rfl rfl
  · refine .trans ?_ (update_continues inside updated)
    exact .of_line (.sequence (.ok tree)) rfl rfl rfl

theorem handleImage_continues {index : Nat} {image : Image} {value : Unit}
    (inside : position < watcher.channels.length)
    (yields : Yields (watcher.witnessed.handleImage index image) before value after) :
    Continues position before after := by
  have clocks : ∀ readings : List Binary64,
      Journal.cardsAt (readings.map .clock) position = [] :=
    fun readings => List.filterMap_eq_nil_iff.mpr (by simp)
  have listening : watcher.channels ≠ [] := List.ne_nil_of_length_pos (by omega)
  cases handleImage_dealt listening yields with
  | held readings _ reading state journal =>
      refine .of_silent ?_ (by rw [state])
      rw [journal, Journal.cardsAt_append, Journal.cardsAt_append, clocks]
      exact (List.append_nil _).trans (List.append_nil _)
  | reported readings _ sentAt now timestamp answer state journal =>
      refine .of_card (before.imageCard image now timestamp) ?_ ?_
      · have lines : Journal.cardsAt (.clock sentAt :: .thumbnail index answer ::
            deliveries (before.imageCard image now timestamp) (attached index answer) 0
              watcher.channels.length) position = [before.imageCard image now timestamp] :=
          (Journal.cardsAt_deliveries watcher.channels.length 0).trans (if_pos (by omega))
        rw [journal, Journal.cardsAt_append, Journal.cardsAt_append, clocks, lines,
          List.append_nil]
      · have same : after.targetName? = before.targetName? := by
          rw [Scene.targetName?, state, Scene.targetName?]
        rw [same]
        exact (passes_image image before.state.target _ _ now).stampedAt timestamp

theorem considerImage_continues {index : Nat} {image : Image} {value : Unit}
    (inside : position < watcher.channels.length)
    (yields : Yields (watcher.witnessed.considerImage watcher.handleImageNoted index image)
      before value after) : Continues position before after := by
  rcases considerImage_yields yields with ⟨rfl, _⟩ | ⟨seen, world, _, handled⟩
  · exact .refl after
  · refine .trans ?_ (handleImage_continues inside handled)
    exact .of_line (.newImage index image) rfl rfl rfl

/-- The first card of a channel is the welcome, which tells the target that is known. -/
theorem baseline_welcomes {cooldown : Gate} {world : W} {value : Unit}
    (inside : position < watcher.channels.length)
    (yields : Yields watcher.witnessed.baseline (.fresh cooldown world) value after) :
    ∃ welcome, after.journal.cardsAt position = [welcome] ∧ welcome.topic = .welcome ∧
      welcome.announced? = after.targetName? := by
  rcases baseline_cases yields with
    ⟨history, images, _, learned, ready, _, learning, hushed, greeting⟩
  rcases greet_cases greeting with
    ⟨silent, _⟩ | ⟨events, gallery, channels, mount, now, middle, asked, posted⟩
  · exact absurd inside (by simp [silent])
  · rcases post_given inside posted with ⟨timestamp, given, same⟩
    rcases learnSequence_yields learning with ⟨answer, flipHours, sequenceSeen, _, rfl, _⟩
    have quiet := hushed.trans asked
    -- Nothing before the greeting is about a card.
    refine ⟨(Card.welcome ready.state.target events gallery channels ready.state.flipHours mount
      now).stampedAt timestamp, ?_, Card.topic_welcome .., ?_⟩
    · rw [given, quiet.cardsAt]
      rfl
    · rw [Card.announced?_stampedAt, Card.announced?_welcome, same, Scene.targetName?, asked.state]

end Watcher

/-! ## Courses -/

/-- The channel has been welcomed, and the conversation since then tells it the target. -/
def Acquainted (position : Nat) (scene : Scene W) : Prop :=
  ∃ welcome rest, scene.journal.cardsAt position = welcome :: rest ∧ welcome.topic = .welcome ∧
    Conversation welcome.announced? rest ∧
    lastAnnounced welcome.announced? rest = scene.targetName?

namespace Acquainted

variable {watcher : Watcher (StateM W)} {position : Nat}

theorem begin {start : Scene W} (inside : position < watcher.channels.length)
    (begins : Begins watcher start) : Acquainted position start := by
  rcases begins with ⟨_, _, _, _, yields⟩
  rcases Watcher.baseline_welcomes inside yields with ⟨welcome, cards, topic, announced⟩
  exact ⟨welcome, [], cards, topic, trivial, announced⟩

theorem extend {before after : Scene W} (acquainted : Acquainted position before)
    (continues : Continues position before after) : Acquainted position after := by
  rcases acquainted with ⟨welcome, rest, cards, topic, conversation, last⟩
  rcases continues with ⟨more, given, later, next⟩
  refine ⟨welcome, rest ++ more, by rw [given, cards, List.cons_append], topic, ?_, ?_⟩
  · rw [conversation_append, last]
    exact ⟨conversation, later⟩
  · rw [lastAnnounced_append, last, next]

end Acquainted

theorem Step.continues {watcher : Watcher (StateM W)} {position : Nat} {earlier later : Stage W}
    (inside : position < watcher.channels.length) (taken : Step watcher earlier later) :
    Continues position earlier.scene later.scene := by
  cases taken with
  | sequence yields => exact Watcher.pollSequence_continues inside yields
  | events yields =>
      rcases Watcher.historyOrNone_yields yields with ⟨answer, world, rfl, rfl⟩
      exact .of_line (.events (answer.mapError .imaging)) rfl rfl rfl
  | images yields =>
      rcases Watcher.historyOrNone_yields yields with ⟨answer, world, rfl, rfl⟩
      exact .of_line (.images (answer.mapError .imaging)) rfl rfl rfl
  | event yields => exact Watcher.considerEvent_continues inside yields
  | image yields => exact Watcher.considerImage_continues inside yields
  | pause yields =>
      rcases ends_perform_noted.mp yields with ⟨world, _, rfl⟩
      exact .of_line (.pause watcher.pollInterval) rfl rfl rfl

theorem Acquainted.of_reached {watcher : Watcher (StateM W)} {position : Nat} {stage : Stage W}
    (inside : position < watcher.channels.length) (reached : Reached watcher stage) :
    Acquainted position stage.scene :=
  reached.induction (motive := fun stage => Acquainted position stage.scene)
    (fun _ begins => .begin inside begins)
    (fun _ _ taken kept => kept.extend (taken.continues inside))

/-- What a channel reads on its cards is what the monitor knows about the target. The first card
is the welcome and no other one is. At every stage the name announced last, by the welcome or by a
card about a target, is that of the target; none was announced if there is none. Every card after
the welcome suits those before it: one that tells of a change names the target announced last and
another one that takes its place, a first target is told of only while none was announced, and
so at most once, and cards of images and of the mount show the name announced last, or no name. -/
theorem chat_knows_target {watcher : Watcher (StateM W)} {stage : Stage W} {position : Nat}
    (inside : position < watcher.channels.length) (reached : Reached watcher stage) :
    ∃ welcome rest, stage.scene.journal.cardsAt position = welcome :: rest ∧
      welcome.topic = .welcome ∧
      lastAnnounced none (welcome :: rest) = stage.scene.state.target.map Target.name ∧
      (∀ early card late, rest = early ++ card :: late →
        Suits (lastAnnounced none (welcome :: early)) card) ∧
      (rest.filter (·.topic = .started)).length ≤ 1 ∧
      ((∃ card ∈ rest, card.topic = .started) → welcome.announced? = none) := by
  rcases Acquainted.of_reached inside reached with
    ⟨welcome, rest, cards, topic, conversation, last⟩
  have from_welcome : ∀ early, lastAnnounced none (welcome :: early) =
      lastAnnounced welcome.announced? early := by
    intro early
    simp [lastAnnounced]
  refine ⟨welcome, rest, cards, topic, ?_, ?_, conversation.length_started_le, ?_⟩
  · rw [from_welcome]
    exact last
  · rintro early card late rfl
    rw [from_welcome]
    exact conversation.suits
  · rintro ⟨card, member, started⟩
    by_contra known
    have none_started := conversation.started_eq_nil (Option.isSome_iff_ne_none.mpr known)
    exact List.filter_eq_nil_iff.mp none_started card member (by simpa using started)

namespace Dictation

/-- A target that the sequence shows first, and another one that is announced after the mount was
parked. -/
def changing : Dictation where
  events := [.ok [], .ok [plain "1" Kind.parked, announcement "2" "M31"]]
  images := [.ok [], .ok [photo "1"]]
  sequences := [.ok [], .ok (working "M42")]
  readings := []

def afterChanging : Stage Dictation :=
  ⟨after (changing.start 1) 1 [.sequence, .events, .images], []⟩

end Dictation

theorem chat_knows_target_changing :
    0 < (Dictation.watcher 1).channels.length ∧
      Reached (Dictation.watcher 1) Dictation.afterChanging ∧
      ∃ welcome rest, Dictation.afterChanging.scene.journal.cardsAt 0 = welcome :: rest ∧
        rest.map Card.topic = [.started, .mount, .changed, .image] ∧
        lastAnnounced none (welcome :: rest) = some "M31" ∧
        welcome.announced? = none ∧
        ∀ early card late, rest = early ++ card :: late →
          Suits (lastAnnounced none (welcome :: early)) card := by
  have inside : 0 < (Dictation.watcher 1).channels.length := by decide
  have reached : Reached (Dictation.watcher 1) Dictation.afterChanging :=
    ⟨_, Dictation.begins (by decide +kernel), Dictation.leads (by decide +kernel)⟩
  rcases chat_knows_target inside reached with
    ⟨welcome, rest, cards, _, last, suits, _, unannounced⟩
  have topics : (Dictation.afterChanging.scene.journal.cardsAt 0).map Card.topic =
      [.welcome, .started, .mount, .changed, .image] := by decide +kernel
  have name : Dictation.afterChanging.scene.state.target.map Target.name = some "M31" := by
    decide +kernel
  rw [cards, List.map_cons, List.cons.injEq] at topics
  refine ⟨inside, reached, welcome, rest, cards, topics.2, last.trans name, unannounced ?_, suits⟩
  exact List.mem_map.mp (topics.2 ▸ List.mem_cons_self)

end ObservatoryWatch.Monitor
