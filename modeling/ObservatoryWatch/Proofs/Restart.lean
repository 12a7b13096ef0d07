import Mathlib.Data.List.Chain
import Mathlib.Data.List.Infix
import ObservatoryWatch.Proofs.QuietRounds
import ObservatoryWatch.Proofs.TargetOrigin

/-!
Restarting and watching.

A monitor that is started late takes its target from the whole history at once. One that was
started early has met the same events one after the other, with looks at the sequence in between.
Where the times of the history go up, both come to the same name: that of the last announcement,
or else the one that the sequence shows.
-/

namespace ObservatoryWatch

open Observatory

namespace Target

/-! ## One more event -/

theorem latest?_append_silent {events : List Event} {event : Event}
    (silent : announcedBy? event = none) : latest? (events ++ [event]) = latest? events := by
  simp [latest?, laterStart, silent]

/-- An announcement after all the others is the latest one. -/
theorem latest?_append_announcement {events : List Event} {event : Event} {start : TargetStart}
    (later : ∀ earlier ∈ events, earlier.time < event.time)
    (announced : announcedBy? event = some start) :
    latest? (events ++ [event]) = some (.announced start) := by
  cases found : events.foldl laterStart none with
  | none => simp [latest?, laterStart, announced, found]
  | some entry =>
      rcases entry with ⟨time, former⟩
      rcases exists_of_foldl_laterStart found with none | ⟨earlier, member, rfl, _⟩
      · cases none
      · simp [latest?, laterStart, announced, found, later earlier member]

theorem changesNothing_of_announcedBy? {event : Event} {start : TargetStart}
    (announced : announcedBy? event = some start) : event.changesNothing = false := by
  rcases Option.bind_eq_some_iff.mp (announcedBy?_eq_some.mp announced).1 with
    ⟨details, found, isStart⟩
  cases details with
  | filterChange change => cases isStart
  | targetStart start => simp [Event.changesNothing, Event.change?, found, Details.change?]

theorem afterEvent_of_silent {current : Option Target} {event : Event}
    (silent : announcedBy? event = none) : afterEvent current event = current := by
  unfold afterEvent
  rw [silent]
  exact ite_self current

/-- A target that was heard of gives its name to the target, whether it takes its place or not. -/
theorem name_renewed (current : Option Target) (target : Target) :
    (renewed current target).map name = some target.name := by
  unfold renewed
  split
  next known =>
    cases current with
    | none => cases known
    | some former => exact congrArg some (beq_iff_eq.mp known)
  next => rfl

/-- The name that the sequence shows, if it can be had and shows one. -/
def shown? (answer : Except Imaging.Fault (List Json)) : Option String :=
  answer.toOption.bind Sequence.target?

/-- The target after the sequence was asked for. -/
def afterAnswer (current : Option Target) : Except Imaging.Fault (List Json) → Option Target
  | .ok tree => afterSequence current tree
  | .error _ => current

end Target

namespace Monitor

variable {W V : Type} {watcher : Watcher (StateM W)} {other : Watcher (StateM V)}

/-! ## Orderly histories -/

/-- The times of the events go up, and only the starts of targets have details of one. -/
structure Orderly (history : List Event) : Prop where
  times : history.Pairwise fun earlier later => earlier.time < later.time
  starts : ∀ event ∈ history, ∀ start, event.start? = some start →
    event.kind = Kind.targetStarted

theorem Orderly.of_prefix {early history : List Event} (orderly : Orderly history)
    (begins : early <+: history) : Orderly early :=
  ⟨orderly.times.sublist begins.sublist,
    fun event member => orderly.starts event (begins.subset member)⟩

/-! ## Keeping up with a history -/

/-- The monitor remembers these events and no other ones. Its target has the name that it would
have after a start with them, and it is what the sequence shows unless it was announced. -/
structure Abreast (answer : Except Imaging.Fault (List Json)) (past : List Event)
    (state : State) : Prop where
  identified : ∀ event ∈ past, event.objection? = none
  seen : ∀ fingerprint, fingerprint ∈ state.seenEvents.fingerprints ↔
    fingerprint ∈ (telling past).map Event.fingerprint
  name : state.target.map Target.name =
    ((Target.latest? past).map Target.name).or (Target.shown? answer)
  shown : ∀ name, state.target = some (.sequenced name) → Target.shown? answer = some name

namespace Abreast

variable {answer : Except Imaging.Fault (List Json)} {past : List Event}

theorem frame {before after : State} (abreast : Abreast answer past before)
    (seenEvents : after.seenEvents = before.seenEvents) (target : after.target = before.target) :
    Abreast answer past after :=
  ⟨abreast.identified, seenEvents ▸ abreast.seen, target ▸ abreast.name, target ▸ abreast.shown⟩

/-- A start takes the name from the history, or else from the sequence. -/
theorem of_started {before after : Scene W} {images : List Image}
    (started : Started before after past (answer.mapError .imaging) images)
    (unaware : before.state.seenEvents = .empty) : Abreast answer past after.state := by
  have target : after.state.target =
      (Target.latest? past).or ((Target.shown? answer).map .sequenced) := by
    rw [started.target, Target.atStart, toOption_mapError]
    rfl
  refine ⟨started.identified, ?_, ?_, ?_⟩
  · intro fingerprint
    rw [started.seenEvents, unaware, Seen.mem_foldl_addEvent]
    simp [Seen.empty]
  · rw [target]
    cases Target.latest? past <;> cases Target.shown? answer <;> rfl
  · intro name same
    rw [target] at same
    cases latest : Target.latest? past with
    | none =>
        rw [latest, Option.none_or, Option.map_eq_some_iff] at same
        rcases same with ⟨_, shown, equal⟩
        cases equal
        exact shown
    | some found =>
        rcases Option.map_eq_some_iff.mp latest with ⟨_, _, announced⟩
        rw [latest, Option.some_or, ← announced] at same
        cases same

/-- The same answer about the sequence is no news. -/
theorem afterAnswer_eq {state : State} (abreast : Abreast answer past state) :
    Target.afterAnswer state.target answer = state.target := by
  cases answer with
  | error fault => rfl
  | ok tree =>
      rcases Target.afterSequence_cases state.target tree with same | ⟨name, shown, changed⟩
      · exact same
      · have known : Target.shown? (.ok tree) = some name := shown
        change Target.afterSequence state.target tree = state.target
        rw [changed]
        cases current : state.target with
        | none =>
            have unnamed := abreast.name
            rw [current, known] at unnamed
            cases (Option.or_eq_none_iff.mp unnamed.symm).2
        | some target =>
            cases target with
            | sequenced former =>
                have same := (abreast.shown former current).symm.trans known
                cases same
                rfl
            | announced start =>
                rw [current, Target.afterSequence_of_announced rfl] at changed
                cases changed

/-- An event that is passed over for saying nothing announces nothing. -/
theorem append_silent {state : State} {event : Event} (abreast : Abreast answer past state)
    (identified : event.objection? = none) (silent : event.changesNothing = true) : Abreast answer (past ++ [event]) state := by
  have unannounced : Target.announcedBy? event = none := by
    cases announced : Target.announcedBy? event with
    | none => rfl
    | some start => rw [Target.changesNothing_of_announcedBy? announced] at silent; cases silent
  refine ⟨?_, ?_, ?_, abreast.shown⟩
  · exact List.forall_mem_append.mpr
      ⟨abreast.identified, List.forall_mem_singleton.mpr identified⟩
  · rw [telling_append, telling_singleton, silent, if_pos rfl, List.append_nil]
    exact abreast.seen
  · rw [Target.latest?_append_silent unannounced]
    exact abreast.name

/-- An event that is dealt with is remembered, and what it announces gives the name. -/
theorem append_told {before after : State} {event : Event} {seen : Seen}
    (abreast : Abreast answer past before) (orderly : Orderly (past ++ [event]))
    (identified : event.objection? = none) (telling : event.changesNothing = false)
    (added : before.seenEvents.add? event.fingerprint = some seen)
    (remembered : after.seenEvents = seen)
    (target : after.target = Target.afterEvent before.target event) :
    Abreast answer (past ++ [event]) after := by
  have last : event ∈ past ++ [event] := by simp
  refine ⟨?_, ?_, ?_, ?_⟩
  · exact List.forall_mem_append.mpr
      ⟨abreast.identified, List.forall_mem_singleton.mpr identified⟩
  · intro fingerprint
    rw [remembered, (Seen.add?_eq_some.mp added).2, List.mem_cons, abreast.seen, telling_append,
      telling_singleton, telling, if_neg Bool.false_ne_true, List.map_append, List.mem_append,
      or_comm, List.map_singleton, List.mem_singleton]
  · rw [target]
    cases announced : Target.announcedBy? event with
    | none =>
        rw [Target.afterEvent_of_silent announced, Target.latest?_append_silent announced]
        exact abreast.name
    | some start =>
        -- Only the start of a target has such details, so the event is heard and not passed over.
        have started := Target.announcedBy?_eq_some.mp announced
        have announces : Target.Announces event start :=
          Target.announces_of_announcedBy? (orderly.starts event last start started.1) announced
        have later : ∀ earlier ∈ past, earlier.time < event.time := fun earlier member =>
          (List.pairwise_append.mp orderly.times).2.2 earlier member event (by simp)
        rw [Target.afterEvent_of_announces announces, Target.name_renewed,
          Target.latest?_append_announcement later announced]
        rfl
  · intro name same
    rw [target] at same
    rcases Target.afterEvent_cases before.target event with unchanged | ⟨start, _, changed⟩
    · exact abreast.shown name (unchanged ▸ same)
    · rw [changed] at same
      cases same

/-- The next event of an orderly history is a new one, and so it is dealt with. -/
theorem considerEvent {event : Event} {before after : Scene W} {value : Unit}
    (abreast : Abreast answer past before.state) (orderly : Orderly (past ++ [event]))
    (yields : Yields (watcher.witnessed.considerEvent watcher.witnessed.handle event)
      before value after) : Abreast answer (past ++ [event]) after.state := by
  rcases Watcher.considerEvent_dealt yields with
    ⟨identified, ⟨rfl, silent | old⟩ | ⟨telling, seen, world, added, handled⟩⟩
  · exact abreast.append_silent identified silent
  · -- An event with this fingerprint would have come at the same time.
    rcases List.mem_map.mp ((abreast.seen _).mp old) with ⟨earlier, member, same⟩
    have later := (List.pairwise_append.mp orderly.times).2.2 earlier
      (mem_telling.mp member).1 event (by simp)
    have time : earlier.time = event.time := (List.cons.inj same).1
    rw [time] at later
    exact absurd later (String.lt_irrefl event.time)
  · have aside := Watcher.handle_aside handled
    exact abreast.append_told orderly identified telling added aside.seenEvents aside.target

/-- Events that are known already are gone through without effect. -/
theorem forM_of_known (early late : List Event) {before after : Scene W} {value : PUnit}
    (known : KnowsEvents early before.state.seenEvents)
    (yields : Yields ((early ++ late).forM
      (watcher.witnessed.considerEvent watcher.witnessed.handle)) before value after) :
    Yields (late.forM (watcher.witnessed.considerEvent watcher.witnessed.handle))
      before value after := by
  induction early with
  | nil => exact yields
  | cons event rest induction =>
      rcases List.forall_mem_cons.mp known with ⟨old, remaining⟩
      rcases yields_forM_cons.mp yields with ⟨middle, first, worked⟩
      have quiet : Yields (watcher.witnessed.considerEvent watcher.witnessed.handle event)
          before () before := Watcher.considerEvent_quiet old.1 old.2
      cases quiet.symm.trans first
      exact induction remaining worked

theorem forM_considerEvent (rest : List Event) {before after : Scene W} {value : PUnit}
    (abreast : Abreast answer past before.state) (orderly : Orderly (past ++ rest))
    (yields : Yields (rest.forM
      (watcher.witnessed.considerEvent watcher.witnessed.handle)) before value after) :
    Abreast answer (past ++ rest) after.state := by
  induction rest generalizing past before with
  | nil =>
      have same : before = after := yields_forM_nil.mp yields
      subst after
      exact (List.append_nil past).symm ▸ abreast
  | cons event rest induction =>
      rcases yields_forM_cons.mp yields with ⟨middle, first, worked⟩
      rw [List.append_cons] at orderly ⊢
      exact induction (abreast.considerEvent (orderly.of_prefix (List.prefix_append _ _)) first)
        orderly worked

/-! ## Rounds -/

theorem pollSequence {before after : Scene W} {value : Unit}
    (abreast : Abreast answer past before.state)
    (yields : Yields watcher.witnessed.pollSequence before value after)
    (told : ∃ entries, after.journal =
      before.journal ++ .sequence (answer.mapError .imaging) :: entries) :
    Abreast answer past after.state := by
  rcases told with ⟨entries, told⟩
  rcases Watcher.pollSequence_yields yields with ⟨fault, aside⟩ | ⟨tree, flipHours, _, aside⟩
  · exact abreast.frame aside.seenEvents aside.target
  · rcases aside.journal with ⟨rest, journal, _⟩
    have same : (.ok tree : Except Fault (List Json)) = answer.mapError .imaging := by
      rw [journal, Scene.withSequence, Scene.journal_updated, Scene.journal_jotted,
        List.append_assoc] at told
      exact Entry.sequence.inj (List.cons.inj (List.append_cancel_left told)).1
    have unchanged : Target.afterSequence before.state.target tree = before.state.target := by
      cases answer with
      | error fault => cases same
      | ok found =>
          cases same
          exact abreast.afterAnswer_eq
    exact abreast.frame aside.seenEvents (aside.target.trans unchanged)

theorem pollEvents {history : List Event} {before after : Scene W} {value : Unit}
    (abreast : Abreast answer past before.state) (orderly : Orderly history)
    (grows : past <+: history)
    (yields : Yields watcher.witnessed.pollEvents before value after)
    (told : ∃ entries, after.journal =
      before.journal ++ .events (.ok history) :: entries) : Abreast answer history after.state := by
  rcases told with ⟨entries, told⟩
  rcases yields_bind.mp yields with ⟨found, middle, asked, worked⟩
  rcases Watcher.historyOrNone_yields asked with ⟨events, world, rfl, here⟩
  rcases (Heard.of_forM _ worked).journal with ⟨rest, journal, _⟩
  have abreast : Abreast answer past middle.state := here ▸ abreast.frame rfl rfl
  have same : events = .ok history := by
    rw [journal, here, Scene.journal_inWorld, Scene.journal_jotted, List.append_assoc] at told
    have line := Entry.events.inj (List.cons.inj (List.append_cancel_left told)).1
    cases events <;> cases line
    rfl
  subst events
  rcases grows with ⟨fresh, rfl⟩
  have known : KnowsEvents past middle.state.seenEvents := by
    intro event member
    refine ⟨abreast.identified event member, ?_⟩
    cases silent : event.changesNothing with
    | true => exact .inl rfl
    | false =>
        exact .inr ((abreast.seen _).mpr (List.mem_map_of_mem (mem_telling.mpr ⟨member, silent⟩)))
  exact forM_considerEvent fresh abreast orderly (forM_of_known past fresh known worked)

theorem pollImages {before after : Scene W} {value : Unit}
    (abreast : Abreast answer past before.state)
    (yields : Yields watcher.witnessed.pollImages before value after) :
    Abreast answer past after.state := by
  rcases yields_bind.mp yields with ⟨history, middle, asked, worked⟩
  rcases Watcher.historyOrNone_yields asked with ⟨_, world, _, rfl⟩
  have viewed := Viewed.of_forM _ worked
  exact abreast.frame viewed.frame.seenEvents viewed.frame.target

/-- A round that tells the same about the sequence and more of the history keeps up with it. -/
theorem tick {history : List Event} {images : Except Imaging.Fault (List Image)}
    {before after : Scene W} {lines : Journal} (abreast : Abreast answer past before.state)
    (orderly : Orderly history) (grows : past <+: history)
    (yields : Yields watcher.witnessed.tick before () after)
    (journal : after.journal = before.journal ++ lines)
    (told : Answers.Told ⟨answer, .ok history, images⟩ lines) :
    Abreast answer history after.state := by
  rcases Watcher.tick_cases yields with ⟨answers, others, first, second, same, alike, _, looked⟩
  cases List.append_cancel_left (journal.symm.trans same)
  cases told.unique alike
  have shown := abreast.pollSequence looked.sequence looked.sequenceTold
  exact (shown.pollEvents orderly grows looked.events looked.eventsTold).pollImages looked.images

/-- A start that is told this about the sequence and the history is abreast of it. -/
theorem baseline {history : List Event} {images : Except Imaging.Fault (List Image)}
    {gate : Gate} {world : W} {after : Scene W}
    (yields : Yields watcher.witnessed.baseline (.fresh gate world) () after)
    (told : Answers.Told ⟨answer, .ok history, images⟩ after.journal) :
    Abreast answer history after.state := by
  rcases Watcher.baseline_started yields with ⟨events, sequence, gallery, started⟩
  rcases started.journal with ⟨entries, journal, lines⟩
  have looks : after.journal.looks =
      [.events (.ok events), .sequence sequence, .images (.ok gallery)] := by
    rw [journal, Journal.looks_append, Journal.looks_of_aside lines]
    rfl
  have asked : Answers.entries ⟨answer, .ok history, images⟩ ⊆
      [.events (.ok events), .sequence sequence, .images (.ok gallery)] := by
    rw [← looks]
    exact told.symm.subset
  simp only [Answers.entries, List.cons_subset, List.mem_cons, Entry.sequence.injEq,
    Entry.events.injEq, Entry.images.injEq, reduceCtorEq, List.not_mem_nil, or_false, false_or]
    at asked
  rcases asked with ⟨rfl, same, _⟩
  cases same
  exact .of_started started rfl

end Abreast

/-- Rounds one after the other. About the sequence each is told the same, and about the events
these histories in turn. -/
inductive Watches (watcher : Watcher (StateM W)) (answer : Except Imaging.Fault (List Json)) :
    List (List Event) → Scene W → Scene W → Prop where
  | rest (scene : Scene W) : Watches watcher answer [] scene scene
  | round {history : List Event} {later : List (List Event)}
      {images : Except Imaging.Fault (List Image)} {before middle after : Scene W}
      {lines : Journal} (yields : Yields watcher.witnessed.tick before () middle)
      (journal : middle.journal = before.journal ++ lines)
      (told : Answers.Told ⟨answer, .ok history, images⟩ lines)
      (watches : Watches watcher answer later middle after) :
      Watches watcher answer (history :: later) before after

theorem Abreast.watches {answer : Except Imaging.Fault (List Json)} {past history : List Event}
    {histories : List (List Event)} {before after : Scene W}
    (abreast : Abreast answer past before.state)
    (grow : (past :: histories).IsChain (· <+: ·))
    (orderly : ∀ history ∈ histories, Orderly history)
    (last : (past :: histories).getLast? = some history)
    (watches : Watches watcher answer histories before after) :
    Abreast answer history after.state := by
  induction watches generalizing past with
  | rest scene =>
      cases last
      exact abreast
  | round yields journal told watches induction =>
      rcases List.isChain_cons_cons.mp grow with ⟨grows, grow⟩
      rcases List.forall_mem_cons.mp orderly with ⟨first, remaining⟩
      rw [List.getLast?_cons_cons] at last
      exact induction (abreast.tick first grows yields journal told) grow remaining last

/-- Of histories that grow into one another each is the beginning of the last one. -/
theorem isPrefix_of_grow {histories : List (List Event)} {history : List Event}
    (grow : histories.IsChain (· <+: ·)) (last : histories.getLast? = some history) :
    ∀ early ∈ histories, early <+: history := by
  rcases List.getLast?_eq_some_iff.mp last with ⟨others, rfl⟩
  have pairs := (List.isChain_iff_pairwise.mp grow)
  intro early member
  rcases List.mem_append.mp member with member | member
  · exact (List.pairwise_append.mp pairs).2.2 early member history (by simp)
  · rw [List.mem_singleton] at member
    exact member ▸ List.prefix_refl early

/-- Two monitors, one of which starts with a whole history and the other one with nothing of it,
to be told the history in growing parts: if the sequence is answered alike throughout, their
targets end up with the same name. It is the one announced last, or else the one shown. -/
theorem restart_agrees_with_watching {answer : Except Imaging.Fault (List Json)}
    {history : List Event} {histories : List (List Event)}
    {images otherImages : Except Imaging.Fault (List Image)} {gate otherGate : Gate} {world : W}
    {otherWorld : V} {restarted : Scene W} {start watched : Scene V} (orderly : Orderly history)
    (grow : histories.IsChain (· <+: ·)) (last : histories.getLast? = some history)
    (restarts : Yields watcher.witnessed.baseline (.fresh gate world) () restarted)
    (restartTold : Answers.Told ⟨answer, .ok history, images⟩ restarted.journal)
    (starts : Yields other.witnessed.baseline (.fresh otherGate otherWorld) () start)
    (startTold : Answers.Told ⟨answer, .ok [], otherImages⟩ start.journal)
    (watches : Watches other answer histories start watched) :
    restarted.state.target.map Target.name = watched.state.target.map Target.name ∧
      watched.state.target.map Target.name =
        ((Target.latest? history).map Target.name).or (Target.shown? answer) := by
  have atOnce := Abreast.baseline restarts restartTold
  have parts := isPrefix_of_grow grow last
  have growing : ([] :: histories).IsChain (· <+: ·) :=
    List.isChain_cons.mpr ⟨fun early _ => List.nil_prefix, grow⟩
  have all : ([] :: histories).getLast? = some history := by
    rw [List.getLast?_cons, last]
    rfl
  have inTurn := (Abreast.baseline starts startTold).watches growing
    (fun early member => orderly.of_prefix (parts early member)) all watches
  exact ⟨atOnce.name.trans inTurn.name.symm, inTurn.name⟩

namespace Dictation

/-- A target, an instruction set that is none, and something else. -/
def evening : List Event :=
  [announcement "1" "M31", plain "2" "SAFE", announcement "3" "M33",
    announcement "4" Target.instructionSet]

/-- The whole evening is told at once. -/
def late : Dictation where
  events := [.ok evening]
  images := [.ok []]
  sequences := [.ok (working "M42")]
  readings := []

/-- The evening is told bit by bit. -/
def early : Dictation where
  events := [.ok [], .ok (evening.take 2), .ok evening]
  images := [.ok [], .ok [], .error refusal]
  sequences := [.ok (working "M42"), .ok (working "M42"), .ok (working "M42")]
  readings := []

def afterRound (scene : Scene Dictation) : Scene Dictation :=
  past (Dictation.watcher 1).witnessed.tick scene

/-- A round that can be played and was told this is a round of a watch. -/
theorem watches_round {answer : Except Imaging.Fault (List Json)} {history : List Event}
    {later : List (List Event)} (images : Except Imaging.Fault (List Image))
    {before after : Scene Dictation}
    (ended : (play (Dictation.watcher 1).witnessed.tick before).1.toOption = some ())
    (told : Answers.Told ⟨answer, .ok history, images⟩
      ((afterRound before).journal.drop before.journal.length))
    (watches : Watches (Dictation.watcher 1) answer later (afterRound before) after) :
    Watches (Dictation.watcher 1) answer (history :: later) before after := by
  have yields := yields_past ended
  rcases Watcher.tick_settles yields with ⟨_, lines, journal, _⟩
  change (afterRound before).journal = _ at journal
  rw [journal, List.drop_left] at told
  exact .round yields journal told watches

end Dictation

set_option maxRecDepth 4000 in
theorem restart_agrees_with_watching_evening :
    Orderly Dictation.evening ∧
      [Dictation.evening.take 2, Dictation.evening].IsChain (· <+: ·) ∧
      [Dictation.evening.take 2, Dictation.evening].getLast? = some Dictation.evening ∧
      ((Dictation.late.start 0).state.target.map Target.name = some "M33") ∧
      (Dictation.late.start 0).state.target.map Target.name =
        (Dictation.afterRound (Dictation.afterRound (Dictation.early.start 1))).state.target.map
          Target.name := by
  have orderly : Orderly Dictation.evening := ⟨by decide +kernel, by decide +kernel⟩
  have grow : [Dictation.evening.take 2, Dictation.evening].IsChain (· <+: ·) := by
    simp [List.take_prefix]
  have restarts : Yields (Dictation.watcher 0).witnessed.baseline
      (.fresh Dictation.gate Dictation.late) () (Dictation.late.start 0) :=
    Dictation.yields_past (by decide +kernel)
  have starts : Yields (Dictation.watcher 1).witnessed.baseline
      (.fresh Dictation.gate Dictation.early) () (Dictation.early.start 1) :=
    Dictation.yields_past (by decide +kernel)
  have restartTold : Answers.Told ⟨.ok (Dictation.working "M42"), .ok Dictation.evening, .ok []⟩
      (Dictation.late.start 0).journal := .swap _ _ _
  have startTold : Answers.Told ⟨.ok (Dictation.working "M42"), .ok [], .ok []⟩
      (Dictation.early.start 1).journal := .swap _ _ _
  have watches : Watches (Dictation.watcher 1) (.ok (Dictation.working "M42"))
      [Dictation.evening.take 2, Dictation.evening] (Dictation.early.start 1)
      (Dictation.afterRound (Dictation.afterRound (Dictation.early.start 1))) :=
    Dictation.watches_round (.ok []) (by decide +kernel) (.of_eq rfl) <|
      Dictation.watches_round (.error (.untried .events)) (by decide +kernel)
        (.of_eq rfl) (.rest _)
  have agree := restart_agrees_with_watching orderly grow rfl restarts restartTold starts startTold
    watches
  exact ⟨orderly, grow, rfl, by decide +kernel, agree.1⟩

end Monitor

end ObservatoryWatch
