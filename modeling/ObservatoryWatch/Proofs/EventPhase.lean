import ObservatoryWatch.Proofs.Containment
import ObservatoryWatch.Proofs.Newcomers

/-!
How a look at the events ends.

The surroundings may refuse any question and fail at any card. Even then only two things can end a
look before all events are taken into account. One is an autofocus run whose positions differ by no
finite number, so that its change of position is no whole number. The other one is an event whose
details cannot be written down, so that nothing identifies it. All new events before it were handed
over, and no later event is looked at.
-/

namespace ObservatoryWatch

open Observatory

namespace Observatory.Autofocus

/-- The positions before and after the run differ by a finite number. -/
def isMeasured (result : Autofocus) : Bool :=
  (result.foundPoint.position - result.initialPoint.position).isFinite

/-- Only of runs with a finite difference the change of position is a whole number. -/
theorem isMeasured_iff {result : Autofocus} :
    result.isMeasured = true ↔ ∃ change, result.positionChange = .ok change := by
  unfold isMeasured positionChange
  cases result.foundPoint.position - result.initialPoint.position <;>
    simp [Binary64.isFinite, Number.wholePart]

end Observatory.Autofocus

namespace Monitor

variable {W α : Type}

/-! ## Calm surroundings -/

/-- Questions are answered or refused, and no card is interrupted on its way. -/
structure Calm (watcher : Watcher (StateM W)) : Prop where
  events : ∀ fault, Raises watcher.station.events fault → fault.imaging? ≠ none
  mount : ∀ fault, Raises watcher.station.mount fault → fault.imaging? ≠ none
  autofocus : ∀ fault, Raises watcher.station.autofocus fault → fault.imaging? ≠ none
  thumbnail : ∀ index : Nat, ∀ fault, Raises (watcher.station.thumbnail index none) fault →
    fault.imaging? ≠ none
  delivery : ∀ channel ∈ watcher.channels, ∀ card image message,
    ¬ Raises (channel.deliver card image) (.interrupted message)

theorem answered_of_calm {action : Action (StateM W) α}
    (calm : ∀ fault, Raises action fault → fault.imaging? ≠ none) (world : W) :
    ∃ answer : Except Imaging.Fault α, (action.run.run world).1 = answer.mapError .imaging := by
  cases ended : (action.run.run world).1 with
  | ok value => exact ⟨.ok value, rfl⟩
  | error fault =>
      have refused := calm fault ⟨world, ended⟩
      cases fault with
      | imaging fault => exact ⟨.error fault, rfl⟩
      | _ => exact absurd rfl refused

/-! ## Harmless lines -/

namespace Journal

/-- The autofocus runs that a journal tells of. -/
def focusRuns (journal : Journal) : List Autofocus :=
  journal.filterMap fun
    | .autofocus (.ok result) => some result
    | _ => none

theorem focusRuns_append (early late : Journal) :
    focusRuns (early ++ late) = focusRuns early ++ focusRuns late :=
  List.filterMap_append

end Journal

/-- No event is handed over, and no autofocus run is told of that has no measure. -/
def Entry.isHarmless : Entry → Bool
  | newEvent _ => false
  | autofocus (.ok result) => result.isMeasured
  | _ => true

namespace Journal

variable {lines : Journal} (harmless : ∀ line ∈ lines, line.isHarmless = true)
include harmless

theorem handedEvents_of_harmless : handedEvents lines = [] :=
  filterMap_eq_nil harmless fun line harmless => by
    cases line <;> simp [Entry.isHarmless] at harmless ⊢

theorem isMeasured_of_harmless : ∀ result ∈ focusRuns lines, result.isMeasured = true := by
  intro result member
  rcases List.mem_filterMap.mp member with ⟨line, told, found⟩
  have known := harmless line told
  cases line with
  | autofocus answer =>
      cases answer with
      | ok run =>
          cases found
          exact known
      | error fault => cases found
  | _ => cases found

end Journal

/-- Nothing fails, and the lines that are left are harmless. -/
def harmless : Footprint W where
  Leaves _ before after := ∃ lines, after.journal = before.journal ++ lines ∧
    ∀ line ∈ lines, line.isHarmless = true
  Fails _ := False
  refl _ := ⟨[], (List.append_nil _).symm, by simp⟩
  trans := by
    rintro _ _ first second third ⟨early, left, lines⟩ ⟨late, right, others⟩
    refine ⟨early ++ late, ?_, List.forall_mem_append.mpr ⟨lines, others⟩⟩
    rw [right, left, List.append_assoc]

theorem harmless_of_same {before after : Scene W} (same : after.journal = before.journal) :
    harmless.Leaves [] before after :=
  ⟨[], by rw [same, List.append_nil], by simp⟩

theorem harmless_lift (action : StateM W α) :
    harmless.Keeps [] (liftM (StateT.lift action : Witnessed (StateM W) α) : Watched W α) :=
  fun _ => harmless_of_same rfl

theorem harmless_modify (change : State → State) :
    harmless.Keeps [] (modify change : Watched W PUnit) :=
  fun _ => harmless_of_same rfl

theorem harmless_attempt {ε : Type} {select : Fault → Option ε} {entry : Except Fault α → Entry}
    {action : Action (StateM W) α} (met : ∀ fault, Raises action fault → select fault ≠ none)
    (told : ∀ world, (entry (action.run.run world).1).isHarmless = true) :
    harmless.Keeps [] (Watch.perform ((noted entry action).attemptFor select)) :=
  Footprint.keeps_attempt _ met fun scene =>
    ⟨[_], rfl, List.forall_mem_singleton.mpr (told scene.world)⟩

/-- The watch comes to its end and leaves harmless lines. -/
def GoesWell (watch : Watched W Unit) (before : Scene W) : Prop :=
  ∃ after lines, Yields watch before () after ∧ after.journal = before.journal ++ lines ∧
    ∀ line ∈ lines, line.isHarmless = true

/-- The watch ends with a fault by an autofocus run, of which alone it tells. -/
def Stumbles (watch : Watched W Unit) (before : Scene W) : Prop :=
  ∃ after result conversion, result.positionChange = .error conversion ∧
    Ends watch before (.error (.conversion conversion)) after ∧
    after.journal = before.journal ++ [.autofocus (.ok result)]

theorem goesWell_of_harmless {watch : Watched W Unit} (keeps : harmless.Keeps [] watch)
    (before : Scene W) : GoesWell watch before := by
  have fits := keeps before
  rcases ended : play watch before with ⟨fault | _, after⟩
  · rw [ended] at fits
    exact fits.1.elim
  · rw [ended] at fits
    rcases fits with ⟨lines, journal, harmless⟩
    exact ⟨after, lines, ended, journal, harmless⟩

namespace Watcher

/-- The monitor as it would be if it never heard of autofocus runs. -/
def unfocused (watcher : Watcher (StateM W)) : Watcher (StateM W) :=
  { watcher with
    station := { watcher.station with autofocus := throw (.imaging (.untried .autofocus)) } }

/-- Only when an autofocus run has finished the monitor asks about it. -/
theorem handle_unfocused {watcher : Watcher (StateM W)} {event : Event}
    (other : event.kind ≠ Kind.autofocusFinished) :
    watcher.unfocused.witnessed.handle event = watcher.witnessed.handle event := by
  have unequal : (event.kind == Kind.autofocusFinished) = false := by simpa using other
  unfold handle
  rw [unequal]
  rfl

end Watcher

namespace Calm

variable {watcher : Watcher (StateM W)} (calm : Calm watcher)
include calm

theorem unfocused : Calm watcher.unfocused where
  events := calm.events
  mount := calm.mount
  autofocus fault raised := by
    rcases raised with ⟨_, ⟨⟩⟩
    nofun
  thumbnail := calm.thumbnail
  delivery := calm.delivery

theorem lockstep : Lockstep harmless.alone watcher.witnessed watcher.witnessed where
  channels := rfl
  note _ := harmless_lift _
  clock _ := ⟨[.clock _], rfl, by simp [Entry.isHarmless]⟩
  localTime := harmless_lift _
  timestamp := harmless_lift _
  inspect := Footprint.keeps_get _
  regate _ := harmless_modify _
  deal card image := Footprint.keeps_deal _ (fun _ => harmless_lift _)
    (fun channel member _ => harmless_attempt
      (failure?_of_uninterrupted (calm.delivery channel member card image)) fun _ => rfl)
    (harmless_modify _)
  thumbnail index := harmless_attempt
    (failure?_of_uninterrupted fun _ raised => calm.thumbnail index _ raised rfl) fun _ => rfl

theorem mount_harmless :
    harmless.Keeps [] (Watch.perform watcher.witnessed.station.mount.attemptImaging) :=
  harmless_attempt calm.mount fun _ => rfl

/-- Reports are about finished runs too, so they are those of a monitor that hears of none. -/
theorem reports : Reports harmless.alone (fun _ => False) watcher.unfocused.witnessed
    watcher.unfocused.witnessed := by
  have learning : Learning (harmless (W := W)).alone fun _ => False :=
    Footprint.alone_learning _ (fun _ => id) fun _ _ => harmless_of_same rfl
  have autofocus : harmless.Keeps []
      (Watch.perform watcher.unfocused.witnessed.station.autofocus.attemptImaging) :=
    harmless_attempt calm.unfocused.autofocus fun _ => rfl
  exact calm.unfocused.lockstep.reports calm.unfocused.mount_harmless learning
    (Footprint.asks_of_keeps _ autofocus fun scene answer found result same => by
      subst answer
      cases returns_of_attempt found with
      | intro world returned => cases returned)

/-- What is done for any other event is harmless. -/
theorem handle_harmless {event : Event} (other : event.kind ≠ Kind.autofocusFinished) :
    harmless.Keeps [] (watcher.witnessed.handle event) := by
  rw [← Watcher.handle_unfocused other]
  exact calm.reports.handle event

/-- A finished autofocus run that cannot be had or has a measure is dealt with harmlessly; any other
one is the end of it. -/
theorem handleAutofocus_ends (before : Scene W) :
    GoesWell watcher.witnessed.handleAutofocus before ∨
      Stumbles watcher.witnessed.handleAutofocus before := by
  rcases answered_of_calm calm.autofocus before.world with ⟨answer, answered⟩
  cases answer with
  | error fault =>
      rcases Watcher.handleAutofocus_refused answered with ⟨world, yields⟩
      have line : Entry.isHarmless (.autofocus (.error (.imaging fault))) = true := rfl
      exact .inl ⟨_, [_], yields, rfl, List.forall_mem_singleton.mpr line⟩
  | ok result =>
      rcases attempt_noted_yields .autofocus answered with ⟨world, asked⟩
      let middle : Scene W := (before.jotted (.autofocus (.ok result))).inWorld world
      have heard : play (Watch.perform watcher.witnessed.station.autofocus.attemptImaging) before =
        (.ok (.ok result), middle) := asked
      cases known : result.positionChange with
      | error conversion =>
          refine .inr ⟨middle, result, conversion, known, ?_, rfl⟩
          unfold Ends Watcher.handleAutofocus
          rw [play_bind, heard]
          dsimp only
          rw [known]
          rfl
      | ok change =>
          have rest (record : Log.Record) : harmless.Keeps [] (watcher.witnessed.note record >>=
              fun _ => watcher.witnessed.reportAutofocus result) :=
            Footprint.keeps_andThen _ (calm.lockstep.note record) fun _ =>
              calm.lockstep.reportAutofocus known
          rcases goesWell_of_harmless (rest _) middle with
            ⟨after, lines, reported, journal, harmless⟩
          refine .inl ⟨after, .autofocus (.ok result) :: lines,
            asked.bind ((yields_converted.mpr ⟨known, rfl⟩).bind reported), ?_, ?_⟩
          · rw [journal]
            exact List.append_assoc _ _ _
          · exact List.forall_mem_cons.mpr ⟨Autofocus.isMeasured_iff.mpr ⟨change, known⟩, harmless⟩

end Calm

/-! ## Events -/

/-- What becomes of an event of the history: it is passed over, it is dealt with as new, dealing
with it is broken off at an autofocus run, or it cannot be identified. -/
inductive Considered (event : Event) (before : Scene W) : Except Fault Unit → Scene W → Prop where
  | passed (identified : event.objection? = none)
      (old : event.changesNothing = true ∨
        event.fingerprint ∈ before.state.seenEvents.fingerprints) :
      Considered event before (.ok ()) before
  | dealt {after : Scene W} {seen : Seen} {lines : Journal}
      (identified : event.objection? = none) (telling : event.changesNothing = false)
      (added : before.state.seenEvents.add? event.fingerprint = some seen)
      (known : after.state.seenEvents = seen)
      (journal : after.journal = before.journal ++ .newEvent event :: lines)
      (harmless : ∀ line ∈ lines, line.isHarmless = true) :
      Considered event before (.ok ()) after
  | brokenOff {after : Scene W} {seen : Seen} {result : Autofocus}
      {conversion : Number.ConversionFault}
      (identified : event.objection? = none) (telling : event.changesNothing = false)
      (added : before.state.seenEvents.add? event.fingerprint = some seen)
      (kind : event.kind = Kind.autofocusFinished)
      (unmeasured : result.positionChange = .error conversion)
      (journal : after.journal = before.journal ++ [.newEvent event, .autofocus (.ok result)]) :
      Considered event before (.error (.conversion conversion)) after
  | unidentified {fault : Text.EncodingFault} (objection : event.objection? = some fault) :
      Considered event before (.error (.record fault)) before

namespace Calm

variable {watcher : Watcher (StateM W)} (calm : Calm watcher)
include calm

theorem handle_ends (event : Event) (before : Scene W) :
    GoesWell (watcher.witnessed.handle event) before ∨
      event.kind = Kind.autofocusFinished ∧ Stumbles (watcher.witnessed.handle event) before := by
  by_cases focus : event.kind = Kind.autofocusFinished
  · have same : watcher.witnessed.handle event = watcher.witnessed.handleAutofocus := by
      unfold Watcher.handle
      rw [focus]
      rfl
    rw [same]
    exact (calm.handleAutofocus_ends before).imp_right fun stumbles => ⟨focus, stumbles⟩
  · exact .inl (goesWell_of_harmless (calm.handle_harmless focus) before)

omit calm in
/-- An event that says nothing is passed over before anybody objects to it. -/
theorem changesNothing_of_objection {event : Event} {fault : Text.EncodingFault}
    (objection : event.objection? = some fault) : event.changesNothing = false := by
  cases silent : event.changesNothing with
  | false => rfl
  | true =>
      rw [Event.objection?, silent, if_pos rfl] at objection
      cases objection

omit calm in
/-- A new event is remembered and noted, and then it is dealt with. -/
theorem play_considerEvent_new {event : Event} {before : Scene W} {seen : Seen}
    (identified : event.objection? = none) (telling : event.changesNothing = false)
    (added : before.state.seenEvents.add? event.fingerprint = some seen) :
    ∃ world, play (watcher.witnessed.considerEvent watcher.handleNoted event) before =
      play (watcher.witnessed.handle event)
        (((before.updated fun state => { state with seenEvents := seen }).jotted
          (.newEvent event)).inWorld world) := by
  have checked : play (Watcher.check none) before = (.ok (), before) := rfl
  unfold Watcher.considerEvent
  rw [telling, if_neg Bool.false_ne_true, identified, play_bind, checked]
  dsimp only
  rw [play_get_bind]
  simp only [added]
  rw [play_bind, play_modify]
  exact ⟨_, rfl⟩

theorem considerIdentified_ends {event : Event} {before after : Scene W}
    {outcome : Except Fault Unit} (identified : event.objection? = none)
    (ended : Ends (watcher.witnessed.considerEvent watcher.handleNoted event)
      before outcome after) :
    Considered event before outcome after := by
  have passed (old : event.changesNothing = true ∨
      event.fingerprint ∈ before.state.seenEvents.fingerprints) :
      Considered event before outcome after := by
    cases ended.symm.trans (Watcher.considerEvent_quiet identified old)
    exact .passed identified old
  cases telling : event.changesNothing with
  | true => exact passed (.inl telling)
  | false =>
      cases added : before.state.seenEvents.add? event.fingerprint with
      | none => exact passed (.inr (Seen.add?_eq_none.mp added))
      | some seen =>
          rcases play_considerEvent_new identified telling added with ⟨world, taken⟩
          have ended : play (watcher.witnessed.considerEvent watcher.handleNoted event) before =
            (outcome, after) := ended
          rw [taken] at ended
          rcases calm.handle_ends event _ with
            ⟨last, lines, yields, journal, harmless⟩ |
            ⟨kind, last, result, conversion, unmeasured, broken, journal⟩
          · cases ended.symm.trans yields
            refine .dealt identified telling added (Watcher.handle_aside yields).seenEvents ?_ harmless
            rw [journal]
            exact List.append_assoc _ _ _
          · cases ended.symm.trans broken
            refine .brokenOff identified telling added kind unmeasured ?_
            rw [journal]
            exact List.append_assoc _ _ _

theorem considerEvent_ends {event : Event} {before after : Scene W} {outcome : Except Fault Unit}
    (ended : Ends (watcher.witnessed.considerEvent watcher.handleNoted event)
      before outcome after) :
    Considered event before outcome after := by
  cases objected : event.objection? with
  | none => exact calm.considerIdentified_ends objected ended
  | some fault =>
      have stopped : play (watcher.witnessed.considerEvent watcher.handleNoted event) before =
          (.error (.record fault), before) := by
        unfold Watcher.considerEvent
        rw [changesNothing_of_objection objected, if_neg Bool.false_ne_true, objected]
        rfl
      cases ended.symm.trans stopped
      exact .unidentified objected

end Calm

/-! ## Histories -/

/-- After so many events of a history: all of them could be identified, the new ones among them were
handed over, and all autofocus runs that were heard of have a measure. -/
structure Underway (known : List Fingerprint) (considered : List Event) (lines : Journal)
    (seen : Seen) : Prop where
  identified : ∀ event ∈ considered, event.objection? = none
  tally : Tally Event.fingerprint known (telling considered) lines.handedEvents seen
  measured : ∀ result ∈ lines.focusRuns, result.isMeasured = true

namespace Underway

variable {known : List Fingerprint} {considered : List Event} {past lines : Journal}
  {seen larger : Seen} {event : Event} (underway : Underway known considered past seen)
include underway

theorem identified_append (identified : event.objection? = none) :
    ∀ other ∈ considered ++ [event], other.objection? = none :=
  List.forall_mem_append.mpr ⟨underway.identified, List.forall_mem_singleton.mpr identified⟩

theorem pass (identified : event.objection? = none)
    (old : event.changesNothing = true ∨ event.fingerprint ∈ seen.fingerprints) :
    Underway known (considered ++ [event]) past seen :=
  ⟨underway.identified_append identified, underway.tally.pass_event old, underway.measured⟩

theorem take (identified : event.objection? = none) (tells : event.changesNothing = false)
    (added : seen.add? event.fingerprint = some larger)
    (harmless : ∀ line ∈ lines, line.isHarmless = true) :
    Underway known (considered ++ [event]) (past ++ .newEvent event :: lines) larger := by
  refine ⟨underway.identified_append identified, ?_, ?_⟩
  · have handed : Journal.handedEvents (.newEvent event :: lines) = [event] :=
      congrArg (event :: ·) (Journal.handedEvents_of_harmless harmless)
    rw [Journal.handedEvents_append, handed]
    exact underway.tally.take_event tells added
  · intro result member
    rw [Journal.focusRuns_append, List.mem_append] at member
    cases member with
    | inl earlier => exact underway.measured result earlier
    | inr later => exact Journal.isMeasured_of_harmless harmless result later

end Underway

/-- How a look at a history ends, and what its lines tell. -/
inductive LookedAt (known : List Fingerprint) (history : List Event) (lines : Journal) :
    Except Fault Unit → Prop where
  | whole
      (identified : ∀ event ∈ history, event.objection? = none)
      (measured : ∀ result ∈ lines.focusRuns, result.isMeasured = true)
      (handed : lines.handedEvents = newcomers Event.fingerprint known (telling history)) :
      LookedAt known history lines (.ok ())
  | brokenOff {considered rest : List Event} {event : Event} {early : Journal} {result : Autofocus}
      {conversion : Number.ConversionFault}
      (split : history = considered ++ event :: rest)
      (kind : event.kind = Kind.autofocusFinished)
      (unmeasured : result.positionChange = .error conversion)
      (last : lines = early ++ [.newEvent event, .autofocus (.ok result)])
      (measured : ∀ result ∈ early.focusRuns, result.isMeasured = true)
      (handed : lines.handedEvents =
        newcomers Event.fingerprint known (telling (considered ++ [event]))) :
      LookedAt known history lines (.error (.conversion conversion))
  | unidentified {considered rest : List Event} {event : Event} {fault : Text.EncodingFault}
      (split : history = considered ++ event :: rest)
      (objection : event.objection? = some fault)
      (measured : ∀ result ∈ lines.focusRuns, result.isMeasured = true)
      (handed : lines.handedEvents =
        newcomers Event.fingerprint known (telling considered)) :
      LookedAt known history lines (.error (.record fault))

/-- The induction is on what is left of the history; `Underway` carries it. -/
theorem Calm.history_ends {watcher : Watcher (StateM W)} (calm : Calm watcher)
    (history : List Event) {known : List Fingerprint} {considered : List Event}
    {past : Journal} {before after : Scene W} {outcome : Except Fault Unit}
    (underway : Underway known considered past before.state.seenEvents)
    (ended : Ends (history.forM (watcher.witnessed.considerEvent watcher.handleNoted))
      before outcome after) :
    ∃ lines, after.journal = before.journal ++ lines ∧
      LookedAt known (considered ++ history) (past ++ lines) outcome := by
  induction history generalizing considered past before with
  | nil =>
      cases ended
      refine ⟨[], (List.append_nil _).symm, ?_⟩
      rw [List.append_nil, List.append_nil]
      exact .whole underway.identified underway.measured underway.tally.handed_eq
  | cons event rest induction =>
      have played : play (watcher.witnessed.considerEvent watcher.handleNoted event >>= fun _ =>
        rest.forM (watcher.witnessed.considerEvent watcher.handleNoted)) before =
          (outcome, after) := ended
      rw [play_bind] at played
      have first := calm.considerEvent_ends (ends_play
        (watcher.witnessed.considerEvent watcher.handleNoted event) before)
      generalize play (watcher.witnessed.considerEvent watcher.handleNoted event) before = halfway
        at first played
      rcases halfway with ⟨outcome, middle⟩
      cases first with
      | passed identified old =>
          rw [List.append_cons]
          exact induction (underway.pass identified old) played
      | @dealt _ seen lines identified tells added known journal harmless =>
          rw [List.append_cons]
          subst known
          rcases induction (underway.take identified tells added harmless) played with
            ⟨later, continued, looked⟩
          refine ⟨.newEvent event :: lines ++ later, ?_, ?_⟩
          · rw [continued, journal, List.append_assoc]
          · rw [← List.append_assoc]
            exact looked
      | @brokenOff _ seen result conversion identified tells added kind unmeasured journal =>
          cases played
          have silent : ∀ line ∈ ([] : Journal), line.isHarmless = true := by simp
          have taken := (underway.take identified tells added silent).tally.handed_eq
          refine ⟨_, journal, .brokenOff rfl kind unmeasured rfl underway.measured ?_⟩
          rw [← taken]
          simp [Journal.handedEvents]
      | unidentified objection =>
          cases played
          refine ⟨[], (List.append_nil _).symm, ?_⟩
          rw [List.append_nil]
          exact .unidentified rfl objection underway.measured underway.tally.handed_eq

theorem LookedAt.ok_iff {known : List Fingerprint} {history : List Event} {lines : Journal}
    {outcome : Except Fault Unit} (looked : LookedAt known history lines outcome) :
    outcome = .ok () ↔ (∀ event ∈ history, event.objection? = none) ∧
      ∀ result ∈ lines.focusRuns, result.isMeasured = true := by
  cases looked with
  | whole identified measured handed => exact ⟨fun _ => ⟨identified, measured⟩, fun _ => rfl⟩
  | @brokenOff considered rest event early result conversion split kind unmeasured last _ handed =>
      constructor
      · nofun
      · rintro ⟨_, measured⟩
        have told : result ∈ Journal.focusRuns lines := by
          rw [last, Journal.focusRuns_append]
          exact List.mem_append_right _ (List.mem_singleton_self result)
        rcases Autofocus.isMeasured_iff.mp (measured result told) with ⟨change, known⟩
        cases unmeasured.symm.trans known
  | @unidentified considered rest event fault split objection measured handed =>
      constructor
      · nofun
      · rintro ⟨identified, _⟩
        have member : event ∈ history := by simp [split]
        cases objection.symm.trans (identified event member)

/-- What the interface answers in this world when it is asked for the events. -/
def Watcher.eventsTold (watcher : Watcher (StateM W)) (world : W) : Except Fault (List Event) :=
  (watcher.station.events.run.run world).1

/-- In calm surroundings a look at the events ends without a fault exactly if every event of the
history can be identified and every autofocus run that it hears of has a measure, whatever else it
is told. Then all new events of the history were handed over. Otherwise what ends it is the first
event that cannot be identified, or the first run without a measure, as the result of an event of
the history; up to it all new ones were handed over, and nothing is done after it. -/
theorem events_looked_at_iff_measured {watcher : Watcher (StateM W)} (calm : Calm watcher)
    {before after : Scene W} {outcome : Except Fault Unit}
    (ended : Ends (watcher.phase .events) before outcome after) :
    ∃ lines, after.journal = before.journal ++ .events (watcher.eventsTold before.world) :: lines ∧
      (outcome = .ok () ↔
        (∀ event ∈ (watcher.eventsTold before.world).toOption.getD [], event.objection? = none) ∧
          ∀ result ∈ Journal.focusRuns lines, result.isMeasured = true) ∧
      LookedAt before.state.seenEvents.fingerprints
        ((watcher.eventsTold before.world).toOption.getD []) lines outcome := by
  rcases answered_of_calm calm.events before.world with ⟨answer, answered⟩
  rcases Watcher.historyOrNone_quiet .events "events" answered with ⟨world, asked⟩
  have heard : play (watcher.witnessed.historyOrNone watcher.witnessed.station.events "events")
    before = (.ok (answer.toOption.getD []),
      (before.jotted (.events (answer.mapError .imaging))).inWorld world) := asked
  have played : play (watcher.witnessed.historyOrNone watcher.witnessed.station.events "events" >>=
    fun events => events.forM (watcher.witnessed.considerEvent watcher.handleNoted)) before =
      (outcome, after) := ended
  rw [play_bind, heard] at played
  have start : Underway before.state.seenEvents.fingerprints [] []
      ((before.jotted (.events (answer.mapError .imaging))).inWorld world).state.seenEvents :=
    ⟨by simp, ⟨rfl, by simp [telling]⟩, by simp [Journal.focusRuns]⟩
  rcases calm.history_ends (answer.toOption.getD []) start played with ⟨lines, continued, looked⟩
  have told : watcher.eventsTold before.world = answer.mapError .imaging := answered
  have history : (watcher.eventsTold before.world).toOption.getD [] = answer.toOption.getD [] := by
    rw [told, toOption_mapError]
  rw [← history] at looked
  refine ⟨lines, ?_, looked.ok_iff, looked⟩
  rw [continued, told]
  exact List.append_assoc _ _ _

namespace Dictation

/-- A run by which the focuser has come from one position to another one. -/
def focusing (initial found : Binary64) : Autofocus :=
  ⟨"", "", none, .nan, "", "", "", ⟨initial, .ofNat 1, .ofNat 0⟩, ⟨found, .ofNat 1, .ofNat 0⟩, [],
    .unknown⟩

/-- A run of which nobody knows where it began. -/
def unplaced : Autofocus := focusing .nan (.ofNat 1000)

/-- What the interface tells of such a run. -/
def unplacedReport : Json :=
  .object
    [("InitialFocusPoint", .object [("Position", .string "NaN"), ("Value", .integer 1)]),
      ("CalculatedFocusPoint", .object [("Position", .integer 1000), ("Value", .integer 1)])]

/-- A run has finished, and something else has happened. -/
def focusNews : List Event := [plain "1" Kind.autofocusFinished, plain "2" "SAFE"]

/-- A text of half a character. -/
def half : Text.Ragged := ⟨[.lone ⟨0xD800, by decide⟩], rfl⟩

/-- A target is announced whose name cannot be written down, and something else has happened. -/
def raggedNews : List Event :=
  [⟨"1", Kind.targetStarted, some (.targetStart { targetStart "" with target := .ragged half })⟩,
    plain "2" "SAFE"]

/-- A monitor that hears this news after the start, and of this autofocus run. -/
def focuser (news : List Event) (result : Autofocus) : Watcher (StateM Dictation) :=
  { watcher 1 with
    station := { station with
      events := .mk fun dictation =>
        match dictation.events with
        | [] => (.ok news, dictation)
        | _ :: events => (.ok [], { dictation with events })
      images := pure []
      autofocus := pure result } }

theorem focuser_calm (news : List Event) (result : Autofocus) : Calm (focuser news result) where
  events := by
    rintro fault ⟨⟨events, _⟩, raised⟩
    cases events <;> cases raised
  mount fault raised := by
    rw [eq_refusal_of_raises raised]
    nofun
  autofocus fault raised := absurd raised (not_raises_pure result fault)
  thumbnail _ fault raised := by
    rw [eq_refusal_of_raises raised]
    nofun
  delivery each member _ image message raised := by
    rcases List.eq_of_mem_replicate member with rfl
    cases image <;> exact not_raises_pure () (.interrupted message) raised

def beforeFocusing (news : List Event) (result : Autofocus) : Scene Dictation :=
  past (focuser news result).witnessed.baseline (.fresh gate ⟨[.ok []], [], [], []⟩)

def lookAtFocusing (news : List Event) (result : Autofocus) : Except Fault Unit × Scene Dictation :=
  play ((focuser news result).phase .events) (beforeFocusing news result)

end Dictation

theorem events_looked_at_iff_measured_focusing :
    (Dictation.lookAtFocusing Dictation.focusNews
        (Dictation.focusing (.ofNat 1000) (.ofNat 1020))).1 = .ok () ∧
      (Dictation.lookAtFocusing Dictation.focusNews Dictation.unplaced).1 ≠ .ok () ∧
      (Dictation.lookAtFocusing Dictation.raggedNews Dictation.unplaced).1 ≠ .ok () := by
  have ends (news : List Event) (result : Autofocus)
      (silent : Journal.focusRuns (Dictation.beforeFocusing news result).journal = []) :
      (Dictation.lookAtFocusing news result).1 = .ok () ↔
        (∀ event ∈ news, event.objection? = none) ∧
          ∀ run ∈ Journal.focusRuns (Dictation.lookAtFocusing news result).2.journal,
            run.isMeasured = true := by
    rcases events_looked_at_iff_measured (Dictation.focuser_calm news result)
      (ends_play _ (Dictation.beforeFocusing news result)) with ⟨lines, journal, sound, _⟩
    have told : Journal.focusRuns (Dictation.lookAtFocusing news result).2.journal =
        Journal.focusRuns lines := by
      have all := congrArg Journal.focusRuns journal
      rw [Journal.focusRuns_append, silent] at all
      exact all
    rw [told]
    exact sound
  refine ⟨?_, ?_, ?_⟩
  · exact (ends _ _ (by decide +kernel)).mpr ⟨by decide +kernel, by decide +kernel⟩
  · intro done
    have measured := ((ends _ _ (by decide +kernel)).mp done).2
    exact absurd measured (by decide +kernel)
  · intro done
    have identified := ((ends _ _ (by decide +kernel)).mp done).1
    exact absurd identified (by decide +kernel)

/-- An answer with a position that is not a number is accepted, and the look at the events does not
survive it. -/
theorem look_ended_by_accepted_run :
    ¬ ∀ (watcher : Watcher (StateM Dictation)) before, Calm watcher →
      (∀ result, Returns watcher.station.autofocus result →
        ∃ payload, (Autofocus.decode payload).value? = some result) →
      Reached watcher ⟨before, []⟩ →
        ∃ after, Yields (watcher.phase .events) before () after := by
  intro through
  have accepted : ∀ run,
      Returns (Dictation.focuser Dictation.focusNews Dictation.unplaced).station.autofocus run →
        ∃ payload, (Autofocus.decode payload).value? = some run := by
    rintro run ⟨_, returned⟩
    cases returned
    exact ⟨Dictation.unplacedReport, by decide +kernel⟩
  have reached : Reached (Dictation.focuser Dictation.focusNews Dictation.unplaced)
      ⟨Dictation.beforeFocusing Dictation.focusNews Dictation.unplaced, []⟩ :=
    ⟨_, ⟨Dictation.minute, Dictation.gate, _, Dictation.gate_fresh,
      Dictation.yields_past (by decide +kernel)⟩, .refl⟩
  rcases through _ _ (Dictation.focuser_calm _ _) accepted reached with ⟨after, yields⟩
  have ended : Dictation.lookAtFocusing Dictation.focusNews Dictation.unplaced = (.ok (), after) :=
    yields
  have done : (Dictation.lookAtFocusing Dictation.focusNews
      Dictation.unplaced).1.toOption = some () := by
    rw [ended]
    rfl
  exact absurd done (by decide +kernel)

end Monitor

end ObservatoryWatch
