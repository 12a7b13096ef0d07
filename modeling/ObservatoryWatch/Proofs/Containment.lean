import ObservatoryWatch.Command.Execution
import ObservatoryWatch.Proofs.Footprint
import ObservatoryWatch.Proofs.Mirror
import ObservatoryWatch.Proofs.QuietRounds

/-!
Faults of the interface stay where they are met.

Only the two histories of the start are indispensable. Whatever else the interface refuses, the
monitor goes on without it: a phase whose own question is refused leaves everything as it was, and a
card is sent without what could not be had.
-/

namespace ObservatoryWatch.Monitor

open Observatory

variable {W α : Type}

/-! ## Refused questions -/

/-- Asked now, the interface gives no usable answer. -/
def Refuses (action : Action (StateM W) α) (world : W) (fault : Imaging.Fault) : Prop :=
  (action.run.run world).1 = .error (.imaging fault)

theorem Refuses.answered {action : Action (StateM W) α} {world : W} {fault : Imaging.Fault}
    (refused : Refuses action world fault) :
    (action.run.run world).1 = (Except.error fault : Except Imaging.Fault α).mapError .imaging :=
  refused

/-- The watch comes to its end, and nothing is left of it but a line of the journal. -/
def ShrugsOff (entry : Entry) (watch : Watched W α) (before : Scene W) (value : α) : Prop :=
  ∃ world, Yields watch before value ((before.jotted entry).inWorld world)

/-- The question of this phase is refused, and this is the line that tells of it. -/
inductive PhaseRefused (watcher : Watcher (StateM W)) (world : W) (fault : Imaging.Fault) :
    Phase → Entry → Prop where
  | sequence : Refuses watcher.station.sequence world fault →
      PhaseRefused watcher world fault .sequence (.sequence (.error (.imaging fault)))
  | events : Refuses watcher.station.events world fault →
      PhaseRefused watcher world fault .events (.events (.error (.imaging fault)))
  | images : Refuses watcher.station.images world fault →
      PhaseRefused watcher world fault .images (.images (.error (.imaging fault)))

namespace Watcher

variable {watcher : Watcher (StateM W)} {scene : Scene W} {fault : Imaging.Fault}

theorem look_refused {phase : Phase} {entry : Entry}
    (refused : PhaseRefused watcher scene.world fault phase entry) :
    ShrugsOff entry (watcher.witnessed.look phase) scene () := by
  cases refused with
  | sequence refused => exact pollSequence_quiet refused.answered nofun
  | events refused => exact pollEvents_quiet refused.answered nofun
  | images refused => exact pollImages_quiet refused.answered nofun

/-- All phases after one that is refused are gone through as if it had not been there. -/
theorem looks_refused {phase : Phase} {entry : Entry} (rest : List Phase)
    (refused : PhaseRefused watcher scene.world fault phase entry) :
    ∃ world, play ((phase :: rest).forM watcher.witnessed.look) scene =
      play (rest.forM watcher.witnessed.look) ((scene.jotted entry).inWorld world) := by
  rcases look_refused refused with ⟨world, yields⟩
  refine ⟨world, ?_⟩
  have first : play (watcher.witnessed.look phase) scene =
      (.ok (), (scene.jotted entry).inWorld world) := yields
  change play (watcher.witnessed.look phase >>= fun _ => rest.forM _) scene = _
  rw [play_bind, first]

theorem learnSequence_refused (refused : Refuses watcher.station.sequence scene.world fault) :
    ShrugsOff (.sequence (.error (.imaging fault))) watcher.witnessed.learnSequence scene () := by
  rcases attempt_noted_yields .sequence refused.answered with ⟨_, asked⟩
  rcases note_quiet (.warning ("Could not load sequence during initialization: " ++ fault.message))
    with ⟨later, noted⟩
  exact ⟨later, asked.bind noted⟩

theorem mount?_refused (refused : Refuses watcher.station.mount scene.world fault) :
    ShrugsOff (.mount (.error (.imaging fault))) watcher.witnessed.mount? scene none := by
  rcases attempt_noted_yields .mount refused.answered with ⟨_, asked⟩
  rcases note_quiet (.debug ("Mount info unavailable: " ++ fault.message)) with ⟨later, noted⟩
  exact ⟨later, asked.bind (noted.bind yields_unchanged)⟩

theorem handleAutofocus_refused (refused : Refuses watcher.station.autofocus scene.world fault) :
    ShrugsOff (.autofocus (.error (.imaging fault))) watcher.witnessed.handleAutofocus scene
      () := by
  rcases attempt_noted_yields .autofocus refused.answered with ⟨_, asked⟩
  rcases note_quiet (.error ("Failed to fetch autofocus data: " ++ fault.message))
    with ⟨later, noted⟩
  exact ⟨later, asked.bind noted⟩

/-- The card of an image goes out alone if there is no thumbnail to go with it. -/
theorem deliverWithImage_refused (listening : watcher.channels ≠ []) {index : Nat} (card : Card)
    (refused : Refuses (watcher.station.thumbnail index none) scene.world fault) :
    ∃ world, play (Watch.perform (Chat.deliverWithImage watcher.witnessed.world
        watcher.witnessed.channels card (watcher.witnessed.station.thumbnail index none)
        (thumbnailName index))) scene =
      play (Watch.perform (Chat.deliverAll watcher.witnessed.world card none
        watcher.witnessed.channels))
        ((scene.jotted (.thumbnail index (.error (.imaging fault)))).inWorld world) := by
  have asked : play (Watch.perform (watcher.witnessed.station.thumbnail index none).attempt)
      scene = (.ok (.error (.imaging fault)),
        (scene.jotted (.thumbnail index (.error (.imaging fault)))).inWorld
          ((watcher.station.thumbnail index none).run.run scene.world).2) := by
    have heard : ((watcher.station.thumbnail index none).run.run scene.world).1 =
      .error (.imaging fault) := refused
    change play (Watch.perform ((noted (.thumbnail index)
      (watcher.station.thumbnail index none)).attemptFor Fault.failure?)) scene = _
    rw [play_attemptFor, play_noted, heard]
    rfl
  unfold Chat.deliverWithImage
  rw [isEmpty_witnessed listening]
  simp only [Bool.false_eq_true, if_false]
  rw [perform_bind, play_bind, asked]
  dsimp only
  rw [perform_bind, play_bind]
  exact ⟨_, rfl⟩

end Watcher

/-! ## The start -/

/-- One of the two histories of the start is refused. The first three lines of a run are the
questions of its start. -/
inductive RefusedAtStart (fault : Imaging.Fault) : Journal → Prop where
  | events (later : Journal) : RefusedAtStart fault (.events (.error (.imaging fault)) :: later)
  | images (history : List Event) (answer : Except Fault (List Json)) (later : Journal) :
      RefusedAtStart fault
        (.events (.ok history) :: .sequence answer :: .images (.error (.imaging fault)) :: later)

/-- What comes of a run: it ends with the first of its three questions, with the last of them, or
not by a fault of the interface. -/
inductive RunsTo : Except Fault Nat → Journal → Prop where
  | withoutEvents (fault : Fault) : RunsTo (.error fault) [.events (.error fault)]
  | withoutImages (history : List Event) (answer : Except Fault (List Json)) (fault : Fault) :
      RunsTo (.error fault) [.events (.ok history), .sequence answer, .images (.error fault)]
  | contained {outcome : Except Fault Nat} {journal : Journal}
      (other : ∀ fault, outcome ≠ .error (.imaging fault))
      (answered : ∀ fault, ¬ RefusedAtStart fault journal) : RunsTo outcome journal

/-- A run that has not got beyond its second question is not refused one at the start. -/
theorem not_refusedAtStart_of_phases {history : List Event} {lines : Journal}
    (short : Journal.phases lines <+: [.sequence]) (fault : Imaging.Fault) :
    ¬ RefusedAtStart fault (.events (.ok history) :: lines) := by
  intro refused
  cases refused with
  | images _ answer later =>
      have length := short.length_le
      simp [Journal.phases, Entry.phase?] at length

namespace Watcher

variable {m : Type → Type} [Monad m]

/-- What is left of a run when the images are there. -/
def afterImages (watcher : Watcher m) (limit : Option Nat) (images : List Image) : Watch m Nat := do
  watcher.finishBaseline images
  let count := limit.getD endless
  watcher.ticks count
  return count

/-- A run asks three questions before anything else. -/
theorem run_eq [LawfulMonad m] (watcher : Watcher m) (limit : Option Nat) :
    watcher.run limit = (do
      watcher.note (.info "Fetching initial baseline")
      let history ← Watch.perform watcher.station.events
      recordEvents history
      modify fun state => { state with target := Target.latest? history }
      watcher.learnSequence
      let images ← Watch.perform watcher.station.images
      watcher.afterImages limit images) := by
  simp [run, baseline, afterImages, finishBaseline]

/-- A history is recorded up to the first event that there is an objection to. -/
theorem play_recordEvents (history : List Event) (scene : Scene W) :
    play (recordEvents history : Watched W Unit) scene =
      (match history.findSome? Event.objection? with
        | some fault => .error (.record fault)
        | none => .ok (),
      scene.updated fun state =>
        { state with
          seenEvents := (history.takeWhile (·.objection?.isNone)).foldl Seen.addEvent
            state.seenEvents }) := by
  rw [recordEvents, play_bind, play_modify]
  cases history.findSome? Event.objection? <;> rfl

variable {watcher : Watcher (StateM W)}
  (patient : ∀ fault, ¬ Raises (watcher.world.sleep watcher.pollInterval) (.imaging fault))
include patient

/-- But for the two histories of the start, all questions are put so that no fault of the interface
gets through. -/
theorem exposed_of_patient :
    Exposed watcher (fun fault => fault.imaging? = none) fun fault => fault.imaging? = none where
  tolerable _ := id
  delivery _ _ _ _ _ _ passed := by
    rcases eq_interrupted_of_failure? passed with ⟨message, rfl⟩
    rfl
  thumbnail _ _ _ passed := by
    rcases eq_interrupted_of_failure? passed with ⟨message, rfl⟩
    rfl
  mount _ _ passed := passed
  autofocus _ _ passed := passed
  sequence _ _ passed := passed
  events _ _ passed := passed
  images _ _ passed := passed
  sleep fault raised := by
    cases fault with
    | imaging fault => exact absurd raised (patient fault)
    | _ => rfl
  positionChange _ _ _ _ := rfl
  flipHours _ _ _ _ := rfl
  history _ _ _ _ _ _ := rfl

variable {limit : Option Nat} {before after : Scene W} {outcome : Except Fault Nat}
  (history : List Event) (answer : Except Fault (List Json))

theorem afterImages_runs {images : List Image}
    (journal : before.journal = [.events (.ok history), .sequence answer, .images (.ok images)])
    (ended : Ends (watcher.witnessed.afterImages limit images) before outcome after) :
    RunsTo outcome after.journal := by
  have exposed := exposed_of_patient patient
  let footprint : Footprint W := phased watcher.pollInterval fun fault => fault.imaging? = none
  have keeps : footprint.Keeps (rounds (limit.getD endless))
      (watcher.witnessed.afterImages limit images) :=
    footprint.keeps_andThen (exposed.reports.finishBaseline images) fun _ =>
      footprint.keeps_andLast (exposed.looks.ticks exposed.reports _) fun _ =>
        footprint.keeps_pure _
  have fits := keeps before
  have left := footprint.leaves_of_keeps keeps before
  have played : play (watcher.witnessed.afterImages limit images) before = (outcome, after) := ended
  rw [played] at fits left
  refine .contained ?_ ?_
  · rintro fault rfl
    cases fits.1
  · intro fault refused
    rcases left with ⟨_, lines, continued, _⟩
    rw [continued, journal] at refused
    cases refused

theorem askImages_runs (journal : before.journal = [.events (.ok history), .sequence answer])
    (ended : Ends (Watch.perform watcher.witnessed.station.images >>=
      watcher.witnessed.afterImages limit) before outcome after) :
    RunsTo outcome after.journal := by
  have asked := play_noted .images watcher.station.images before
  have played : play (Watch.perform (noted .images watcher.station.images) >>=
    watcher.witnessed.afterImages limit) before = (outcome, after) := ended
  rw [play_bind, asked] at played
  generalize (watcher.station.images.run.run before.world).1 = gallery at played
  cases gallery with
  | error fault =>
      cases played
      have told : before.journal ++ [.images (.error fault)] =
        [.events (.ok history), .sequence answer, .images (.error fault)] := by rw [journal]; rfl
      change RunsTo _ (before.journal ++ [.images (.error fault)])
      rw [told]
      exact .withoutImages history answer fault
  | ok images =>
      refine afterImages_runs patient history answer ?_ played
      change before.journal ++ [.images (.ok images)] = _
      rw [journal]
      rfl

theorem askSequence_runs (journal : before.journal = [.events (.ok history)])
    (ended : Ends (watcher.witnessed.learnSequence >>= fun _ =>
      Watch.perform watcher.witnessed.station.images >>= watcher.witnessed.afterImages limit)
      before outcome after) : RunsTo outcome after.journal := by
  have exposed := exposed_of_patient patient
  have fits := exposed.looks.learnSequence exposed.reports before
  have played : play (watcher.witnessed.learnSequence >>= fun _ => _) before =
    (outcome, after) := ended
  rw [play_bind] at played
  rcases learning : play watcher.witnessed.learnSequence before with ⟨fault | _, learned⟩
  · rw [learning] at played fits
    cases played
    rcases fits with ⟨other, reached, short, lines, continued, phases, _⟩
    refine .contained ?_ ?_
    · rintro fault ⟨⟩
      cases other
    · rw [continued, journal]
      exact not_refusedAtStart_of_phases (phases ▸ short)
  · rw [learning] at played
    rcases learnSequence_yields learning with ⟨answer, _, _, world, rfl, _⟩
    refine askImages_runs patient history (answer.mapError .imaging) ?_ played
    change before.journal ++ [.sequence (answer.mapError .imaging)] = _
    rw [journal]
    rfl

theorem run_runs {gate : Gate} {world : W}
    (ended : Ends (watcher.witnessed.run limit) (.fresh gate world) outcome after) :
    RunsTo outcome after.journal := by
  have played : play (watcher.witnessed.run limit) (.fresh gate world) = (outcome, after) := ended
  rw [run_eq, play_bind] at played
  change play (Watch.perform (noted .events watcher.station.events) >>= _)
    ((Scene.fresh gate world).inWorld _) = _ at played
  rw [play_bind, play_noted] at played
  generalize (watcher.station.events.run.run _).1 = past at played
  cases past with
  | error fault =>
      cases played
      exact .withoutEvents fault
  | ok history =>
      dsimp only at played
      rw [play_bind, play_recordEvents] at played
      cases objected : history.findSome? Event.objection? with
      | some fault =>
          rw [objected] at played
          cases played
          exact .contained nofun (not_refusedAtStart_of_phases List.nil_prefix)
      | none =>
          rw [objected] at played
          dsimp only at played
          rw [play_bind, play_modify] at played
          exact askSequence_runs patient history rfl played

theorem run_refused_iff {gate : Gate} {world : W}
    (ended : Ends (watcher.witnessed.run limit) (.fresh gate world) outcome after)
    (fault : Imaging.Fault) :
    outcome = .error (.imaging fault) ↔ RefusedAtStart fault after.journal := by
  have runs := run_runs patient ended
  generalize after.journal = journal at runs ⊢
  cases runs with
  | withoutEvents other =>
      constructor
      · rintro ⟨⟩
        exact .events []
      · rintro ⟨⟩
        rfl
  | withoutImages history answer other =>
      constructor
      · rintro ⟨⟩
        exact .images history answer []
      · rintro ⟨⟩
        rfl
  | contained other answered =>
      exact ⟨fun same => absurd same (other fault), fun refused => absurd refused (answered fault)⟩

/-- After the refusal nothing is asked any more. -/
theorem length_of_refusedAtStart {gate : Gate} {world : W}
    (ended : Ends (watcher.witnessed.run limit) (.fresh gate world) outcome after)
    {fault : Imaging.Fault} (refused : RefusedAtStart fault after.journal) :
    after.journal.length ≤ 3 := by
  have runs := run_runs patient ended
  generalize after.journal = journal at runs refused ⊢
  cases runs with
  | withoutEvents other => simp
  | withoutImages history answer other => simp
  | contained other answered => exact absurd refused (answered fault)

end Watcher

/-! ## The rounds -/

/-- Beyond the faults of the interface nothing is raised, neither by the surroundings nor by a
conversion of what they tell. -/
def NothingElseRaised (watcher : Watcher (StateM W)) : Prop :=
  Exposed watcher (fun _ => False) fun _ => False

namespace Watcher

variable {watcher : Watcher (StateM W)} {limit : Option Nat} {gate : Gate} {world : W}
  {outcome : Except Fault Nat} {after : Scene W}

theorem rounds_eq (count : Nat) :
    rounds count =
      List.intercalate [.pause] (List.replicate count [.sequence, .events, .images]) := by
  fun_induction rounds count with
  | case1 => rfl
  | case2 => rfl
  | case3 count induction =>
      rw [induction]
      simp [List.replicate_succ, List.intercalate]

/-- A run that ends without a fault has had its start and all its rounds, with the same pause
between each two. -/
theorem run_passes {count : Nat}
    (yields : Yields (watcher.witnessed.run limit) (.fresh gate world) count after) :
    count = limit.getD endless ∧
      after.journal.phases = [.events, .sequence, .images] ++ rounds count ∧
      ∀ seconds, .pause seconds ∈ after.journal → seconds = watcher.pollInterval := by
  have exposed : Exposed watcher (fun _ => True) fun _ => True := {
    tolerable := fun _ _ => trivial
    delivery := fun _ _ _ _ _ _ _ => trivial
    thumbnail := fun _ _ _ _ => trivial
    mount := fun _ _ _ => trivial
    autofocus := fun _ _ _ => trivial
    sequence := fun _ _ _ => trivial
    events := fun _ _ _ => trivial
    images := fun _ _ _ => trivial
    sleep := fun _ _ => trivial
    positionChange := fun _ _ _ _ => trivial
    flipHours := fun _ _ _ _ => trivial
    history := fun _ _ _ _ _ _ => trivial }
  have fits := exposed.run (fun _ _ => trivial) (fun _ _ => trivial) limit (.fresh gate world)
  have played : play (watcher.witnessed.run limit) (.fresh gate world) = (.ok count, after) :=
    yields
  rw [played] at fits
  rcases fits with ⟨lines, continued, phases, pauses⟩
  have whole : after.journal = lines := continued
  simp only [run, yields_bind, yields_pure] at yields
  rcases yields with ⟨_, _, _, _, _, _, same, _⟩
  rw [whole, ← same]
  exact ⟨rfl, phases, pauses⟩

/-- If nothing else is raised, a run comes to its end, unless a history of the start is refused. -/
theorem run_ends (only : NothingElseRaised watcher)
    (ended : Ends (watcher.witnessed.run limit) (.fresh gate world) outcome after) :
    outcome = .ok (limit.getD endless) ∨ ∃ fault, outcome = .error (.imaging fault) := by
  have exposed : Exposed watcher (fun fault => fault.imaging? ≠ none) fun _ => False :=
    only.mono fun _ impossible => impossible.elim
  have fits := exposed.run only.events only.images limit (.fresh gate world)
  have played : play (watcher.witnessed.run limit) (.fresh gate world) = (outcome, after) := ended
  rw [played] at fits
  cases outcome with
  | ok count => exact .inl (congrArg _ (run_passes played).1)
  | error fault =>
      cases fault with
      | imaging fault => exact .inr ⟨fault, rfl⟩
      | _ => exact absurd rfl fits.1

end Watcher

/-! ## The exit code -/

/-- How the program ends by what a run has come to. After a run that was completed the person at the
console is told so, if the console draws it. -/
inductive EndsProgram : Except Fault Nat → Except Fault Command.Ending → Prop where
  | completed {count : Nat} (drawn : Except Fault Unit) :
      EndsProgram (.ok count) (drawn.map fun _ => .done)
  | refused {fault : Imaging.Fault} : EndsProgram (.error (.imaging fault)) (.ok .noBaseline)
  | failed {fault : Fault} (other : fault.imaging? = none) :
      EndsProgram (.error fault) (.error fault)

/-- The exit code for a failed start tells of a fault of the interface, and of nothing else. -/
theorem EndsProgram.code_iff {outcome : Except Fault Nat} {ended : Except Fault Command.Ending}
    (ends : EndsProgram outcome ended) :
    (∃ ending : Command.Ending, ending.code = 4 ∧ ended = .ok ending) ↔
      ∃ fault, outcome = .error (.imaging fault) := by
  cases ends with
  | completed drawn =>
      cases drawn <;> simp [Except.map, Command.Ending.code]
  | refused => exact iff_of_true ⟨.noBaseline, rfl, rfl⟩ ⟨_, rfl⟩
  | failed other =>
      refine iff_of_false (by simp) ?_
      rintro ⟨fault, ⟨⟩⟩
      cases other

theorem watch_ends {watcher : Watcher (StateM W)} {settings : Settings} {limit : Option Nat}
    {gate : Gate} (interval : settings.pollInterval = watcher.pollInterval)
    (fresh : Gate.new? settings.imageCooldown = some gate) (world : W) :
    EndsProgram (playUnseen (watcher.run limit) (.fresh gate) world).1
      ((Command.watch watcher.world settings watcher.channels limit
        watcher.station).run.run world).1 := by
  have same : (⟨watcher.world, watcher.station, watcher.channels, settings.pollInterval⟩ :
    Watcher (StateM W)) = watcher := by rw [interval]
  simp only [Command.watch, fresh, same]
  unfold playUnseen
  rcases ran : ((watcher.run limit).run.run (.fresh gate)).run world with ⟨⟨outcome, state⟩, later⟩
  have lifted : StateT.run (liftM ((watcher.run limit).run.run (.fresh gate)) :
      Action (StateM W) (Except Fault Nat × State)).run world =
        (Except.ok (outcome, state), later) := by
    exact congrArg (fun ended => (Except.ok ended.1, ended.2)) ran
  rw [ExceptT.run_bind, StateT.run_bind, lifted]
  cases outcome with
  | error fault =>
      cases fault with
      | imaging fault => exact .refused
      | _ => exact .failed rfl
  | ok count =>
      rcases drawn : (watcher.world.present (.line ("Completed " ++ toString count ++
        " tick(s); notifications sent=" ++ toString state.notificationsSent))).run.run later
        with ⟨shown, last⟩
      have told := congrArg Prod.fst (run_bind drawn fun _ => pure Command.Ending.done)
      have ending : (proceed shown fun _ => pure Command.Ending.done : Action (StateM W) _).run.run
          last = (shown.map fun _ => .done, last) := by
        cases shown <;> rfl
      rw [ending] at told
      exact told ▸ .completed shown

/-- The program ends with its exit code for a failed start exactly if a run ends by a fault of the
interface. -/
theorem watch_code_iff {watcher : Watcher (StateM W)} {settings : Settings} {limit : Option Nat}
    {gate : Gate} (interval : settings.pollInterval = watcher.pollInterval)
    (fresh : Gate.new? settings.imageCooldown = some gate) {world : W}
    {outcome : Except Fault Nat} {after : Scene W}
    (ended : Ends (watcher.witnessed.run limit) (.fresh gate world) outcome after) :
    (∃ ending : Command.Ending, ending.code = 4 ∧
      ((Command.watch watcher.world settings watcher.channels limit
        watcher.station).run.run world).1 = .ok ending) ↔
      ∃ fault, outcome = .error (.imaging fault) := by
  have unseen := watcher.witnessed_run_mirrors limit (.fresh gate world)
  have played : play (watcher.witnessed.run limit) (.fresh gate world) = (outcome, after) := ended
  rw [played] at unseen
  have same : (playUnseen (watcher.run limit) (.fresh gate) world).1 = outcome :=
    congrArg Prod.fst unseen
  rw [← same]
  exact (watch_ends interval fresh world).code_iff

/-! ## Containment -/

/-- What a refusal comes to at this point, whichever question it is that is refused. -/
structure Contained (watcher : Watcher (StateM W)) (scene : Scene W) (fault : Imaging.Fault) :
    Prop where
  phase {phase : Phase} {entry : Entry} :
    PhaseRefused watcher scene.world fault phase entry →
      ShrugsOff entry (watcher.witnessed.look phase) scene ()
  phasesAfter {phase : Phase} {entry : Entry} (rest : List Phase) :
    PhaseRefused watcher scene.world fault phase entry →
      ∃ world, play ((phase :: rest).forM watcher.witnessed.look) scene =
        play (rest.forM watcher.witnessed.look) ((scene.jotted entry).inWorld world)
  sequenceAtStart : Refuses watcher.station.sequence scene.world fault →
    ShrugsOff (.sequence (.error (.imaging fault))) watcher.witnessed.learnSequence scene ()
  mount : Refuses watcher.station.mount scene.world fault →
    ShrugsOff (.mount (.error (.imaging fault))) watcher.witnessed.mount? scene none
  autofocus : Refuses watcher.station.autofocus scene.world fault →
    ShrugsOff (.autofocus (.error (.imaging fault))) watcher.witnessed.handleAutofocus scene ()
  thumbnail {index : Nat} (card : Card) : watcher.channels ≠ [] →
    Refuses (watcher.station.thumbnail index none) scene.world fault →
      ∃ world, play (Watch.perform (Chat.deliverWithImage watcher.witnessed.world
          watcher.witnessed.channels card (watcher.witnessed.station.thumbnail index none)
          (Watcher.thumbnailName index))) scene =
        play (Watch.perform (Chat.deliverAll watcher.witnessed.world card none
          watcher.witnessed.channels))
          ((scene.jotted (.thumbnail index (.error (.imaging fault)))).inWorld world)

theorem refusals_contained (watcher : Watcher (StateM W)) (scene : Scene W)
    (fault : Imaging.Fault) : Contained watcher scene fault where
  phase := Watcher.look_refused
  phasesAfter := Watcher.looks_refused
  sequenceAtStart := Watcher.learnSequence_refused
  mount := Watcher.mount?_refused
  autofocus := Watcher.handleAutofocus_refused
  thumbnail card listening := Watcher.deliverWithImage_refused listening card

/-- A fault of the interface ends a run if and only if one of the two histories of its start is
refused, and then nothing is asked after it; so no round makes the program end with the exit code
for a failed start. Every other refusal is contained where it is met. A run that ends without a
fault has had its start and so many rounds with a pause between each two, and a run in which nothing
else is raised does so, unless its start is refused. -/
theorem api_failures_are_contained {watcher : Watcher (StateM W)}
    (patient : ∀ fault, ¬ Raises (watcher.world.sleep watcher.pollInterval) (.imaging fault))
    {gate : Gate} {limit : Option Nat} {world : W} {outcome : Except Fault Nat} {after : Scene W}
    (ended : Ends (watcher.witnessed.run limit) (.fresh gate world) outcome after) :
    (∀ fault, (outcome = .error (.imaging fault) ↔ RefusedAtStart fault after.journal) ∧
        (RefusedAtStart fault after.journal → after.journal.length ≤ 3)) ∧
      (∀ settings : Settings, settings.pollInterval = watcher.pollInterval →
        Gate.new? settings.imageCooldown = some gate →
        ((∃ ending : Command.Ending, ending.code = 4 ∧
          ((Command.watch watcher.world settings watcher.channels limit
            watcher.station).run.run world).1 = .ok ending) ↔
          ∃ fault, RefusedAtStart fault after.journal)) ∧
      (∀ scene fault, Contained watcher scene fault) ∧
      (∀ count, outcome = .ok count →
        count = limit.getD Watcher.endless ∧
          after.journal.phases = [.events, .sequence, .images] ++
            List.intercalate [.pause] (List.replicate count [.sequence, .events, .images]) ∧
          ∀ seconds, .pause seconds ∈ after.journal → seconds = watcher.pollInterval) ∧
      (NothingElseRaised watcher → ∀ count, limit = some count →
        outcome = .ok count ∨ ∃ fault, RefusedAtStart fault after.journal) := by
  have refused := Watcher.run_refused_iff patient ended
  refine ⟨fun fault => ⟨refused fault, Watcher.length_of_refusedAtStart patient ended⟩, ?_,
    refusals_contained watcher, ?_, ?_⟩
  · intro settings interval fresh
    rw [watch_code_iff interval fresh ended]
    exact exists_congr refused
  · rintro count rfl
    have passes := Watcher.run_passes ended
    rw [Watcher.rounds_eq] at passes
    exact passes
  · rintro only count rfl
    rcases Watcher.run_ends only ended with done | ⟨fault, failed⟩
    · exact .inl done
    · exact .inr ⟨fault, (refused fault).mp failed⟩

namespace Dictation

/-- A monitor that is told two histories and nothing else. -/
def taciturn : Watcher (StateM Dictation) :=
  { watcher 1 with
    station := { station with
      events := pure [announcement "1" "M31"]
      images := pure [photo "1"]
      sequence := throw refusal } }

theorem not_raises_pure {α : Type} (value : α) (fault : Fault) :
    ¬ Raises (pure value : Action (StateM Dictation) α) fault := by
  rintro ⟨_, ⟨⟩⟩

theorem eq_refusal_of_raises {α : Type} {fault : Fault}
    (raised : Raises (throw refusal : Action (StateM Dictation) α) fault) : fault = refusal := by
  rcases raised with ⟨_, ⟨⟩⟩
  rfl

theorem taciturn_raises_nothing_else : NothingElseRaised taciturn where
  tolerable _ := id
  delivery each member _ image fault raised _ := by
    rcases List.eq_of_mem_replicate member with rfl
    cases image <;> exact not_raises_pure () fault raised
  thumbnail _ fault raised passed := by
    rcases eq_refusal_of_raises raised with rfl
    cases passed
  mount fault raised passed := by
    rcases eq_refusal_of_raises raised with rfl
    cases passed
  autofocus fault raised passed := by
    rcases eq_refusal_of_raises raised with rfl
    cases passed
  sequence fault raised passed := by
    rcases eq_refusal_of_raises raised with rfl
    cases passed
  events fault raised _ := not_raises_pure _ fault raised
  images fault raised _ := not_raises_pure _ fault raised
  sleep fault raised := not_raises_pure () fault raised
  positionChange := by rintro _ ⟨_, ⟨⟩⟩
  flipHours := by rintro _ ⟨_, ⟨⟩⟩
  history := by
    rintro _ ⟨_, ⟨⟩⟩ event member fault objected
    rcases List.mem_singleton.mp member with rfl
    cases objected

/-- Settings under which the monitors of this observatory run. -/
def settings : Settings :=
  ⟨"http://127.0.0.1", .ofNat 30, 0, (watcher 1).pollInterval, minute, false, none, false, none,
    none, none, none, "info"⟩

/-- Two rounds of a monitor before which images cannot be had for once. -/
def twoRounds (watcher : Watcher (StateM Dictation)) : Except Fault Nat × Scene Dictation :=
  play (watcher.witnessed.run (some 2)) (.fresh gate ⟨[.ok []], [.error refusal], [], []⟩)

/-- How the program ends after these rounds. -/
def endingOfRounds (watcher : Watcher (StateM Dictation)) : Except Fault Command.Ending :=
  ((Command.watch watcher.world settings watcher.channels (some 2) watcher.station).run.run
    ⟨[.ok []], [.error refusal], [], []⟩).1

end Dictation

theorem api_failures_are_contained_taciturn :
    (Dictation.twoRounds Dictation.taciturn).1 = .ok 2 ∧
      (Dictation.twoRounds Dictation.taciturn).2.journal.phases =
        [.events, .sequence, .images, .sequence, .events, .images, .pause, .sequence, .events,
          .images] ∧
      (Dictation.twoRounds (Dictation.watcher 1)).1 = .error Dictation.refusal ∧
      ∃ ending : Command.Ending, ending.code = 4 ∧
        Dictation.endingOfRounds (Dictation.watcher 1) = .ok ending := by
  have patient (seconds : Binary64) (fault : Imaging.Fault) :
      ¬ Raises (Dictation.world.sleep seconds) (.imaging fault) :=
    Dictation.not_raises_pure () (.imaging fault)
  have done : Ends (Dictation.taciturn.witnessed.run (some 2)) _
      (Dictation.twoRounds Dictation.taciturn).1 (Dictation.twoRounds Dictation.taciturn).2 :=
    ends_play _ _
  have failed : Ends ((Dictation.watcher 1).witnessed.run (some 2)) _
      (Dictation.twoRounds (Dictation.watcher 1)).1 (Dictation.twoRounds (Dictation.watcher 1)).2 :=
    ends_play _ _
  rcases api_failures_are_contained (patient _) done with ⟨refused, _, _, rounds, ends⟩
  rcases api_failures_are_contained (patient _) failed with ⟨refusedToo, codes, _⟩
  have finished : (Dictation.twoRounds Dictation.taciturn).1 = .ok 2 := by
    rcases ends Dictation.taciturn_raises_nothing_else 2 rfl with finished | ⟨fault, start⟩
    · exact finished
    · have long : ¬ (Dictation.twoRounds Dictation.taciturn).2.journal.length ≤ 3 := by
        decide +kernel
      exact absurd ((refused fault).2 start) long
  have start : RefusedAtStart (.untried .events)
      (Dictation.twoRounds (Dictation.watcher 1)).2.journal := .images _ _ _
  refine ⟨finished, ?_, (refusedToo _).1.mpr start, ?_⟩
  · rw [(rounds 2 finished).2.1]
    rfl
  · have fresh : Gate.new? Dictation.settings.imageCooldown = some Dictation.gate := by
      dsimp only [Dictation.settings]
      exact Dictation.gate_fresh
    exact (codes Dictation.settings rfl fresh).mpr ⟨_, start⟩

end ObservatoryWatch.Monitor
