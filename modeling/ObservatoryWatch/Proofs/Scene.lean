import ObservatoryWatch.Proofs.Journal

/-!
Watches as they are played.

A scene holds all that a watch can change: the monitor's memory, the journal, and the
state of the surroundings, which may be anything. Playing a watch leads from a scene to
an outcome and another scene. What a composed watch yields is told by what its parts
yield, so a watch is taken apart by rewriting.
-/

namespace ObservatoryWatch.Monitor

structure Scene (W : Type) where
  state : State
  journal : Journal
  world : W

namespace Scene

variable {W : Type}

def updated (scene : Scene W) (change : State → State) : Scene W :=
  { scene with state := change scene.state }

def jotted (scene : Scene W) (entry : Entry) : Scene W :=
  { scene with journal := scene.journal ++ [entry] }

def inWorld (scene : Scene W) (world : W) : Scene W := { scene with world }

@[simp] theorem state_updated (scene : Scene W) (change : State → State) :
    (scene.updated change).state = change scene.state := rfl

@[simp] theorem journal_updated (scene : Scene W) (change : State → State) :
    (scene.updated change).journal = scene.journal := rfl

@[simp] theorem state_jotted (scene : Scene W) (entry : Entry) :
    (scene.jotted entry).state = scene.state := rfl

@[simp] theorem journal_jotted (scene : Scene W) (entry : Entry) :
    (scene.jotted entry).journal = scene.journal ++ [entry] := rfl

@[simp] theorem state_inWorld (scene : Scene W) (world : W) :
    (scene.inWorld world).state = scene.state := rfl

@[simp] theorem journal_inWorld (scene : Scene W) (world : W) :
    (scene.inWorld world).journal = scene.journal := rfl

end Scene

/-- A watch in surroundings of any kind, under the eyes of a witness. -/
abbrev Watched (W : Type) := Watch (Witnessed (StateM W))

variable {W α β : Type}

/-- The outcome of a watch and the scene that it leaves. -/
def play (watch : Watched W α) (scene : Scene W) : Except Fault α × Scene W :=
  let (((outcome, state), journal), world) :=
    ((watch.run.run scene.state).run scene.journal).run scene.world
  (outcome, ⟨state, journal, world⟩)

/-- The watch ends with this outcome and in that scene. -/
def Ends (watch : Watched W α) (before : Scene W) (outcome : Except Fault α)
    (after : Scene W) : Prop :=
  play watch before = (outcome, after)

/-- The watch ends without a fault, with this value and in that scene. -/
def Yields (watch : Watched W α) (before : Scene W) (value : α) (after : Scene W) : Prop :=
  Ends watch before (.ok value) after

theorem ends_play (watch : Watched W α) (before : Scene W) :
    Ends watch before (play watch before).1 (play watch before).2 := rfl

/-! ## Composition -/

theorem play_bind (first : Watched W α) (next : α → Watched W β) (scene : Scene W) :
    play (first >>= next) scene =
      match play first scene with
      | (.ok value, middle) => play (next value) middle
      | (.error fault, middle) => (.error fault, middle) := by
  unfold play ExceptT.run StateT.run
  simp only [bind, ExceptT.bind, ExceptT.mk, StateT.bind, ExceptT.bindCont]
  rcases first scene.state scene.journal scene.world with ⟨⟨⟨outcome, state⟩, journal⟩, world⟩
  cases outcome <;> rfl

theorem play_get_bind (next : State → Watched W α) (scene : Scene W) :
    play (get >>= next) scene = play (next scene.state) scene := rfl

theorem play_modify (change : State → State) (scene : Scene W) :
    play (modify change : Watched W PUnit) scene = (.ok PUnit.unit, scene.updated change) := rfl

theorem play_noted (entry : Except Fault α → Entry) (action : Action (StateM W) α)
    (scene : Scene W) :
    play (Watch.perform (noted entry action)) scene =
      ((action.run.run scene.world).1,
        (scene.jotted (entry (action.run.run scene.world).1)).inWorld
          (action.run.run scene.world).2) := rfl

theorem play_attemptFor {ε : Type} (select : Fault → Option ε)
    (action : Action (Witnessed (StateM W)) α) (scene : Scene W) :
    play (Watch.perform (action.attemptFor select)) scene =
      (Action.held select (play (Watch.perform action) scene).1,
        (play (Watch.perform action) scene).2) := rfl

@[simp] theorem yields_pure {before after : Scene W} {value result : α} :
    Yields (pure value) before result after ↔ value = result ∧ before = after := by
  change (Except.ok value, before) = (Except.ok result, after) ↔ _
  simp

@[simp] theorem yields_throw {before after : Scene W} {value : α} {fault : Fault} :
    ¬ Yields (throw fault) before value after := by
  change ¬ (Except.error fault, before) = (Except.ok value, after)
  simp

theorem yields_unchanged {scene : Scene W} {value : α} :
    Yields (pure value) scene value scene :=
  yields_pure.mpr ⟨rfl, rfl⟩

theorem yields_bind {first : Watched W α} {next : α → Watched W β} {before after : Scene W}
    {result : β} :
    Yields (first >>= next) before result after ↔
      ∃ value middle, Yields first before value middle ∧
        Yields (next value) middle result after := by
  unfold Yields Ends
  rw [play_bind]
  rcases play first before with ⟨outcome, middle⟩
  cases outcome with
  | error fault => simp
  | ok value =>
      constructor
      · intro yields
        exact ⟨value, middle, rfl, yields⟩
      · rintro ⟨_, _, first, yields⟩
        cases first
        exact yields

/-- Either the first part fails, or it has a value and the next part ends the whole. -/
theorem ends_bind {first : Watched W α} {next : α → Watched W β} {before after : Scene W}
    {outcome : Except Fault β} (ended : Ends (first >>= next) before outcome after) :
    (∃ fault, outcome = .error fault ∧ Ends first before (.error fault) after) ∨
      ∃ value middle, Yields first before value middle ∧
        Ends (next value) middle outcome after := by
  unfold Ends at ended
  rw [play_bind] at ended
  rcases played : play first before with ⟨fault | value, middle⟩ <;> rw [played] at ended
  · cases ended
    exact .inl ⟨fault, rfl, played⟩
  · exact .inr ⟨value, middle, played, ended⟩

theorem Yields.bind {first : Watched W α} {next : α → Watched W β} {before middle after : Scene W}
    {value : α} {result : β} (early : Yields first before value middle)
    (late : Yields (next value) middle result after) :
    Yields (first >>= next) before result after :=
  yields_bind.mpr ⟨value, middle, early, late⟩

theorem yields_map {transform : α → β} {watch : Watched W α} {before after : Scene W}
    {result : β} :
    Yields (transform <$> watch) before result after ↔
      ∃ value, Yields watch before value after ∧ transform value = result := by
  change Yields (watch >>= fun value => pure (transform value)) before result after ↔ _
  rw [yields_bind]
  simp only [yields_pure]
  constructor
  · rintro ⟨value, _, yields, equal, rfl⟩
    exact ⟨value, yields, equal⟩
  · rintro ⟨value, yields, equal⟩
    exact ⟨value, after, yields, equal, rfl⟩

theorem yields_discard {watch : Watched W α} {before after : Scene W} {result : PUnit} :
    Yields (discard watch) before result after ↔ ∃ value, Yields watch before value after := by
  change Yields ((fun _ => PUnit.unit) <$> watch) before result after ↔ _
  rw [yields_map]
  simp

@[simp] theorem yields_forM_nil {act : α → Watched W PUnit} {before after : Scene W}
    {result : PUnit} :
    Yields (forM [] act) before result after ↔ before = after := by
  change Yields (pure PUnit.unit) before result after ↔ _
  simp

theorem yields_forM_cons {act : α → Watched W PUnit} {entry : α} {rest : List α}
    {before after : Scene W} {result : PUnit} :
    Yields (forM (entry :: rest) act) before result after ↔
      ∃ middle, Yields (act entry) before PUnit.unit middle ∧
        Yields (forM rest act) middle result after := by
  change Yields (act entry >>= fun _ => forM rest act) before result after ↔ _
  rw [yields_bind]
  constructor
  · rintro ⟨_, middle, first, yields⟩
    exact ⟨middle, first, yields⟩
  · rintro ⟨middle, first, yields⟩
    exact ⟨_, middle, first, yields⟩

/-- A relation between scenes that composes along lists and holds of each entry holds of all. -/
theorem yields_forM_relates {act : α → Watched W PUnit}
    {motive : List α → Scene W → Scene W → Prop} (none : ∀ scene, motive [] scene scene)
    (one : ∀ {entry before after}, Yields (act entry) before PUnit.unit after →
      motive [entry] before after)
    (append : ∀ {early late before middle after}, motive early before middle →
      motive late middle after → motive (early ++ late) before after)
    (entries : List α) {before after : Scene W} {result : PUnit}
    (yields : Yields (forM entries act) before result after) : motive entries before after := by
  induction entries generalizing before with
  | nil =>
      have same : before = after := yields_forM_nil.mp yields
      subst after
      exact none before
  | cons entry rest induction =>
      rcases yields_forM_cons.mp yields with ⟨middle, first, remaining⟩
      exact append (one first) (induction remaining)

/-- What is done for each entry changes nothing, and so nothing changes. -/
theorem yields_forM_unchanged {act : α → Watched W PUnit} {scene : Scene W} (entries : List α)
    (unchanged : ∀ entry ∈ entries, Yields (act entry) scene () scene) :
    Yields (forM entries act) scene () scene := by
  induction entries with
  | nil => exact yields_forM_nil.mpr rfl
  | cons entry rest induction =>
      rcases List.forall_mem_cons.mp unchanged with ⟨first, remaining⟩
      exact yields_forM_cons.mpr ⟨scene, first, induction remaining⟩

/-! ## The memory -/

@[simp] theorem yields_get {before after : Scene W} {state : State} :
    Yields (get : Watched W State) before state after ↔
      before.state = state ∧ before = after := by
  change (Except.ok before.state, before) = (Except.ok state, after) ↔ _
  simp

theorem yields_state {scene : Scene W} :
    Yields (get : Watched W State) scene scene.state scene :=
  yields_get.mpr ⟨rfl, rfl⟩

@[simp] theorem yields_modify {change : State → State} {before after : Scene W} {value : PUnit} :
    Yields (modify change : Watched W PUnit) before value after ↔
      before.updated change = after := by
  change (Except.ok PUnit.unit, before.updated change) = (Except.ok value, after) ↔ _
  simp

/-! ## The surroundings -/

/-- What the monad below does happens to the journal and the surroundings alone. -/
theorem yields_lift {action : Witnessed (StateM W) α} {before after : Scene W} {value : α} :
    Yields (liftM action : Watched W α) before value after ↔
      ∃ journal world, (action.run before.journal).run before.world = ((value, journal), world) ∧
        { before with journal, world } = after := by
  change (match action before.journal before.world with
    | ((value, journal), world) => (Except.ok value, (⟨before.state, journal, world⟩ : Scene W))) =
      (Except.ok value, after) ↔ _
  unfold StateT.run
  rcases action before.journal before.world with ⟨⟨found, journal⟩, world⟩
  constructor
  · intro equal
    cases equal
    exact ⟨journal, world, rfl, rfl⟩
  · rintro ⟨_, _, same, rfl⟩
    cases same
    rfl

/-- An action of the surroundings that is not noted changes nothing but them. -/
theorem yields_lift_lift {action : StateM W α} {before after : Scene W} {value : α} :
    Yields (liftM (StateT.lift action : Witnessed (StateM W) α) : Watched W α)
        before value after ↔
      ∃ world, action.run before.world = (value, world) ∧ before.inWorld world = after := by
  change ((Except.ok (action before.world).1, before.inWorld (action before.world).2) :
    Except Fault α × Scene W) = (Except.ok value, after) ↔ _
  unfold StateT.run
  rcases action before.world with ⟨found, world⟩
  constructor
  · intro equal
    cases equal
    exact ⟨world, rfl, rfl⟩
  · rintro ⟨_, same, rfl⟩
    cases same
    rfl

theorem yields_lift_jot {entry : Entry} {before after : Scene W} {value : Unit} :
    Yields (liftM (jot entry : Witnessed (StateM W) Unit) : Watched W Unit) before value after ↔
      before.jotted entry = after := by
  change (Except.ok (), before.jotted entry) = (Except.ok value, after) ↔ _
  simp

theorem yields_perform_pure {before after : Scene W} {value result : α} :
    Yields (Watch.perform (pure value)) before result after ↔ value = result ∧ before = after := by
  exact yields_pure

theorem perform_bind {m : Type → Type} [Monad m] [LawfulMonad m] (first : Action m α)
    (next : α → Action m β) :
    Watch.perform (first >>= next) =
      (Watch.perform first >>= fun value => Watch.perform (next value)) := by
  refine ExceptT.ext (StateT.ext fun state => ?_)
  simp only [Watch.perform, ExceptT.run_bind, ExceptT.run_mk, StateT.run_lift, StateT.run_bind,
    bind_assoc, pure_bind]
  -- Only now does it matter whether the first action has failed.
  refine congrArg _ (funext fun outcome => ?_)
  cases outcome with
  | ok value => rfl
  | error fault => simp

theorem yields_perform_bind {first : Action (Witnessed (StateM W)) α}
    {next : α → Action (Witnessed (StateM W)) β} {before after : Scene W} {result : β} :
    Yields (Watch.perform (first >>= next)) before result after ↔
      ∃ value middle, Yields (Watch.perform first) before value middle ∧
        Yields (Watch.perform (next value)) middle result after := by
  rw [perform_bind, yields_bind]

/-- An attempt makes the selected faults part of the value. -/
theorem yields_perform_attemptFor {ε : Type} {select : Fault → Option ε}
    {action : Action (Witnessed (StateM W)) α} {before after : Scene W} {result : Except ε α} :
    Yields (Watch.perform (action.attemptFor select)) before result after ↔
      ∃ outcome, Ends (Watch.perform action) before outcome after ∧
        Action.held select outcome = .ok result := by
  change (match action before.journal before.world with
    | ((outcome, journal), world) =>
      (Action.held select outcome, (⟨before.state, journal, world⟩ : Scene W))) =
      (Except.ok result, after) ↔ ∃ outcome, (match action before.journal before.world with
    | ((outcome, journal), world) =>
      (outcome, (⟨before.state, journal, world⟩ : Scene W))) = (outcome, after) ∧ _
  rcases action before.journal before.world with ⟨⟨outcome, journal⟩, world⟩
  simp only [Prod.mk.injEq]
  constructor
  · rintro ⟨held, same⟩
    exact ⟨outcome, ⟨rfl, same⟩, held⟩
  · rintro ⟨_, ⟨rfl, same⟩, held⟩
    exact ⟨held, same⟩

/-- However an attempt ends, the action has ended so that it does. -/
theorem ends_perform_attemptFor {ε : Type} {select : Fault → Option ε}
    {action : Action (Witnessed (StateM W)) α} {before after : Scene W}
    {result : Except Fault (Except ε α)}
    (ended : Ends (Watch.perform (action.attemptFor select)) before result after) :
    ∃ outcome, Ends (Watch.perform action) before outcome after ∧
      Action.held select outcome = result := by
  unfold Ends at ended
  rw [play_attemptFor] at ended
  have same : (play (Watch.perform action) before).2 = after := congrArg Prod.snd ended
  exact ⟨_, same ▸ ends_play _ before, congrArg Prod.fst ended⟩

/-- A noted action adds its outcome to the journal. -/
theorem ends_perform_noted {entry : Except Fault α → Entry} {action : Action (StateM W) α}
    {before after : Scene W} {outcome : Except Fault α} :
    Ends (Watch.perform (noted entry action)) before outcome after ↔
      ∃ world, action.run.run before.world = (outcome, world) ∧
        (before.jotted (entry outcome)).inWorld world = after := by
  change (match action before.world with
    | (outcome, world) =>
      (outcome, (⟨before.state, before.journal ++ [entry outcome], world⟩ : Scene W))) =
      (outcome, after) ↔ ∃ world, action before.world = _ ∧ _
  rcases action before.world with ⟨found, world⟩
  constructor
  · intro equal
    cases equal
    exact ⟨world, rfl, rfl⟩
  · rintro ⟨_, same, rfl⟩
    cases same
    rfl

/-- A fault by another name leaves as much of a value. -/
theorem toOption_mapError {ε φ : Type} (rename : ε → φ) (outcome : Except ε α) :
    (outcome.mapError rename).toOption = outcome.toOption := by
  cases outcome <;> rfl

/-- What an attempt of a noted action comes to is what was noted. -/
theorem yields_attempt_noted {entry : Except Fault α → Entry} {action : Action (StateM W) α}
    {before after : Scene W} {answer : Except Imaging.Fault α}
    (yields : Yields (Watch.perform (noted entry action).attemptImaging) before answer after) :
    ∃ world, after = (before.jotted (entry (answer.mapError .imaging))).inWorld world := by
  rcases yields_perform_attemptFor.mp yields with ⟨outcome, ended, held⟩
  rcases ends_perform_noted.mp ended with ⟨world, _, rfl⟩
  cases outcome with
  | ok value =>
      cases held
      exact ⟨world, rfl⟩
  | error fault =>
      cases fault <;> cases held
      exact ⟨world, rfl⟩

/-- An attempt of a noted action yields its answer, a fault of the interface included. -/
theorem attempt_noted_yields (entry : Except Fault α → Entry) {action : Action (StateM W) α}
    {before : Scene W} {answer : Except Imaging.Fault α}
    (answered : (action.run.run before.world).1 = answer.mapError .imaging) :
    ∃ world, Yields (Watch.perform (noted entry action).attemptImaging) before answer
      ((before.jotted (entry (answer.mapError .imaging))).inWorld world) := by
  have held : Action.held Fault.imaging? (answer.mapError .imaging) = .ok answer := by
    cases answer <;> rfl
  refine ⟨(action.run.run before.world).2, ?_⟩
  have ended : Ends (Watch.perform (noted entry action)) before (answer.mapError .imaging) _ :=
    ends_perform_noted.mpr ⟨_, Prod.ext answered rfl, rfl⟩
  exact yields_perform_attemptFor.mpr ⟨_, ended, held⟩

end ObservatoryWatch.Monitor
