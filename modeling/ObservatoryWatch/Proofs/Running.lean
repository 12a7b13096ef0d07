import ObservatoryWatch.World

/-!
Actions as they are run.

Run in given surroundings, an action comes to an outcome and leaves other surroundings. What a
composed action comes to is told by what its first part comes to, and so an action is taken apart
by rewriting.
-/

namespace ObservatoryWatch

variable {W α β : Type}

theorem eq_ok_of_toOption {ε : Type} {outcome : Except ε α} {value : α}
    (ended : outcome.toOption = some value) : outcome = .ok value := by
  cases outcome <;> cases ended
  rfl

theorem eq_of_toOption {ε : Type} {ran : Except ε α × W} {value : α}
    (ended : ran.1.toOption = some value) : ran = (.ok value, ran.2) :=
  Prod.ext (eq_ok_of_toOption ended) rfl

/-- Goes on after an outcome, if there is a value to go on with. -/
def proceed {m : Type → Type} [Monad m] (outcome : Except Fault α) (next : α → Action m β) :
    Action m β :=
  .mk (ExceptT.bindCont next outcome)

theorem proceed_ok {m : Type → Type} [Monad m] (value : α) (next : α → Action m β) :
    proceed (.ok value) next = next value := rfl

theorem run_bind {first : Action (StateM W) α} {before after : W} {outcome : Except Fault α}
    (ran : first.run.run before = (outcome, after)) (next : α → Action (StateM W) β) :
    (first >>= next).run.run before = (proceed outcome next).run.run after := by
  change (first.run >>= ExceptT.bindCont next : StateM W _).run before = _
  rw [StateT.run_bind, ran]
  rfl

theorem run_bind_ok {first : Action (StateM W) α} {before after : W} {value : α}
    (ran : first.run.run before = (.ok value, after)) (next : α → Action (StateM W) β) :
    (first >>= next).run.run before = (next value).run.run after :=
  run_bind ran next

theorem run_bind_error {first : Action (StateM W) α} {before after : W} {fault : Fault}
    (ran : first.run.run before = (.error fault, after)) (next : α → Action (StateM W) β) :
    (first >>= next).run.run before = (.error fault, after) :=
  run_bind ran next

theorem run_ofExcept (result : Except Fault α) (world : W) :
    (ofExcept result : Action (StateM W) α).run.run world = (result, world) := by
  cases result <;> rfl

/-! ## Faults that are held back -/

theorem eq_of_failure? {fault chosen : Fault} (failure : fault.failure? = some chosen) :
    chosen = fault := by
  cases fault <;> cases failure <;> rfl

theorem run_attemptFor {ε : Type} {action : Action (StateM W) α} {before after : W}
    {outcome : Except Fault α} (ran : action.run.run before = (outcome, after))
    (select : Fault → Option ε) :
    (action.attemptFor select).run.run before = (Action.held select outcome, after) := by
  change (Action.held select <$> action.run).run before = _
  rw [StateT.run_map, ran]
  rfl

theorem run_attempt_ok {action : Action (StateM W) α} {before after : W} {value : α}
    (ran : action.run.run before = (.ok value, after)) :
    action.attempt.run.run before = (.ok (.ok value), after) :=
  run_attemptFor ran Fault.failure?

theorem run_attempt_failed {action : Action (StateM W) α} {before after : W} {fault : Fault}
    (ran : action.run.run before = (.error fault, after)) (failure : fault.failure? = some fault) :
    action.attempt.run.run before = (.ok (.error fault), after) := by
  have attempted := run_attemptFor ran Fault.failure?
  rw [Action.held, failure] at attempted
  exact attempted

theorem run_attempt_interrupted {action : Action (StateM W) α} {before after : W}
    {message : String} (ran : action.run.run before = (.error (.interrupted message), after)) :
    action.attempt.run.run before = (.error (.interrupted message), after) :=
  run_attemptFor ran Fault.failure?

theorem run_andFinally {action : Action (StateM W) α} {last : Action (StateM W) Unit}
    {before middle after : W} {outcome : Except Fault α}
    (ran : action.run.run before = (outcome, middle))
    (ended : last.run.run middle = (.ok (), after)) :
    (action.andFinally last).run.run before = (outcome, after) := by
  unfold Action.andFinally
  change ((action.run >>= _ : StateM W _)).run _ = _
  rw [StateT.run_bind, ran]
  change ((last.run >>= _ : StateM W _)).run _ = _
  rw [StateT.run_bind, ended]
  rfl

end ObservatoryWatch
