import ObservatoryWatch.Imaging.Station
import ObservatoryWatch.Proofs.Running
import ObservatoryWatch.Proofs.Transcript

/-!
How often a question is asked.

Attempts follow one another until one of them comes to something terminal or none is left. What is
done between two attempts is always the same: the log is told, and there is a pause that gets longer
from attempt to attempt. The asker is told what the last attempt has come to.
-/

namespace ObservatoryWatch.Imaging

/-- Asking once more would not be of use. -/
def Terminal : Outcome → Prop
  | .ok response => 200 ≤ response.status ∧ response.status < 300 ∨
      400 ≤ response.status ∧ response.status < 500 ∧ response.status ≠ 429
  | .error _ => False

/-- What the asker is told of an outcome that no further attempt follows. -/
inductive Told : Outcome → Except Fault Http.Response → Prop where
  | answered {response : Http.Response} (least : 200 ≤ response.status)
      (bound : response.status < 300) : Told (.ok response) (.ok response)
  | refused {response : Http.Response} {fault : Fault}
      (failed : ¬ (200 ≤ response.status ∧ response.status < 300))
      (category : fault.category? = some .httpStatus)
      (status : fault.statusCode? = some (response.status : Int)) :
      Told (.ok response) (.error fault)
  | unreachable {failure : Http.Failure} {fault : Fault}
      (category : fault.category? = some (if failure.kind.isTimeout then .timeout else .transport))
      (status : fault.statusCode? = none) : Told (.error failure) (.error fault)

theorem isFinal_iff {outcome : Outcome} : isFinal outcome = true ↔ Terminal outcome := by
  cases outcome with
  | error failure => simp [isFinal, Terminal]
  | ok response =>
      simp [isFinal, Terminal, isFinalStatus, Http.Response.isSuccess, and_assoc]

theorem told_settle (query : Query) (outcome : Outcome) : Told outcome (settle query outcome) := by
  cases outcome with
  | error failure => exact .unreachable rfl rfl
  | ok response =>
      cases success : response.isSuccess with
      | true =>
          have bounds : 200 ≤ response.status ∧ response.status < 300 := by
            simpa [Http.Response.isSuccess] using success
          rw [settle, success]
          exact .answered bounds.1 bounds.2
      | false =>
          have failed : ¬ (200 ≤ response.status ∧ response.status < 300) := by
            simpa [Http.Response.isSuccess] using success
          rw [settle, success]
          exact .refused failed rfl rfl

/-- A fault that the asker is told of is one of the exchange itself. -/
theorem Told.categorized {outcome : Outcome} {fault : Fault} (told : Told outcome (.error fault)) :
    fault.category? ≠ none := by
  cases told with
  | refused _ category _ => rw [category]; exact Option.some_ne_none _
  | unreachable category _ => rw [category]; exact Option.some_ne_none _

/-- A warning after an attempt: it calls the question by its subject, says how the attempt has
failed, and tells the number of the next one and how many there can be. -/
inductive Warns (query : Query) (next attempts : Nat) : Outcome → String → Prop where
  | answered (response : Http.Response) : Warns query next attempts (.ok response)
      (query.subject ++ " failed (HTTP " ++ toString response.status ++ "); retrying (attempt " ++
        toString next ++ " of " ++ toString attempts ++ ")")
  | unreachable (failure : Http.Failure) : Warns query next attempts (.error failure)
      (query.subject ++ " request failed (" ++ failure.kind.name ++ "); retrying (attempt " ++
        toString next ++ " of " ++ toString attempts ++ ")")

theorem retryNotice_warns (query : Query) (outcome : Outcome) (next attempts : Nat) :
    Warns query next attempts outcome (retryNotice query outcome next attempts) := by
  have parts (failed number total : String) :
      failed ++ ")" ++ "; retrying (attempt " ++ number ++ " of " ++ total ++ ")" =
        failed ++ "); retrying (attempt " ++ number ++ " of " ++ total ++ ")" := by
    rw [@String.append_assoc failed]
    rfl
  unfold retryNotice
  cases outcome with
  | ok response =>
      dsimp only
      rw [parts]
      exact .answered response
  | error failure =>
      dsimp only
      rw [parts]
      exact .unreachable failure

/-- So many attempts are followed by another one, and the one after them is the last. -/
structure Repeated (script : Nat → Outcome) (retries count : Nat) : Prop where
  bound : count ≤ retries
  before : ∀ attempt < count, ¬ Terminal (script attempt)
  last : Terminal (script count) ∨ count = retries

namespace Repeated

variable {script : Nat → Outcome} {retries count : Nat}

theorem none_of_last (last : Terminal (script 0) ∨ retries = 0) : Repeated script retries 0 where
  bound := Nat.zero_le retries
  before _ bound := absurd bound (Nat.not_lt_zero _)
  last := last.imp_right Eq.symm

theorem succ (first : ¬ Terminal (script 0))
    (later : Repeated (fun attempt => script (attempt + 1)) retries count) :
    Repeated script (retries + 1) (count + 1) where
  bound := Nat.succ_le_succ later.bound
  before attempt bound := by
    cases attempt with
    | zero => exact first
    | succ attempt => exact later.before attempt (Nat.lt_of_succ_lt_succ bound)
  last := later.last.imp_right (congrArg Nat.succ)

end Repeated

/-! ## One attempt -/

section

variable (script : Nat → Outcome) (client : Http.Client) (access : Access) (query : Query)

/-- An attempt as it is noted. -/
def attemptNote (attempt : Nat) : Note :=
  .exchange 0 (access.request query) (.ok (script attempt))

/-- The log is warned that an attempt has failed. -/
def warningNote (warning : Nat → String) (attempt : Nat) : Note := .log (.warning (warning attempt))

/-- What the log is told after each attempt that another one follows. -/
def notice (attempts attempt : Nat) : String :=
  retryNotice query (script attempt) (attempt + 2) attempts

def pauseNote (attempt : Nat) : Note := .pause (access.retryDelay * .ofNat attempt)

/-- What comes before an attempt: a pause, unless it is the first one. -/
def pauseBefore (attempt : Nat) : Transcript :=
  if 0 < attempt then [pauseNote access attempt] else []

/-- An attempt that is followed by another one, with all that comes between the two. -/
def repeatedAttempt (warning : Nat → String) (attempt : Nat) : Transcript :=
  [attemptNote script access query attempt, warningNote warning attempt,
    pauseNote access (attempt + 1)]

/-- The imaging station whose answers are laid down, with its transcript. -/
abbrev answeringStation : World (Transcribed Nat) := transcribed 0 (answering script)

theorem pause_run {α : Type} (attempt : Nat) (transcript : Transcript)
    (next : Unit → Action (Transcribed Nat) α) :
    (if 0 < attempt then (answeringStation script).sleep (access.pause attempt) >>= next
      else next ()).run.run (attempt, transcript) =
      (next ()).run.run (attempt, transcript ++ pauseBefore access attempt) := by
  unfold pauseBefore
  by_cases again : 0 < attempt
  · rw [if_pos again, if_pos again]
    rfl
  · rw [if_neg again, if_neg again, List.append_nil]

/-- An attempt with so many others left: it is the last one, or the log is told and the next one
follows. -/
theorem askFrom_run (attempt left : Nat) (transcript : Transcript) :
    (askFrom (answeringStation script) client access query attempt (left + 1)).run.run
        (attempt, transcript) =
      if isFinal (script attempt) || left == 0 then
        ((settle query (script attempt)).mapError .imaging, attempt + 1,
          transcript ++ pauseBefore access attempt ++ [attemptNote script access query attempt])
      else
        (askFrom (answeringStation script) client access query (attempt + 1) left).run.run
          (attempt + 1, transcript ++ pauseBefore access attempt ++
            [attemptNote script access query attempt] ++
            [warningNote (notice script query access.attempts) attempt]) := by
  have exchanged : ((answeringStation script).exchange client (access.request query)).run.run
      (attempt, transcript ++ pauseBefore access attempt) =
      (.ok (script attempt), attempt + 1, transcript ++ pauseBefore access attempt ++
        [attemptNote script access query attempt]) := rfl
  rw [askFrom]
  refine (pause_run script access attempt transcript _).trans ?_
  rw [run_bind_ok exchanged]
  cases isFinal (script attempt) || left == 0 with
  | true => exact run_ofExcept _ _
  | false => rfl

/-! ## All attempts -/

/-- From any attempt on, what has come of the last attempt is what the asker is told. -/
theorem askFrom_repeated (left attempt : Nat) (transcript : Transcript) :
    ∃ count, Repeated (fun later => script (attempt + later)) left count ∧
      (askFrom (answeringStation script) client access query attempt (left + 1)).run.run
          (attempt, transcript) =
        ((settle query (script (attempt + count))).mapError .imaging, attempt + count + 1,
          transcript ++ pauseBefore access attempt ++
            (List.range' attempt count).flatMap
              (repeatedAttempt script access query (notice script query access.attempts)) ++
            [attemptNote script access query (attempt + count)]) := by
  induction left generalizing attempt transcript with
  | zero =>
      refine ⟨0, .none_of_last (.inr rfl), ?_⟩
      rw [askFrom_run, if_pos (by simp)]
      simp
  | succ left induction =>
      by_cases terminal : Terminal (script attempt)
      · refine ⟨0, .none_of_last (.inl terminal), ?_⟩
        rw [askFrom_run, if_pos (by simp [isFinal_iff.mpr terminal])]
        simp
      · have final : isFinal (script attempt) = false :=
          Bool.eq_false_iff.mpr (mt isFinal_iff.mp terminal)
        rw [askFrom_run, if_neg (by simp [final])]
        rcases induction (attempt + 1) (transcript ++ pauseBefore access attempt ++
          [attemptNote script access query attempt] ++
          [warningNote (notice script query access.attempts) attempt]) with ⟨count, later, ran⟩
        have repeated : Repeated (fun next => script (attempt + (next + 1))) left count := by
          simpa [Nat.add_comm, Nat.add_left_comm] using later
        refine ⟨count + 1, .succ terminal repeated, ?_⟩
        have shifted : attempt + 1 + count = attempt + (count + 1) := by omega
        rw [ran, shifted, List.range'_succ, List.flatMap_cons]
        simp [pauseBefore, repeatedAttempt]

end

/-- A question that may be repeated so many times is asked until an attempt comes to something
terminal or no repetition is left. Between two attempts the log is warned, with the number of the
next one out of all that there can be, and there is a pause as many times the delay as there were
attempts. What the asker is told describes the last attempt; that nothing was tried is never told. -/
theorem question_repeated_until_terminal (script : Nat → Outcome) (retries : Nat)
    (client : Http.Client) (access : Access) (query : Query) :
    ∃ count told, ∃ warning : Nat → String, Repeated script retries count ∧
      (∀ attempt, Warns query (attempt + 2) (retries + 1) (script attempt) (warning attempt)) ∧
      (ask (answeringStation script) client { access with retries } query).run.run (0, []) =
        (told.mapError .imaging, count + 1,
          (List.range count).flatMap (repeatedAttempt script access query warning) ++
            [attemptNote script access query count]) ∧
      Told (script count) told ∧ told ≠ .error (.untried query) := by
  rcases askFrom_repeated script client { access with retries } query retries 0 [] with
    ⟨count, repeated, ran⟩
  have attempts : ({ access with retries } : Access).attempts = retries + 1 := Int.toNat_natCast _
  simp only [Nat.zero_add] at repeated ran
  refine ⟨count, settle query (script count), notice script query (retries + 1), repeated,
    fun attempt => retryNotice_warns query _ _ _, ?_, told_settle query _, ?_⟩
  · rw [ask, attempts, ran, attempts, List.range_eq_range']
    rfl
  · intro untried
    have told := told_settle query (script count)
    rw [untried] at told
    exact told.categorized rfl

end ObservatoryWatch.Imaging
