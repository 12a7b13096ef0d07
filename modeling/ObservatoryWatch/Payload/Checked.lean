import ObservatoryWatch.Payload.Problem

/-!
Checking that goes on after a problem.

A `Checked` value is there, or it is missing for a list of problems. Combining
checked parts keeps the problems of all of them in order, so one look at a payload
reports everything that is wrong with it.
-/

namespace ObservatoryWatch.Payload

inductive Checked (α : Type) where
  | valid (value : α)
  | invalid (problems : List Problem)
  deriving Repr

namespace Checked

variable {α β : Type}

def map (transform : α → β) : Checked α → Checked β
  | valid value => valid (transform value)
  | invalid problems => invalid problems

/-- Applies a checked function; if both parts have problems, all of them are kept. -/
def apply (function : Checked (α → β)) (argument : Checked α) : Checked β :=
  match function, argument with
  | valid function, valid value => valid (function value)
  | valid _, invalid problems => invalid problems
  | invalid problems, valid _ => invalid problems
  | invalid first, invalid second => invalid (first ++ second)

instance : Functor Checked := ⟨map, fun value => map fun _ => value⟩

instance : Applicative Checked where
  pure := valid
  seq function argument := apply function (argument ())

@[simp] theorem map_valid (transform : α → β) (value : α) :
    transform <$> valid value = valid (transform value) := rfl

@[simp] theorem seq_valid (function : α → β) (value : α) :
    (valid function <*> valid value) = valid (function value) := rfl

/-- A single problem at the place itself. -/
def complain (complaint : Complaint) : Checked α := invalid [⟨[], complaint⟩]

/-- The same outcome seen from one level further out. -/
def under (step : Step) : Checked α → Checked α
  | valid value => valid value
  | invalid problems => invalid (problems.map (·.under step))

@[simp] theorem under_valid (step : Step) (value : α) :
    (valid value).under step = valid value := rfl

/-- Continues with a further check if there is a value. -/
def andThen (checked : Checked α) (next : α → Checked β) : Checked β :=
  match checked with
  | valid value => next value
  | invalid problems => invalid problems

def value? : Checked α → Option α
  | valid value => some value
  | invalid _ => none

/-- The value, or the rejection of a payload of the named kind. -/
def asResult (model : String) : Checked α → Except Rejection α
  | valid value => .ok value
  | invalid problems => .error ⟨model, problems⟩

end Checked

end ObservatoryWatch.Payload
