import ClientBuilder.Validation.Issue

namespace ClientBuilder.Validation

/-- A value, or at least one issue. -/
inductive Checked (α : Type) where
  | ok (value : α)
  | refused (first : Issue) (rest : List Issue)
  deriving Repr, DecidableEq

namespace Checked

variable {α β : Type}

def map (f : α → β) : Checked α → Checked β
  | ok a => ok (f a)
  | refused i is => refused i is

def apply : Checked (α → β) → Checked α → Checked β
  -- The issues of the function come first.
  | ok f, ok a => ok (f a)
  | ok _, refused i is => refused i is
  | refused i is, ok _ => refused i is
  | refused i is, refused j js => refused i (is ++ j :: js)

instance : Functor Checked where
  map := map

instance : Applicative Checked where
  pure := ok
  seq f x := apply f (x ())

def issues : Checked α → List Issue
  | ok _ => []
  | refused i is => i :: is

def value? : Checked α → Option α
  | ok a => some a
  | refused _ _ => none

def fail (cause : Cause) (found : Kind) : Checked α :=
  refused ⟨[], cause, found⟩ []

def within (step : Step) : Checked α → Checked α
  | ok a => ok a
  | refused i is =>
    let outward (i : Issue) : Issue := { i with path := step :: i.path }
    refused (outward i) (is.map outward)

def withIssues (x : Checked α) (more : List Issue) : Checked α :=
  match x, more with
  | x, [] => x
  | ok _, j :: js => refused j js
  | refused i is, js => refused i (is ++ js)

def toExcept (shape : Shape) : Checked α → Except Report α
  | ok a => .ok a
  | refused i is => .error ⟨shape, i :: is⟩

theorem issues_eq_nil_iff (x : Checked α) : x.issues = [] ↔ ∃ a, x = ok a := by
  cases x with
  | ok a => simp [issues]
  | refused i is => simp [issues]

/-- All issues of both parts are kept, in their order. -/
theorem issues_apply (f : Checked (α → β)) (x : Checked α) :
    (apply f x).issues = f.issues ++ x.issues := by
  cases f <;> cases x <;> simp [apply, issues]

end Checked

end ClientBuilder.Validation
