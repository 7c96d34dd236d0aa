/-! Faults in the fields of a message. Checks of several fields are joined so that every faulty
field is reported, in the order of the fields. -/
namespace Census

/-- A place inside a message, from the outside in. -/
inductive Step
  | name (s : String)
  | index (i : Nat)
deriving DecidableEq, Repr

inductive FaultKind
  | missing
  | text
  | blank
  | moment
  | float
  | floatText
  | list
  | whole
  | wholeText
  | wholeTooLong
  | wholeFraction
  | notFinite
  | truth
  | truthType
  | model
  | malformed
  | unknownName
deriving DecidableEq, Repr

structure Fault where
  kind : FaultKind
  path : List Step
deriving DecidableEq, Repr

/-- A value, or the faults that stand against it. -/
inductive Checked (α : Type)
  | ok (a : α)
  | error (faults : List Fault)
deriving DecidableEq

namespace Checked

def fault {α : Type} (kind : FaultKind) (name : String) : Checked α :=
  .error [⟨kind, [.name name]⟩]

def map {α β : Type} (f : α → β) : Checked α → Checked β
  | .ok a => .ok (f a)
  | .error e => .error e

/-- Applies a checked function to a checked value; the faults of both are kept. -/
def apply {α β : Type} (f : Checked (α → β)) (x : Checked α) : Checked β :=
  match f, x with
  | .ok f, .ok x => .ok (f x)
  | .ok _, .error e => .error e
  | .error e, .ok _ => .error e
  | .error e, .error e' => .error (e ++ e')

def faultsOf {α : Type} : Checked α → List Fault
  | .ok _ => []
  | .error e => e

def toExcept {α ε : Type} (f : List Fault → ε) : Checked α → Except ε α
  | .ok a => .ok a
  | .error e => .error (f e)

theorem faultsOf_apply {α β : Type} (f : Checked (α → β)) (x : Checked α) :
    (apply f x).faultsOf = f.faultsOf ++ x.faultsOf := by
  cases f <;> cases x <;> simp [apply, faultsOf]

end Checked

end Census
