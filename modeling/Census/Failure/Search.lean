import Census.Failure.Kind
/-! Failures that name one another by number, where the links to causes may run in a circle. The
search goes from a failure to its cause, and ends where it comes to a failure again. -/
namespace Census

structure FailureNode where
  kind : FailureKind
  message : String
  cause : Option Nat
deriving Repr

/-- A search under way: the failure to look at, and those that were looked at before. -/
structure CauseSearch where
  current : Option Nat
  seen : List Nat
deriving DecidableEq

namespace CauseSearch

variable {nodes : Array FailureNode} {test : FailureNode → Bool} {s next : CauseSearch}

def start (i : Nat) : CauseSearch :=
  ⟨some i, []⟩

/-- One turn of a search for a failure that passes a test: the end of the search with what it has
found, or the search from the cause on. -/
def turn (nodes : Array FailureNode) (test : FailureNode → Bool) (s : CauseSearch) :
    Option Nat ⊕ CauseSearch :=
  match s.current with
  | none => .inl none
  | some i =>
    if i ∈ s.seen then .inl none
    else
      match nodes[i]? with
      | none => .inl none
      | some node => if test node then .inl (some i) else .inr ⟨node.cause, i :: s.seen⟩

theorem turn_cases (nodes : Array FailureNode) (test : FailureNode → Bool) (s : CauseSearch) :
    (s.turn nodes test = .inl none ∧ ∀ i ∈ s.current, i ∈ s.seen ∨ nodes[i]? = none) ∨
      ∃ i node, s.current = some i ∧ i ∉ s.seen ∧ nodes[i]? = some node ∧
        (test node = true ∧ s.turn nodes test = .inl (some i) ∨
          test node = false ∧ s.turn nodes test = .inr ⟨node.cause, i :: s.seen⟩) := by
  unfold turn
  cases hcurrent : s.current with
  | none => exact .inl ⟨rfl, nofun⟩
  | some i =>
    by_cases hseen : i ∈ s.seen
    · exact .inl ⟨if_pos hseen, by simp [hseen]⟩
    simp only [if_neg hseen]
    cases hnode : nodes[i]? with
    | none => exact .inl ⟨rfl, by rintro _ ⟨⟩; exact .inr hnode⟩
    | some node =>
      refine .inr ⟨i, node, rfl, hseen, hnode, ?_⟩
      cases htest : test node <;> simp [htest]

theorem turn_eq_inr (h : s.turn nodes test = .inr next) :
    ∃ i node, s.current = some i ∧ i ∉ s.seen ∧ nodes[i]? = some node ∧ test node = false ∧
      next = ⟨node.cause, i :: s.seen⟩ := by
  rcases turn_cases nodes test s with ⟨hturn, -⟩ | ⟨i, node, hcurrent, hseen, hnode, hturn⟩
  · cases hturn.symm.trans h
  · rcases hturn with ⟨-, hturn⟩ | ⟨htest, hturn⟩
    · cases hturn.symm.trans h
    · exact ⟨i, node, hcurrent, hseen, hnode, htest, (Sum.inr.inj (hturn.symm.trans h)).symm⟩

def unseen (nodes : Array FailureNode) (s : CauseSearch) : List Nat :=
  (List.range nodes.size).filter (· ∉ s.seen)

theorem unseen_lt_of_turn (h : s.turn nodes test = .inr next) :
    (next.unseen nodes).length < (s.unseen nodes).length := by
  obtain ⟨i, node, -, hseen, hnode, -, rfl⟩ := turn_eq_inr h
  have hrest : unseen nodes ⟨node.cause, i :: s.seen⟩ = (s.unseen nodes).filter (· ≠ i) := by
    simp [unseen, List.filter_filter]
  have hi : i ∈ s.unseen nodes := by
    obtain ⟨hsize, -⟩ := Array.getElem?_eq_some_iff.mp hnode
    simp [unseen, hsize, hseen]
  rw [hrest, List.length_filter_lt_length_iff_exists]
  exact ⟨i, hi, by simp⟩

/-- What a search finds. A turn that does not end it leaves fewer failures to look at. -/
def found (nodes : Array FailureNode) (test : FailureNode → Bool) (s : CauseSearch) : Option Nat :=
  match _h : s.turn nodes test with
  | .inl i => i
  | .inr next => found nodes test next
termination_by (s.unseen nodes).length
decreasing_by exact unseen_lt_of_turn _h

end CauseSearch

namespace FailureNode

def find? (nodes : Array FailureNode) (start : Nat) (kind : FailureKind) : Option Nat :=
  (CauseSearch.start start).found nodes fun node => node.kind.isA kind

def rollbackMessage (save rollback : FailureNode) : String :=
  save.message ++ ": transaction rollback failed: " ++ rollback.message

end FailureNode

end Census
