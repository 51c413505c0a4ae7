/-
# Phases

A node, and a run as a whole, begins pending, then runs, and then is completed or has failed.  A
lifecycle is the present phase with the moves that led to it.  A move that the phases do not allow
is rejected and changes nothing.

The phases have an order (`Phase.rank`) that every move follows upwards (`rank_lt_of_mem_next`), so
a lifecycle makes at most two moves.
-/
import PromptChain.Text.Quoted

namespace PromptChain

/-! ## 1. Phases -/

/-- Where a node or a run stands. -/
inductive Phase where
  | pending
  | running
  | completed
  | failed
  deriving DecidableEq, Repr

namespace Phase

/-- The phases that may come next, in the order of their names. -/
def next : Phase → List Phase
  | pending => [running]
  | running => [completed, failed]
  | completed => []
  | failed => []

/-- Whether nothing comes next. -/
def isFinal (p : Phase) : Bool := p.next.isEmpty

/-- The name of a phase. -/
def name : Phase → String
  | pending => "PENDING"
  | running => "RUNNING"
  | completed => "COMPLETED"
  | failed => "FAILED"

/-- The phase with a name. -/
def ofName? (s : String) : Option Phase :=
  [pending, running, completed, failed].find? fun p => p.name == s

/-- How far a phase is from the beginning. -/
def rank : Phase → Nat
  | pending => 0
  | running => 1
  | completed => 2
  | failed => 2

/-- **Every move leads on.** -/
theorem rank_lt_of_mem_next {p q : Phase} (h : q ∈ p.next) : p.rank < q.rank := by
  cases p <;> cases q <;> simp_all [next, rank]

@[simp] theorem ofName?_name (p : Phase) : ofName? p.name = some p := by
  cases p <;> decide +kernel

end Phase

/-! ## 2. Lifecycles -/

/-- A move from one phase to another. -/
structure Move where
  source : Phase
  target : Phase
  reason : Option String := none
  deriving DecidableEq, Repr

/-- A move that the phases do not allow. -/
structure Rejection where
  source : Phase
  target : Phase
  deriving DecidableEq, Repr

/-- The sentence for a rejected move. -/
def Rejection.message (r : Rejection) : String :=
  "Invalid state transition from " ++ r.source.name ++ " to " ++ r.target.name ++
    ": Valid transitions: " ++ Text.quotedList (r.source.next.map Phase.name)

/-- A phase and the moves that led to it, the first move first. -/
structure Lifecycle where
  phase : Phase := .pending
  history : List Move := []
  deriving DecidableEq, Repr

namespace Lifecycle

/-- Whether a phase may come next. -/
def allows (l : Lifecycle) (target : Phase) : Bool := l.phase.next.contains target

/-- Moves to a phase. -/
def move (l : Lifecycle) (target : Phase) (reason : Option String := none) :
    Except Rejection Lifecycle :=
  if l.allows target then .ok ⟨target, l.history ++ [⟨l.phase, target, reason⟩]⟩
  else .error ⟨l.phase, target⟩

/-- Whether the phase is not a final one. -/
def isUnresolved (l : Lifecycle) : Bool := !l.phase.isFinal

/-- **A move succeeds exactly when the present phase allows it.** -/
theorem move_eq_ok_iff {l m : Lifecycle} {target : Phase} {reason : Option String} :
    l.move target reason = .ok m ↔
      target ∈ l.phase.next ∧ m = ⟨target, l.history ++ [⟨l.phase, target, reason⟩]⟩ := by
  simp only [move, allows, List.contains_iff_mem]
  split
  · rename_i h
    simp [h, eq_comm]
  · rename_i h
    simp [h]

end Lifecycle

/-! ## 3. Names that are no phase -/

/-- What a phase is a phase of. -/
inductive Subject where
  | node
  | workflow
  deriving DecidableEq, Repr

/-- The name of the phases of a subject. -/
def Subject.phaseType : Subject → String
  | .node => "NodeState"
  | .workflow => "WorkflowState"

/-- The sentence for a name that no phase of a subject has. -/
def Subject.unknownPhase (s : Subject) (name : String) : String :=
  Text.quoted name ++ " is not a valid " ++ s.phaseType

end PromptChain
