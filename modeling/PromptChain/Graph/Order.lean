/-
# An order in which everything waits for what comes before

Every id starts with the number of dependencies it waits for.  Ids that wait for none are put in a
queue; taking an id from the queue places it in the order and counts down the ids that wait for
it, and an id whose count runs out joins the queue.

An id leaves the waiting list for good when it joins the queue, so queue and waiting list together
lose one entry at every step (`length_release`), and the sweep ends.  What is never placed is on a
cycle or behind one.
-/
import PromptChain.Graph.Basic

namespace PromptChain.Graph

/-! ## 1. Counting down -/

/-- Ids with the number of dependencies they still wait for. -/
abbrev Counts := List (String × Nat)

/-- Counts one dependency of an id as placed; an id that waits for no more is taken out. -/
def countDown (id : String) : Counts → Counts
  | [] => []
  | (key, n) :: rest =>
    if key = id then (if n ≤ 1 then rest else (key, n - 1) :: rest)
    else (key, n) :: countDown id rest

/-- Counts down some ids one after the other: the ids that were taken out, and what is left. -/
def release : List String → Counts → List String × Counts
  | [], waiting => ([], waiting)
  | id :: rest, waiting =>
    let fewer := countDown id waiting
    let (released, left) := release rest fewer
    (if fewer.length < waiting.length then id :: released else released, left)

theorem length_countDown_le (id : String) (waiting : Counts) :
    (countDown id waiting).length ≤ waiting.length ∧
      waiting.length ≤ (countDown id waiting).length + 1 := by
  induction waiting with
  | nil => simp [countDown]
  | cons e rest ih =>
    obtain ⟨key, n⟩ := e
    simp only [countDown]
    split
    · split <;> simp
    · simp only [List.length_cons]
      omega

/-- **What is taken out is what is missing afterwards.** -/
theorem length_release (ids : List String) (waiting : Counts) :
    (release ids waiting).1.length + (release ids waiting).2.length = waiting.length := by
  induction ids generalizing waiting with
  | nil => simp [release]
  | cons id rest ih =>
    have hrest := ih (countDown id waiting)
    have hcount := length_countDown_le id waiting
    simp only [release]
    split
    · simp only [List.length_cons]
      omega
    · omega

/-! ## 2. The sweep -/

/-- Places the queue and all that it releases. -/
def sweep (g : Graph) (queue : List String) (waiting : Counts) : List String :=
  match queue with
  | [] => []
  | id :: rest =>
    id :: g.sweep (rest ++ (release (g.dependents id) waiting).1)
      (release (g.dependents id) waiting).2
termination_by queue.length + waiting.length
decreasing_by
  have h := length_release (g.dependents id) waiting
  simp only [List.length_append, List.length_cons]
  omega

/-- How many dependencies an id waits for at the start. -/
def degree (g : Graph) (id : String) : Nat :=
  match g.find? id with
  | some n => (g.knownDependencies n).length
  | none => 0

/-- The ids that wait for something, with how much they wait for. -/
def counts (g : Graph) : Counts :=
  (g.ids.map fun id => (id, g.degree id)).filter fun e => decide (0 < e.2)

/-- The ids that wait for nothing. -/
def sources (g : Graph) : List String := (g.nodes.map (·.id)).filter fun id => g.degree id == 0

/-- Everything that can be placed, in the order of placing. -/
def placed (g : Graph) : List String := g.sweep g.sources g.counts

/-- The ids that could not be placed, in the order of their nodes. -/
def unplaced (g : Graph) : List String :=
  let placed := g.placed
  g.ids.filter fun id => decide (id ∉ placed)

/-- Whether everything was placed. -/
def isOrdered (g : Graph) : Bool := g.placed.length == g.ids.length

/-- An order of all ids in which everything comes after its dependencies, empty when there is
none. -/
def order (g : Graph) : List String :=
  let placed := g.placed
  if placed.length == g.ids.length then placed else []

end PromptChain.Graph
