/-
# Nesting

A node is nested beneath the nearest earlier node that is indented less.  Going through the
indents from the top, the nodes that can still have something nested beneath them form a chain of
ever smaller indents, innermost first: a new node closes every one that is not indented less than
itself, is nested beneath the innermost that is left, and becomes the innermost.
-/
import PromptChain.Script.Entry

namespace PromptChain.Script

/-- The open entries that are indented less than a level, innermost first. -/
def enclosing (opened : List Entry) (indent : Nat) : List Entry :=
  opened.dropWhile fun e => decide (indent ≤ e.indent)

/-- For every entry the id of the one it is nested beneath; `opened` are the open entries before
the first, innermost first. -/
def parentsFrom : List Entry → List Entry → List (Option String)
  | _, [] => []
  | opened, e :: rest =>
    let around := enclosing opened e.indent
    (around.head?.map (·.id)) :: parentsFrom (e :: around) rest

/-- For every entry the id of the one it is nested beneath. -/
def parents (entries : List Entry) : List (Option String) := parentsFrom [] entries

theorem parentsFrom_length (opened entries : List Entry) :
    (parentsFrom opened entries).length = entries.length := by
  induction entries generalizing opened with
  | nil => rfl
  | cons e rest ih => simp [parentsFrom, ih]

/-- Every entry's id with the id of the entry it is nested beneath. -/
def nestings (entries : List Entry) : List (String × Option String) :=
  (entries.map (·.id)).zip (parents entries)

/-- The ids nested directly beneath an id, in their order. -/
def childrenOf (nestings : List (String × Option String)) (id : String) : List String :=
  (nestings.filter fun n => n.2 == some id).map (·.1)

end PromptChain.Script
