/-
# The entries of a script

An entry is what the script says about one node: the line it begins at, its indent, what its
header says, and the text of its block if it has one.  `entries` goes through the lines once, from
the top.  Outside a block a line is skipped or begins an entry; inside a block a line belongs to
it or closes it.

The first bad line ends the reading.  A line is bad when it breaks the grammar, when its id
belongs to an earlier entry, or when its id is none that a node may have; the rules are looked at
in this order.  An entry without an id of its own is called after its line.
-/
import PromptChain.Node.Form
import PromptChain.Script.Header
import PromptChain.Script.Layout

namespace PromptChain.Script

open PromptChain.Text

/-- What a script says about one node. -/
structure Entry where
  id : String
  line : Nat
  indent : Nat
  model : Option String
  flags : List String
  prompt : String
  deriving DecidableEq, Repr

namespace Entry

/-- The id of a node that has none of its own. -/
def idOfLine (line : Nat) : String := "node_" ++ toString line

/-- The entry of a header. -/
def ofHeader (line : Nat) (raw : String) (h : Header) : Entry where
  id := h.id.getD (idOfLine line)
  line := line
  indent := indentOf raw
  model := h.model
  flags := h.flags
  prompt := h.prompt

/-- The entry that begins at a line, given the ids of the earlier ones. -/
def ofLine (seen : List String) (line : Nat) (raw : String) : Except Refusal Entry :=
  let text := trim raw
  match Header.read line text with
  | .error bad => .error (.line bad)
  | .ok h =>
    let e := ofHeader line raw h
    if e.id ∈ seen then .error (.line ⟨line, text, .repeatedId e.id⟩)
    else match Node.idProblem? e.id with
      | some problem => .error (.node [⟨["id"], problem⟩])
      | none => .ok e

/-- Whether the entry's prompt is in the block that follows. -/
def opensBlock (e : Entry) : Bool := e.prompt == fence

/-- The entry with the text of its block. -/
def withBlock (e : Entry) (lines : List String) : Entry := { e with prompt := blockText lines }

end Entry

/-- Where a reader stands: between entries, or in the block of one. -/
inductive Place where
  | outside
  | inside (e : Entry) (lines : List String)
  deriving DecidableEq, Repr

/-- The entries of the rest of a script.  `seen` are the ids so far, and `line` is the number of
the first line of the rest. -/
def entriesFrom (seen : List String) :
    Place → Nat → List String → Except Refusal (List Entry)
  | .outside, _, [] => .ok []
  | .inside e block, _, [] => .ok [e.withBlock block]
  | .inside e block, line, raw :: rest =>
    match closingLine? raw with
    | none => entriesFrom seen (.inside e (block ++ [raw])) (line + 1) rest
    | some last => match entriesFrom seen .outside (line + 1) rest with
      | .ok more => .ok (e.withBlock (block ++ [last]) :: more)
      | .error refusal => .error refusal
  | .outside, line, raw :: rest =>
    if isSkipped raw then entriesFrom seen .outside (line + 1) rest
    else match Entry.ofLine seen line raw with
      | .error refusal => .error refusal
      | .ok e =>
        if e.opensBlock then entriesFrom (e.id :: seen) (.inside e []) (line + 1) rest
        else match entriesFrom (e.id :: seen) .outside (line + 1) rest with
          | .ok more => .ok (e :: more)
          | .error refusal => .error refusal

/-- The entries of a script. -/
def entries (source : String) : Except Refusal (List Entry) :=
  entriesFrom [] .outside 1 (lines source)

end PromptChain.Script
