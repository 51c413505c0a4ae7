/-
# Faults of a script

A script is refused at its first bad line.  The fault names the line, its text without the blanks
around it, and the rule that the line breaks.
-/
import PromptChain.Form.Fault

namespace PromptChain.Script

/-- The rule that a line breaks. -/
inductive Rule where
  /-- It names neither an id nor a model. -/
  | nothingNamed
  /-- A token that begins like an id is none. -/
  | badId (token : String)
  /-- A token after the model is no flag. -/
  | badToken (token : String)
  /-- The id belongs to an earlier node. -/
  | repeatedId (id : String)
  /-- A rule in words of its own. -/
  | stated (reason : String)
  deriving DecidableEq, Repr

/-- What a line breaks, in words. -/
def Rule.reason : Rule → String
  | .nothingNamed => "Invalid syntax"
  | .badId token => "Invalid node id '" ++ token ++ "'"
  | .badToken token => "Unexpected token '" ++ token ++ "'"
  | .repeatedId id => "Duplicate node id '" ++ id ++ "'"
  | .stated reason => reason

/-- A line that cannot be read. -/
structure BadLine where
  line : Int
  text : String
  rule : Rule
  deriving DecidableEq, Repr

/-- The sentence for a line that cannot be read. -/
def BadLine.message (e : BadLine) : String :=
  e.rule.reason ++ " on line " ++ toString e.line ++ ": \"" ++ e.text ++ "\""

/-- Why a script is refused. -/
inductive Refusal where
  /-- A line cannot be read. -/
  | line (e : BadLine)
  /-- A line can be read but its node breaks a rule for nodes. -/
  | node (faults : List Form.Fault)
  deriving DecidableEq, Repr

end PromptChain.Script
