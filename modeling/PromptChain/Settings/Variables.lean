/-
# Environment variables

The environment gives texts under names.  Names are told apart without regard to case; where two
names differ in case only, the later one counts.
-/
import PromptChain.Form.Field
import PromptChain.Text.LetterCase

namespace PromptChain

/-- The names and texts of an environment. -/
structure Variables where
  entries : List (String × String) := []

namespace Variables

open PromptChain.Form

/-- The text under a name, given in lower case. -/
def get? (v : Variables) (name : String) : Option String :=
  (v.entries.reverse.find? fun e => Text.lower e.1 == name).map (·.2)

/-- The fields with some names, each from the variable called like the field with `start` in
front. -/
def fields (v : Variables) (start : String) (names : List String) : Fields :=
  names.filterMap fun name => (v.get? (start ++ name)).map fun text => (name, .str text)

/-- An environment with further variables. -/
def add (v more : Variables) : Variables := ⟨v.entries ++ more.entries⟩

end Variables
end PromptChain
