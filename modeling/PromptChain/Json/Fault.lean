/-
# Faults of JSON text

A text that is no JSON has a fault at some place in it.  A text may also be JSON as far as it was
read and go beyond a limit there: an integer of more than `digitLimit` digits, or a bracket inside
`depthLimit` others.  And the name of a member may be torn, which no name here can be.  Whichever
comes first in the text is the fault of the text.

While a text is being read, a place is told by what is left of the text there, so every reading
function works on what is left, and an offset is a difference of two lengths (`ReadFault.map`).
-/
import PromptChain.Json.Basic

namespace PromptChain.Json

/-- The most digits that an integer may have. -/
def digitLimit : Nat := 4300

/-- The most brackets that may be open at one place.  Neither JSON nor the service sets such a
limit.  A reader goes one call deeper for each bracket, so the stack of calls sets one, which
differs from place to place; the number stands for what a stack of a common size has left beneath
the calls that lead from a request to its body, and is used for every text that is read. -/
def depthLimit : Nat := 968

/-- Why a JSON text cannot be read; `Place` is how a place in it is told. -/
inductive ReadFault (Place : Type) where
  /-- The text is no JSON. -/
  | unexpected (place : Place)
  /-- An integer has too many digits. -/
  | longInteger
  /-- An array is inside too many brackets. -/
  | deepArray
  /-- An object is inside too many brackets. -/
  | deepObject
  /-- A member has a name that is torn. -/
  | tornName
  deriving DecidableEq, Repr

/-- The same fault, with its place told in another way. -/
def ReadFault.map {α β : Type} (f : α → β) : ReadFault α → ReadFault β
  | unexpected place => unexpected (f place)
  | longInteger => longInteger
  | deepArray => deepArray
  | deepObject => deepObject
  | tornName => tornName

/-- A value with the rest of the text, or a fault. -/
abbrev Reading (α : Type) := Except (ReadFault (List Char)) (α × List Char)

/-- The text is no JSON where this is left of it. -/
def unexpected {α : Type} (left : List Char) : Reading α := .error (.unexpected left)

end PromptChain.Json
