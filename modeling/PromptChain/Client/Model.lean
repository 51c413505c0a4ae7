/-
# Models

A model has a nickname, by which scripts name it, and possibly the address of its endpoint.  Two
nicknames name the same model when they differ in case only.
-/
import PromptChain.Form.Field

namespace PromptChain

/-- A model that a client knows. -/
structure Model where
  nickname : String
  endpoint : Option String := none
  deriving DecidableEq, Repr

namespace Model

/-- Whether a nickname names this model. -/
def answersTo (m : Model) (nickname : String) : Bool := Text.sameLower m.nickname nickname

open PromptChain.Form in
/-- Builds a model from named raw values. -/
def ofFields (fields : Fields) : Checked Model :=
  let ok : Checked _ := .ok Model.mk
  let ok := Checked.ap ok (field fields "nickname" none nonemptyText)
  Checked.ap ok (field fields "endpoint" (some none) (nullable text))

end Model
end PromptChain
