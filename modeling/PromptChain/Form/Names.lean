/-
# Names without regard to case

Some forms tell the names of their fields apart without regard to case.  `matching?` finds the
name that is meant.  Fields that are given under other spellings are put under the names that are
meant in one of two ways.

* `Fields.named` looks every name up: the exact spelling wins, otherwise the first of the others,
  and fields that match no name are left out.
* `Fields.renamed` goes through the fields: each that matches a name is put under it, the last of
  two for one name counting, and fields that match none stay as they are.
-/
import PromptChain.Form.Field
import PromptChain.Text.LetterCase

namespace PromptChain.Form

/-- The one of some names that differs from a name in case only. -/
def matching? (names : List String) (name : String) : Option String :=
  names.find? (Text.sameLower name)

namespace Fields

/-- The value of the field with a name: the one under its exact spelling, or else the first one
under another. -/
def given? (fields : Fields) (name : String) : Option Json :=
  (fields.lookup name).or ((fields.find? fun f => Text.sameLower f.1 name).map (·.2))

/-- The fields with some names, under these names. -/
def named (fields : Fields) (names : List String) : Fields :=
  names.filterMap fun name => (fields.given? name).map (name, ·)

/-- All fields, those that match some names under these names. -/
def renamed (fields : Fields) (names : List String) : Fields :=
  (Store.ofList (fields.map fun f => ((matching? names f.1).getD f.1, f.2))).entries

end Fields
end PromptChain.Form
