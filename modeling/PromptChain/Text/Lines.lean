/-
# Lines and joins

Only a line feed ends a line; every other separator belongs to the text around it.  A line that
ends with a carriage return loses that one character, so files with mixed line ends read alike.
-/
import PromptChain.Text.Blank

namespace PromptChain.Text

/-- A list without one trailing carriage return. -/
def dropCarriageReturn (cs : List Char) : List Char :=
  match cs.getLast? with
  | some '\r' => cs.dropLast
  | _ => cs

/-- The lines of a text, each without its line end. -/
def lines (s : String) : List String :=
  (cut (· == '\n') s.toList).map fun line => String.ofList (dropCarriageReturn line)

/-- The texts of a list with a separator between each two. -/
def joined (separator : String) : List String → String
  | [] => ""
  | [s] => s
  | s :: t :: rest => s ++ separator ++ joined separator (t :: rest)

@[simp] theorem joined_singleton (separator s : String) : joined separator [s] = s := rfl

@[simp] theorem joined_cons_cons (separator s t : String) (rest : List String) :
    joined separator (s :: t :: rest) = s ++ separator ++ joined separator (t :: rest) := rfl

/-- A text that begins with a given list of characters, without them. -/
def strip? (start : List Char) (cs : List Char) : Option (List Char) :=
  if start.isPrefixOf cs then some (cs.drop start.length) else none

/-- **`strip?` undoes an append on the left, and nothing else.** -/
theorem strip?_eq_some_iff {start cs rest : List Char} :
    strip? start cs = some rest ↔ cs = start ++ rest := by
  simp only [strip?]
  split
  · rename_i h
    obtain ⟨r, rfl⟩ := List.isPrefixOf_iff_prefix.1 h
    simp [eq_comm]
  · rename_i h
    constructor
    · simp
    · rintro rfl
      exact absurd (List.isPrefixOf_iff_prefix.2 ⟨rest, rfl⟩) h

end PromptChain.Text
