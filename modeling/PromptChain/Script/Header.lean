/-
# The grammar of a line

A line is an assignment or a step.

* An assignment is `#`, a name, `=` and the content; blanks around the `=` do not count.  The
  content is all that follows, so it may hold any further marks.
* Any other line is a step.  Up to its first colon it is a list of tokens: at most one id `#name`,
  then at most one model, then flags `+name`; without an id and without a model it names nothing.
  What follows the colon, without the blanks around it, is the prompt.

An id token is whatever begins with `#` in the first place, and a model is whatever does not begin
with `+` in the place after it; so a second `#` token is a model, and a third token that is no
flag is a fault.  When a line breaks several rules, the id is looked at first, then the flags from
the left, then whether anything is named.
-/
import PromptChain.Script.Fault
import PromptChain.Text.WordChar

namespace PromptChain.Script

open PromptChain.Text

/-- What a line says about its node. -/
structure Header where
  id : Option String := none
  model : Option String := none
  flags : List String := []
  prompt : String := ""
  deriving DecidableEq, Repr

namespace Header

/-! ## 1. Assignments -/

/-- The name and the content of an assignment. -/
def assignment? (cs : List Char) : Option (List Char × List Char) :=
  match cs with
  | '#' :: rest =>
    let name := rest.takeWhile isNameChar
    match dropBlanks (rest.dropWhile isNameChar) with
    | '=' :: content => if name.isEmpty then none else some (name, dropBlanks content)
    | _ => none
  | _ => none

/-! ## 2. Steps -/

/-- The id among some tokens, and the tokens after it. -/
def takeId : List (List Char) → Except Rule (Option (List Char) × List (List Char))
  | ('#' :: name) :: rest =>
    if isName name then .ok (some name, rest) else .error (.badId (String.ofList ('#' :: name)))
  | tokens => .ok (none, tokens)

/-- The model among the tokens after the id, and the tokens after it. -/
def takeModel : List (List Char) → Option (List Char) × List (List Char)
  | ('+' :: name) :: rest => (none, ('+' :: name) :: rest)
  | model :: rest => (some model, rest)
  | [] => (none, [])

/-- The flags that the remaining tokens are. -/
def takeFlags : List (List Char) → Except Rule (List (List Char))
  | [] => .ok []
  | ('+' :: name) :: rest =>
    if isName name then
      match takeFlags rest with
      | .ok flags => .ok (name :: flags)
      | .error e => .error e
    else .error (.badToken (String.ofList ('+' :: name)))
  | token :: _ => .error (.badToken (String.ofList token))

/-- Reads the tokens of a step. -/
def ofTokens (tokens : List (List Char)) (prompt : String) : Except Rule Header :=
  match takeId tokens with
  | .error e => .error e
  | .ok (id, rest) =>
    let (model, rest) := takeModel rest
    match takeFlags rest with
    | .error e => .error e
    | .ok flags =>
      if id.isNone && model.isNone then .error .nothingNamed
      else .ok {
        id := id.map String.ofList, model := model.map String.ofList,
        flags := flags.map String.ofList, prompt }

/-- The part of a list before its first colon. -/
def beforeColon (cs : List Char) : List Char := cs.takeWhile (· != ':')

/-- The part of a list after its first colon, nothing when there is none. -/
def afterColon (cs : List Char) : List Char := (cs.dropWhile (· != ':')).drop 1

/-! ## 3. Lines -/

/-- Reads one line. -/
def ofLine (text : String) : Except Rule Header :=
  match assignment? text.toList with
  | some (name, content) =>
    .ok { id := some (String.ofList name), prompt := String.ofList content }
  | none =>
    ofTokens (words (beforeColon text.toList)) (trim (String.ofList (afterColon text.toList)))

/-- Reads the line with a number; the fault of a line names its number and its text. -/
def read (line : Int) (text : String) : Except BadLine Header :=
  match ofLine text with
  | .error rule => .error ⟨line, text, rule⟩
  | .ok h => .ok h

end Header
end PromptChain.Script
