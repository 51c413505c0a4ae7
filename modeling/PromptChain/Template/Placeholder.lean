/-
# Placeholders

A text has two sorts of placeholders: `INPUT` between double braces stands for the input of the
run, and a reference for the output of a node.  Both are found in one scan, so they never overlap.

`occurrences` gives every placeholder with the place where it begins, counted in code points.
-/
import PromptChain.Template.Reference

namespace PromptChain.Template

open PromptChain.Text

/-- What a placeholder stands for. -/
inductive Placeholder where
  /-- The input of the run. -/
  | input
  /-- The output of the node with this id. -/
  | output (id : String)
  deriving DecidableEq, Repr

namespace Placeholder

/-- A placeholder as it is written. -/
def written : Placeholder → List Char
  | .input => opening ++ "INPUT".toList ++ closing
  | .output id => reference id

/-- The name between the braces, without the mark of a reference. -/
def name : Placeholder → String
  | .input => "INPUT"
  | .output id => id

/-- How many characters a placeholder takes. -/
def width (p : Placeholder) : Nat := p.written.length

/-- The placeholder that begins here. -/
def at? (cs : List Char) : Option Placeholder :=
  match strip? (written .input) cs with
  | some _ => some .input
  | none => (referenceAt? cs).map .output

/-- **A placeholder is recognised exactly where one is written out.** -/
theorem at?_eq_some_iff {cs : List Char} {p : Placeholder} :
    at? cs = some p ↔
      written p <+: cs ∧ ∀ id, p = .output id → isName id.toList = true := by
  simp only [at?]
  split
  · rename_i rest h
    have hcs := strip?_eq_some_iff.1 h
    constructor
    · rintro ⟨⟩
      exact ⟨⟨rest, hcs.symm⟩, fun _ h => by cases h⟩
    · rintro ⟨⟨tail, htail⟩, hname⟩
      cases p with
      | input => rfl
      | output id =>
        rw [hcs] at htail
        simp [written, reference, opening] at htail
  · rename_i h
    constructor
    · intro hp
      obtain ⟨id, hid, rfl⟩ := Option.map_eq_some_iff.1 hp
      obtain ⟨hname, hpre⟩ := referenceAt?_eq_some_iff.1 hid
      exact ⟨hpre, fun _ h => by cases h; exact hname⟩
    · rintro ⟨⟨tail, htail⟩, hname⟩
      cases p with
      | input => rw [strip?_eq_some_iff.2 htail.symm] at h; cases h
      | output id =>
        rw [referenceAt?_eq_some_iff.2 ⟨hname id rfl, tail, htail⟩]
        rfl

end Placeholder

/-- The pieces of a text. -/
def pieces (template : String) : List (Piece Placeholder) :=
  scan Placeholder.at? Placeholder.width template.toList

/-- **Writing the pieces back gives the text.** -/
theorem written_pieces (template : String) :
    written Placeholder.written (pieces template) = template.toList := by
  refine written_scan (fun cs p h => ?_) template.toList
  refine ⟨?_, (Placeholder.at?_eq_some_iff.1 h).1⟩
  cases p <;> simp [Placeholder.written, reference, opening]

/-- Whether a text has a placeholder. -/
def hasPlaceholder (template : String) : Bool := !(marks (pieces template)).isEmpty

/-- A placeholder and the place where it begins. -/
structure Occurrence where
  placeholder : Placeholder
  start : Nat
  deriving DecidableEq, Repr

/-- The place after a placeholder. -/
def Occurrence.stop (o : Occurrence) : Nat := o.start + o.placeholder.width

/-- The placeholders among some pieces, the first of which begins at a given place. -/
def occurrencesFrom : Nat → List (Piece Placeholder) → List Occurrence
  | _, [] => []
  | start, .plain _ :: rest => occurrencesFrom (start + 1) rest
  | start, .mark p :: rest => ⟨p, start⟩ :: occurrencesFrom (start + p.width) rest

/-- The placeholders of a text from left to right. -/
def occurrences (template : String) : List Occurrence := occurrencesFrom 0 (pieces template)

end PromptChain.Template
