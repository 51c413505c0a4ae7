/-
# References

A reference `{{#id}}` in a text stands for the output of the node with that id.  The id is a
name, so the reference ends at the first character that cannot belong to one, and that has to be
its closing braces.

`referenceIds` lists the ids a text refers to, each once, in the order in which they first stand
there.
-/
import PromptChain.Node.Basic
import PromptChain.Text.Lines
import PromptChain.Text.Scan
import PromptChain.Text.WordChar

namespace PromptChain.Template

open PromptChain.Text

/-- Two opening braces. -/
def opening : List Char := ['\x7b', '\x7b']

/-- Two closing braces. -/
def closing : List Char := ['\x7d', '\x7d']

/-- A reference as it is written. -/
def reference (id : String) : List Char := opening ++ '#' :: id.toList ++ closing

/-- The id of the reference that begins here. -/
def referenceAt? (cs : List Char) : Option String :=
  match strip? (opening ++ ['#']) cs with
  | none => none
  | some rest =>
    let name := rest.takeWhile isNameChar
    if name.isEmpty || (strip? closing (rest.dropWhile isNameChar)).isNone then none
    else some (String.ofList name)

/-- **A reference is recognised exactly where one is written out.** -/
theorem referenceAt?_eq_some_iff {cs : List Char} {id : String} :
    referenceAt? cs = some id ↔ isName id.toList = true ∧ reference id <+: cs := by
  have hclose : ∀ c, c ∈ closing → isNameChar c = false := by
    intro c hc
    exact not_isNameChar_of_mark (by simp [closing] at hc; simp [hc])
  constructor
  · intro h
    simp only [referenceAt?] at h
    split at h
    · simp at h
    · rename_i rest hstrip
      have hcs := strip?_eq_some_iff.1 hstrip
      split at h
      · simp at h
      · rename_i hne
        simp only [Bool.or_eq_true, not_or, Bool.not_eq_true, Option.isNone_eq_false_iff] at hne
        obtain ⟨hname, hclosed⟩ := hne
        obtain ⟨tail, htail⟩ := Option.isSome_iff_exists.1 hclosed
        have htail := strip?_eq_some_iff.1 htail
        have hid : id.toList = rest.takeWhile isNameChar := by
          simp only [Option.some.injEq] at h
          rw [← h, String.toList_ofList]
        refine ⟨?_, tail, ?_⟩
        · simp only [isName, hid, hname, Bool.not_false, Bool.true_and, List.all_takeWhile]
        · rw [hcs, reference, hid]
          have := List.takeWhile_append_dropWhile (p := isNameChar) (l := rest)
          rw [htail] at this
          simp only [List.append_assoc, List.cons_append, List.nil_append]
          rw [this]
  · rintro ⟨hname, tail, rfl⟩
    simp only [isName, Bool.and_eq_true, Bool.not_eq_true'] at hname
    have hall : ∀ c ∈ id.toList, isNameChar c = true := List.all_eq_true.1 hname.2
    have htail : ((closing ++ tail).takeWhile isNameChar) = [] := by
      simp [closing, hclose '\x7d' (by simp [closing])]
    have hrest : ((closing ++ tail).dropWhile isNameChar) = closing ++ tail := by
      simp [closing, hclose '\x7d' (by simp [closing])]
    have hstrip : strip? (opening ++ ['#']) (reference id ++ tail) =
        some (id.toList ++ (closing ++ tail)) :=
      strip?_eq_some_iff.2 (by simp [reference])
    have htake : (id.toList ++ (closing ++ tail)).takeWhile isNameChar = id.toList := by
      rw [List.takeWhile_append_of_pos hall, htail, List.append_nil]
    have hdrop : (id.toList ++ (closing ++ tail)).dropWhile isNameChar = closing ++ tail := by
      rw [List.dropWhile_append_of_pos hall, hrest]
    have hsome : strip? closing (closing ++ tail) = some tail := strip?_eq_some_iff.2 rfl
    simp only [referenceAt?, hstrip, htake, hdrop, hsome, hname.1]
    simp

/-- The ids of the references in a text, in their order, as often as they stand there. -/
def references (template : String) : List String :=
  marks (scan referenceAt? (fun id => (reference id).length) template.toList)

/-- The ids a text refers to, each once, in the order of their first reference. -/
def referenceIds (template : String) : List String := (references template).foldl Node.addNew []

theorem mem_referenceIds {template id : String} :
    id ∈ referenceIds template ↔ id ∈ references template := by
  simp [referenceIds, Node.mem_foldl_addNew]

/-- The id of a text that is nothing but one reference. -/
def soleReference? (s : String) : Option String :=
  match referenceAt? s.toList with
  | some id => if s.toList = reference id then some id else none
  | none => none

end PromptChain.Template
