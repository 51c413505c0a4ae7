/-
# Blank characters, trimming and words

Blank is wider than ASCII whitespace: it holds the four information separators, the next-line
and no-break spaces and the Unicode space separators, but not the zero-width space, the byte
order mark or the Mongolian vowel separator.  Trimming and splitting into words both go by it.

`trim` removes blanks at both ends and nothing else; `words` cuts at blanks and drops the empty
pieces, so no word holds a blank and none is empty (`mem_words`).
-/
import PromptChain.Text.Ranges

namespace PromptChain.Text

/-! ## 1. The class -/

/-- The blank characters. -/
def blankRanges : Ranges :=
  [(0x09, 0x0d), (0x1c, 0x20), (0x85, 0x85), (0xa0, 0xa0), (0x1680, 0x1680), (0x2000, 0x200a),
    (0x2028, 0x2029), (0x202f, 0x202f), (0x205f, 0x205f), (0x3000, 0x3000)]

/-- A space of any kind. -/
def isBlank (c : Char) : Bool := blankRanges.has c

/-! ## 2. Trimming -/

/-- A list without its leading blanks. -/
def dropBlanks (cs : List Char) : List Char := cs.dropWhile isBlank

/-- A list without its trailing blanks. -/
def dropBlanksEnd (cs : List Char) : List Char := (dropBlanks cs.reverse).reverse

/-- A text without the blanks at its two ends. -/
def trim (s : String) : String := String.ofList (dropBlanksEnd (dropBlanks s.toList))

/-! ## 3. Cutting -/

/-- The parts of a list between the elements that satisfy `p`; `n` such elements leave
`n + 1` parts. -/
def cut {α : Type} (p : α → Bool) : List α → List (List α)
  | [] => [[]]
  | a :: rest =>
    if p a then [] :: cut p rest
    else match cut p rest with
      | [] => [[a]]
      | part :: parts => (a :: part) :: parts

theorem cut_ne_nil {α : Type} (p : α → Bool) (l : List α) : cut p l ≠ [] := by
  cases l with
  | nil => simp [cut]
  | cons a rest =>
    simp only [cut]
    split
    · simp
    · split <;> simp

/-- **No part holds an element that was cut at.** -/
theorem not_of_mem_cut {α : Type} {p : α → Bool} {l part : List α} {a : α}
    (hpart : part ∈ cut p l) (ha : a ∈ part) : p a = false := by
  induction l generalizing part with
  | nil => simp_all [cut]
  | cons b rest ih =>
    simp only [cut] at hpart
    split at hpart
    · rcases List.mem_cons.1 hpart with rfl | h
      · simp at ha
      · exact ih h ha
    · rename_i hb
      split at hpart
      · rename_i hnil
        exact absurd hnil (cut_ne_nil p rest)
      · rename_i first parts hcut
        rcases List.mem_cons.1 hpart with rfl | h
        · rcases List.mem_cons.1 ha with rfl | h
          · simpa using hb
          · exact ih (by rw [hcut]; exact List.mem_cons_self) h
        · exact ih (by rw [hcut]; exact List.mem_cons_of_mem _ h) ha

/-! ## 4. Words -/

/-- The maximal runs of characters that are not blank. -/
def words (cs : List Char) : List (List Char) := (cut isBlank cs).filter fun w => !w.isEmpty

/-- A word is not empty and holds no blank. -/
theorem mem_words {cs w : List Char} (h : w ∈ words cs) :
    w ≠ [] ∧ ∀ c ∈ w, isBlank c = false := by
  obtain ⟨hcut, hne⟩ := List.mem_filter.1 h
  exact ⟨by simpa using hne, fun _ hc => not_of_mem_cut hcut hc⟩

end PromptChain.Text
