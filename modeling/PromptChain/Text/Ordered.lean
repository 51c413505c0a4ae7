/-
# Texts in order

Texts are ordered by code point.  `ordered` sorts a list and keeps one of each text; its result
is strictly increasing (`ordered_pairwise`) and has the same members (`mem_ordered`), so two
lists with the same members come out equal.
-/
namespace PromptChain.Text

/-- Puts a text at its place in an increasing list that may already hold it. -/
def insertOrdered (s : String) : List String → List String
  | [] => [s]
  | t :: rest => if s < t then s :: t :: rest else if s = t then t :: rest
    else t :: insertOrdered s rest

/-- The members of a list in increasing order, each once. -/
def ordered (texts : List String) : List String := texts.foldr insertOrdered []

theorem mem_insertOrdered {s a : String} {l : List String} :
    a ∈ insertOrdered s l ↔ a = s ∨ a ∈ l := by
  induction l with
  | nil => simp [insertOrdered]
  | cons t rest ih =>
    simp only [insertOrdered]
    split
    · simp
    · split
      · rename_i h
        simp [h]
      · simp only [List.mem_cons, ih]
        constructor
        · rintro (h | h | h) <;> simp [h]
        · rintro (h | h | h) <;> simp [h]

/-- **Sorting loses no text and adds none.** -/
theorem mem_ordered {a : String} {l : List String} : a ∈ ordered l ↔ a ∈ l := by
  induction l with
  | nil => simp [ordered]
  | cons t rest ih =>
    have h : ordered (t :: rest) = insertOrdered t (ordered rest) := rfl
    rw [h, mem_insertOrdered, ih, List.mem_cons]

theorem insertOrdered_pairwise {s : String} {l : List String} (h : l.Pairwise (· < ·)) :
    (insertOrdered s l).Pairwise (· < ·) := by
  induction l with
  | nil => simp [insertOrdered]
  | cons t rest ih =>
    obtain ⟨ht, hrest⟩ := List.pairwise_cons.1 h
    simp only [insertOrdered]
    split
    · rename_i hst
      refine List.pairwise_cons.2 ⟨fun a ha => ?_, h⟩
      rcases List.mem_cons.1 ha with rfl | ha
      · exact hst
      · exact String.lt_trans hst (ht a ha)
    · split
      · exact h
      · rename_i hst hne
        refine List.pairwise_cons.2 ⟨fun a ha => ?_, ih hrest⟩
        rcases mem_insertOrdered.1 ha with rfl | ha
        · rcases String.le_total t a with hle | hle
          · exact Decidable.byContradiction fun hlt =>
              hne (String.le_antisymm (String.not_lt.1 hlt) hle)
          · exact absurd (Decidable.byContradiction fun hlt =>
              hne (String.le_antisymm hle (String.not_lt.1 hlt))) hst
        · exact ht a ha

/-- **A sorted list is strictly increasing.** -/
theorem ordered_pairwise (l : List String) : (ordered l).Pairwise (· < ·) := by
  induction l with
  | nil => simp [ordered]
  | cons t rest ih => exact insertOrdered_pairwise ih

end PromptChain.Text
