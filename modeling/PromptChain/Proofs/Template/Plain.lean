/-
# Plain texts

A text in which no placeholder stands is resolved to itself, whatever the outputs are.

Whether one stands in a text does not depend on the blanks around the text: a placeholder begins
and ends with a brace, so trimming cuts none, and it makes none either.
-/
import PromptChain.Proofs.Template.Replacement
import PromptChain.Proofs.Text.Splitting

namespace PromptChain

open PromptChain.Text PromptChain.Template

/-! ## 1. What trimming leaves -/

namespace Text

section Trim

variable {before word after : List Char} {s : String}

/-- Blanks are dropped up to a part that does not begin with one. -/
theorem dropBlanks_append_flush (hword : Flush word) :
    dropBlanks (before ++ word) = dropBlanks before ++ word := by
  rw [dropBlanks, List.dropWhile_append, dropBlanks]
  split
  · rename_i hempty
    rw [List.isEmpty_iff.1 hempty, List.nil_append]
    exact dropBlanks_append (fun _ hc => absurd hc List.not_mem_nil) hword
  · rfl

/-- **A part that neither begins nor ends with a blank is left by trimming**, and nothing else comes
to be. -/
theorem infix_trim_iff (hne : word ≠ []) (hbegin : Flush word) (hend : Flush word.reverse) :
    word <:+: (trim s).toList ↔ word <:+: s.toList := by
  constructor
  · intro h
    obtain ⟨left, right, hs, -⟩ := trim_eq_iff.1 (rfl : trim s = trim s)
    exact h.trans ⟨left, right, hs.symm⟩
  · rintro ⟨before, after, hs⟩
    have hleft : dropBlanks s.toList = dropBlanks before ++ (word ++ after) := by
      have hflush : Flush (word ++ after) := by
        cases word with
        | nil => exact absurd rfl hne
        | cons c rest => exact flush_cons.2 (flush_cons.1 hbegin)
      rw [← hs, List.append_assoc, dropBlanks_append_flush hflush]
    have hright : dropBlanksEnd (dropBlanks before ++ (word ++ after)) =
        dropBlanks before ++ word ++ dropBlanksEnd after := by
      have hflush : Flush (word.reverse ++ (dropBlanks before).reverse) := by
        cases hword : word.reverse with
        | nil => exact absurd (List.reverse_eq_nil_iff.1 hword) hne
        | cons c rest => exact flush_cons.2 (flush_cons.1 (hword ▸ hend))
      rw [dropBlanksEnd, dropBlanksEnd, List.reverse_append, List.reverse_append, List.append_assoc,
        dropBlanks_append_flush hflush]
      simp
    rw [trim, String.toList_ofList, hleft, hright]
    exact ⟨dropBlanks before, dropBlanksEnd after, rfl⟩

end Trim

end Text

/-! ## 2. Texts without placeholders -/

namespace Template

/-- Whether no placeholder stands in a text. -/
def Plain (text : String) : Prop := ∀ o : Occurrence, ¬ o.StandsIn text.toList

section Plain

variable {text : String} {cs : List Char}

theorem hasPlaceholder_eq_false_iff : hasPlaceholder text = false ↔ Plain text := by
  have hmarks : marks (pieces text) = [] ↔ occurrences text = [] := by
    rw [← map_placeholder_occurrencesFrom 0, List.map_eq_nil_iff, occurrences]
  rw [hasPlaceholder, Bool.not_eq_false', List.isEmpty_iff, hmarks,
    List.eq_nil_iff_forall_not_mem]
  exact forall_congr' fun o => not_congr mem_occurrences_iff

/-- A placeholder stands somewhere in a text when the text contains it as it is written. -/
theorem exists_standsIn_iff : (∃ o : Occurrence, o.StandsIn cs) ↔
    ∃ p : Placeholder, (∀ id, p = .output id → isName id.toList = true) ∧ p.written <:+: cs := by
  constructor
  · rintro ⟨⟨p, place⟩, hstands⟩
    exact ⟨p, exists_place_iff.1 ⟨place, hstands⟩⟩
  · rintro ⟨p, hwritten⟩
    obtain ⟨place, hstands⟩ := exists_place_iff.2 hwritten
    exact ⟨_, hstands⟩

theorem Placeholder.flush_written (p : Placeholder) :
    p.written ≠ [] ∧ Flush p.written ∧ Flush p.written.reverse := by
  have hend : p.written.reverse = '\x7d' :: '\x7d' :: ('\x7b' :: '\x7b' :: p.inner).reverse := by
    simp [Placeholder.written_eq, closing]
  refine ⟨by simp [Placeholder.written_eq], ?_, ?_⟩
  · rw [Placeholder.written_eq]
    exact flush_cons.2 (by decide)
  · rw [hend]
    exact flush_cons.2 (by decide)

/-- **A text is plain with the blanks around it or without them.** -/
theorem plain_trim_iff : Plain (trim text) ↔ Plain text := by
  rw [Plain, Plain, ← not_exists, ← not_exists, exists_standsIn_iff, exists_standsIn_iff]
  refine not_congr (exists_congr fun p => and_congr_right fun _ => ?_)
  obtain ⟨hne, hbegin, hend⟩ := p.flush_written
  exact infix_trim_iff hne hbegin hend

end Plain

end Template

namespace Context

variable {c : Context} {allowed : List String} {cs : List Char}

theorem fill_of_not_standsIn {start : Nat} {ps : List (Piece Placeholder)} (h : Cuts cs start ps)
    (hplain : ∀ o : Occurrence, ¬ o.StandsIn cs) :
    c.fill allowed start ps = .ok (cs.drop start) := by
  induction h with
  | done => rw [fill, List.drop_length]
  | @plain start ch ps hchar hnone more ih =>
    obtain ⟨hlt, rfl⟩ := List.getElem?_eq_some_iff.1 hchar
    rw [fill, ih, List.drop_eq_getElem_cons hlt]
  | mark hstands more ih => exact absurd hstands (hplain _)

/-- **A plain text is resolved to itself.** -/
theorem resolve_of_plain {text : String} (h : Plain text) : c.resolve text allowed = .ok text := by
  rw [resolve, fill_of_not_standsIn (cuts_pieces text) h, List.drop_zero]
  exact congrArg Except.ok String.ofList_toList

end Context
end PromptChain
