/-
# Where placeholders stand

A placeholder stands in a text wherever it is written out, whatever is around it
(`Occurrence.StandsIn`).  Between its braces there is no brace, so none begins inside another and no
two of them overlap (`StandsIn.apart`).  The scan goes on after each placeholder that it meets;
therefore it passes over none, and `Cuts` says so of all its pieces at once.

The ids that a text refers to are collected from the same scan, so they come in the order of their
first references (`FirstSeen`).
-/
import PromptChain.Proofs.Template.Substitution
import Mathlib.Data.List.Induction

namespace PromptChain

open PromptChain.Text PromptChain.Template

/-! ## 1. Placeholders in a text -/

namespace Template

/-- Whether a placeholder stands in a text: it is written out there, and what it names, if it is a
reference, is a name. -/
def Occurrence.StandsIn (o : Occurrence) (cs : List Char) : Prop :=
  (∀ id, o.placeholder = .output id → isName id.toList = true) ∧
    ∃ before after, cs = before ++ o.placeholder.written ++ after ∧ before.length = o.start

/-- What a placeholder has between its braces. -/
def Placeholder.inner : Placeholder → List Char
  | .input => "INPUT".toList
  | .output id => '#' :: id.toList

section Standing

variable {cs : List Char} {o o' : Occurrence}

theorem Placeholder.written_eq (p : Placeholder) :
    p.written = '\x7b' :: '\x7b' :: (p.inner ++ closing) := by
  cases p <;> rfl

theorem Placeholder.width_pos (p : Placeholder) : 0 < p.width := by
  simp [width, written_eq]

/-- A placeholder stands exactly where it is recognised. -/
theorem standsIn_iff : o.StandsIn cs ↔ Placeholder.at? (cs.drop o.start) = some o.placeholder := by
  rw [Placeholder.at?_eq_some_iff]
  constructor
  · rintro ⟨hname, before, after, rfl, hstart⟩
    refine ⟨?_, hname⟩
    rw [← hstart, List.append_assoc, List.drop_left]
    exact List.prefix_append _ _
  · rintro ⟨⟨after, hafter⟩, hname⟩
    refine ⟨hname, cs.take o.start, after, ?_, ?_⟩
    · rw [List.append_assoc, hafter, List.take_append_drop]
    · have hlength := congrArg List.length hafter
      have hpos := o.placeholder.width_pos
      rw [List.length_append, List.length_drop, ← Placeholder.width] at hlength
      rw [List.length_take]
      omega

/-- A placeholder ends in the text that it stands in. -/
theorem Occurrence.StandsIn.stop_le (h : o.StandsIn cs) : o.stop ≤ cs.length := by
  obtain ⟨-, before, after, rfl, hstart⟩ := h
  rw [Occurrence.stop, Placeholder.width, ← hstart, List.length_append, List.length_append]
  exact Nat.le_add_right _ _

/-- A placeholder stands somewhere in a text that contains it as it is written. -/
theorem exists_place_iff {p : Placeholder} : (∃ place, (Occurrence.mk p place).StandsIn cs) ↔
    (∀ id, p = .output id → isName id.toList = true) ∧ p.written <:+: cs := by
  constructor
  · rintro ⟨place, hname, before, after, hcs, -⟩
    exact ⟨hname, before, after, hcs.symm⟩
  · rintro ⟨hname, before, after, hcs⟩
    exact ⟨before.length, hname, before, after, hcs.symm, rfl⟩

theorem exists_reference_iff {id : String} :
    (∃ place, (Occurrence.mk (.output id) place).StandsIn cs) ↔
      isName id.toList = true ∧ reference id <:+: cs := by
  rw [exists_place_iff]
  exact and_congr_left fun _ => ⟨fun h => h id rfl, fun h _ heq => by cases heq; exact h⟩

theorem Occurrence.start_lt_stop (o : Occurrence) : o.start < o.stop :=
  Nat.lt_add_of_pos_right o.placeholder.width_pos

/-- At one place one placeholder stands at most. -/
theorem Occurrence.StandsIn.eq_of_start_eq (h : o.StandsIn cs) (h' : o'.StandsIn cs)
    (heq : o.start = o'.start) : o = o' := by
  rw [standsIn_iff] at h h'
  rw [heq, h', Option.some.injEq] at h
  obtain ⟨p, start⟩ := o
  obtain ⟨p', start'⟩ := o'
  simp only at heq h
  rw [heq, h]

/-- A placeholder has no opening brace after its first two. -/
theorem Occurrence.StandsIn.no_brace (h : o.StandsIn cs) :
    '\x7b' ∉ o.placeholder.inner ++ closing := by
  obtain ⟨p, start⟩ := o
  cases p with
  | input => simp [Placeholder.inner, closing]
  | output id =>
    have hname := h.1 id rfl
    simp only [isName, Bool.and_eq_true, List.all_eq_true] at hname
    have hid : '\x7b' ∉ id.toList := fun hmem =>
      absurd (hname.2 _ hmem) (by simp [not_isNameChar_of_mark])
    simp [Placeholder.inner, closing, hid]

/-- A character before a part that stands at two neighbouring places, the first of them not after
the part, is in the part. -/
theorem mem_of_drop_eq {c : Char} {tail after rest : List Char} {i : Nat} (htail : tail ≠ [])
    (hi : i ≤ tail.length) (h : (c :: (tail ++ after)).drop i = c :: c :: rest) : c ∈ tail := by
  cases i with
  | zero =>
    cases tail with
    | nil => exact absurd rfl htail
    | cons d tail =>
      simp only [List.drop_zero, List.cons_append, List.cons.injEq, true_and] at h
      exact h.1 ▸ List.mem_cons_self
  | succ i =>
    rw [List.drop_succ_cons, List.drop_append_of_le_length (Nat.le_of_lt hi),
      List.drop_eq_getElem_cons hi, List.cons_append, List.cons.injEq] at h
    exact h.1 ▸ List.getElem_mem hi

/-- **No placeholder begins inside another.** -/
theorem Occurrence.StandsIn.not_inside (h : o.StandsIn cs) (h' : o'.StandsIn cs)
    (hstart : o.start < o'.start) : o.stop ≤ o'.start := by
  refine Nat.le_of_not_lt fun hinside => ?_
  obtain ⟨i, hi⟩ := Nat.exists_eq_add_of_lt hstart
  have hbrace := h.no_brace
  obtain ⟨-, before, after, hcs, hbefore⟩ := h
  -- the later one would begin with two braces, of which the second is no brace of the earlier one
  have hopen : ∃ rest, cs.drop o'.start = '\x7b' :: '\x7b' :: rest := by
    obtain ⟨-, before', after', hcs', hbefore'⟩ := h'
    rw [hcs', List.append_assoc, ← hbefore', List.drop_left, Placeholder.written_eq]
    exact ⟨_, rfl⟩
  obtain ⟨rest, hrest⟩ := hopen
  rw [hcs, hi, Nat.add_assoc, ← hbefore, List.append_assoc, List.drop_length_add_append,
    Placeholder.written_eq, List.cons_append, List.cons_append, List.drop_succ_cons] at hrest
  have hwidth : o.placeholder.width = (o.placeholder.inner ++ closing).length + 2 := by
    rw [Placeholder.width, Placeholder.written_eq]
    rfl
  rw [Occurrence.stop, hwidth] at hinside
  exact hbrace (mem_of_drop_eq (by simp [closing]) (by omega) hrest)

/-- **No two placeholders overlap.** -/
theorem Occurrence.StandsIn.apart (h : o.StandsIn cs) (h' : o'.StandsIn cs) :
    o = o' ∨ o.stop ≤ o'.start ∨ o'.stop ≤ o.start := by
  rcases Nat.lt_trichotomy o.start o'.start with hlt | heq | hlt
  · exact .inr (.inl (h.not_inside h' hlt))
  · exact .inl (h.eq_of_start_eq h' heq)
  · exact .inr (.inr (h'.not_inside h hlt))

/-- What begins before another ends begins before it, or is the same. -/
theorem Occurrence.StandsIn.eq_or_before (h : o.StandsIn cs) (h' : o'.StandsIn cs)
    (hlt : o'.start < o.stop) : o' = o ∨ o'.start < o.start := by
  rcases Nat.lt_or_ge o'.start o.start with hbefore | hge
  · exact .inr hbefore
  · rcases Nat.eq_or_lt_of_le hge with heq | hafter
    · exact .inl (h'.eq_of_start_eq h heq.symm)
    · exact absurd (h.not_inside h' hafter) (Nat.not_le.2 hlt)

end Standing

/-! ## 2. The pieces of a text -/

/-- Whether some pieces are those of a text from a place on: where no placeholder stands, one
character, and where one does, all of it. -/
inductive Cuts (cs : List Char) : Nat → List (Piece Placeholder) → Prop where
  | done : Cuts cs cs.length []
  | plain {start : Nat} {c : Char} {ps : List (Piece Placeholder)} (hchar : cs[start]? = some c)
      (hnone : ∀ o : Occurrence, o.StandsIn cs → o.start ≠ start) (more : Cuts cs (start + 1) ps) :
      Cuts cs start (.plain c :: ps)
  | mark {start : Nat} {p : Placeholder} {ps : List (Piece Placeholder)}
      (hstands : (Occurrence.mk p start).StandsIn cs) (more : Cuts cs (start + p.width) ps) :
      Cuts cs start (.mark p :: ps)

/-- The scan cuts a text at its placeholders. -/
theorem cuts_scan (cs : List Char) {start : Nat} (hstart : start ≤ cs.length) :
    Cuts cs start (scan Placeholder.at? Placeholder.width (cs.drop start)) := by
  -- what is left of the text becomes shorter
  induction hleft : cs.length - start using Nat.strongRecOn generalizing start with
  | _ left ih =>
    rcases Nat.lt_or_eq_of_le hstart with hlt | rfl
    · have hdrop := List.drop_eq_getElem_cons hlt
      rw [hdrop]
      cases hat : Placeholder.at? (cs[start] :: cs.drop (start + 1)) with
      | none =>
        rw [scan_cons_none hat]
        refine .plain (List.getElem?_eq_getElem hlt) ?_ (ih _ (by omega) hlt rfl)
        rintro ⟨p, start'⟩ hstands rfl
        rw [standsIn_iff, hdrop, hat] at hstands
        cases hstands
      | some p =>
        have hstands : (Occurrence.mk p start).StandsIn cs := by rw [standsIn_iff, hdrop, hat]
        have hstop : start + p.width ≤ cs.length := hstands.stop_le
        have hpos := p.width_pos
        have hnext : (cs.drop (start + 1)).drop (p.width - 1) = cs.drop (start + p.width) := by
          rw [List.drop_drop]
          congr 1
          omega
        rw [scan_cons_some hat, hnext]
        exact .mark hstands (ih _ (by omega) hstop rfl)
    · rw [List.drop_length]
      exact .done

theorem cuts_pieces (template : String) : Cuts template.toList 0 (pieces template) :=
  cuts_scan template.toList (Nat.zero_le _)

section Cuts

variable {cs : List Char} {start : Nat} {ps : List (Piece Placeholder)} {o : Occurrence}

/-- **The scan meets what stands in the text**, and nothing else. -/
theorem Cuts.mem_occurrencesFrom (h : Cuts cs start ps) :
    o ∈ occurrencesFrom start ps ↔ o.StandsIn cs ∧ start ≤ o.start := by
  induction h with
  | done =>
    constructor
    · exact fun hmem => absurd hmem List.not_mem_nil
    · rintro ⟨hstands, hle⟩
      have hstop := hstands.stop_le
      have hlt := o.start_lt_stop
      omega
  | @plain start c ps hchar hnone more ih =>
    rw [occurrencesFrom, ih]
    refine and_congr_right fun hstands => ?_
    have hne := hnone o hstands
    omega
  | @mark start p ps hstands more ih =>
    rw [occurrencesFrom, List.mem_cons, ih]
    constructor
    · rintro (rfl | ⟨ho, hle⟩)
      · exact ⟨hstands, Nat.le_refl _⟩
      · exact ⟨ho, Nat.le_of_add_right_le hle⟩
    · rintro ⟨ho, hle⟩
      rcases Nat.eq_or_lt_of_le hle with heq | hlt
      · exact .inl (ho.eq_of_start_eq hstands heq.symm)
      · exact .inr ⟨ho, hstands.not_inside ho hlt⟩

/-- The scan meets them from left to right. -/
theorem Cuts.pairwise (h : Cuts cs start ps) :
    (occurrencesFrom start ps).Pairwise fun o o' => o.start < o'.start := by
  induction h with
  | done => exact .nil
  | plain hchar hnone more ih => exact ih
  | @mark start p ps hstands more ih =>
    refine List.pairwise_cons.2 ⟨fun o ho => ?_, ih⟩
    exact Nat.lt_of_lt_of_le (Occurrence.mk p start).start_lt_stop (more.mem_occurrencesFrom.1 ho).2

end Cuts

/-- **The occurrences of a text are the placeholders that stand in it.** -/
theorem mem_occurrences_iff {template : String} {o : Occurrence} :
    o ∈ occurrences template ↔ o.StandsIn template.toList := by
  rw [occurrences, (cuts_pieces template).mem_occurrencesFrom]
  exact and_iff_left (Nat.zero_le _)

theorem occurrences_pairwise (template : String) :
    (occurrences template).Pairwise fun o o' => o.start < o'.start :=
  (cuts_pieces template).pairwise

/-! ## 3. The ids that a text refers to -/

/-- Whether some ids are those of a kind that a text refers to, in the order of their first
references. -/
structure FirstSeen (template : String) (kind : String → Prop) (ids : List String) : Prop where
  mem : ∀ id, id ∈ ids ↔
    kind id ∧ ∃ place, (Occurrence.mk (.output id) place).StandsIn template.toList
  ordered : ids.Pairwise fun a b =>
    ∃ place, (Occurrence.mk (.output a) place).StandsIn template.toList ∧
      ∀ later, (Occurrence.mk (.output b) later).StandsIn template.toList → place < later

namespace FirstSeen

variable {template : String} {kind : String → Prop} {ids ids' : List String}

theorem nodup (h : FirstSeen template kind ids) : ids.Nodup := by
  refine h.ordered.imp ?_
  rintro a b ⟨place, hstands, hlater⟩ rfl
  exact Nat.lt_irrefl _ (hlater place hstands)

/-- **There is only one list of the ids of a kind that a text refers to.** -/
theorem unique (h : FirstSeen template kind ids) (h' : FirstSeen template kind ids') :
    ids = ids' := by
  have hperm : ids.Perm ids' := (List.perm_ext_iff_of_nodup h.nodup h'.nodup).2 fun id =>
    (h.mem id).trans (h'.mem id).symm
  refine hperm.eq_of_pairwise ?_ h.ordered h'.ordered
  -- of two ids one stands first, and not each of them
  rintro a b - - ⟨place, hstands, hlater⟩ ⟨place', hstands', hlater'⟩
  exact absurd (hlater place' hstands') (Nat.not_lt.2 (Nat.le_of_lt (hlater' place hstands)))

end FirstSeen

/-- The references of a text with their places. -/
def referencePlaces (template : String) : List (String × Nat) :=
  (occurrences template).filterMap fun o => o.placeholder.outputId?.map (·, o.start)

section References

variable {template id : String} {place : Nat}

theorem map_placeholder_occurrencesFrom (start : Nat) (ps : List (Piece Placeholder)) :
    (occurrencesFrom start ps).map (·.placeholder) = marks ps := by
  induction ps generalizing start with
  | nil => rfl
  | cons p rest ih =>
    cases p with
    | plain c => rw [occurrencesFrom, ih, marks_cons_plain]
    | mark p => rw [occurrencesFrom, List.map_cons, ih, marks_cons_mark]

theorem map_fst_referencePlaces (template : String) :
    (referencePlaces template).map (·.1) = references template := by
  rw [← outputs_pieces, ← map_placeholder_occurrencesFrom 0, List.filterMap_map, referencePlaces,
    List.map_filterMap]
  congr 1
  funext o
  simp [Option.map_map, Function.comp_def]

theorem mem_referencePlaces :
    (id, place) ∈ referencePlaces template ↔
      (Occurrence.mk (.output id) place).StandsIn template.toList := by
  rw [← mem_occurrences_iff, referencePlaces, List.mem_filterMap]
  constructor
  · rintro ⟨⟨p, start⟩, ho, h⟩
    cases p with
    | input => cases h
    | output key =>
      cases h
      exact ho
  · exact fun h => ⟨_, h, rfl⟩

theorem referencePlaces_pairwise (template : String) :
    (referencePlaces template).Pairwise fun a b => a.2 < b.2 := by
  refine (occurrences_pairwise template).filterMap _ fun o o' hlt r hr r' hr' => ?_
  obtain ⟨id, -, rfl⟩ := Option.map_eq_some_iff.1 hr
  obtain ⟨id', -, rfl⟩ := Option.map_eq_some_iff.1 hr'
  exact hlt

/-- Ids that are added as they come are in the order of their first places. -/
theorem pairwise_foldl_addNew {l : List (String × Nat)} (h : l.Pairwise fun a b => a.2 < b.2) :
    ((l.map (·.1)).foldl Node.addNew []).Pairwise fun a b =>
      ∃ place, (a, place) ∈ l ∧ ∀ later, (b, later) ∈ l → place < later := by
  -- what is added at the end comes after all that is there
  induction l using List.reverseRecOn with
  | nil => exact .nil
  | append_singleton l last ih =>
    obtain ⟨id, place⟩ := last
    obtain ⟨hl, -, hlast⟩ := List.pairwise_append.1 h
    have hold : ∀ {a b : String}, (∃ first, (a, first) ∈ l ∧ ∀ later, (b, later) ∈ l →
        first < later) → ∃ first, (a, first) ∈ l ++ [(id, place)] ∧
          ∀ later, (b, later) ∈ l ++ [(id, place)] → first < later := by
      rintro a b ⟨first, hfirst, hlater⟩
      refine ⟨first, List.mem_append_left _ hfirst, fun later hmem => ?_⟩
      rcases List.mem_append.1 hmem with hmem | hmem
      · exact hlater later hmem
      · cases List.mem_singleton.1 hmem
        exact hlast _ hfirst _ List.mem_cons_self
    rw [List.map_append, List.map_singleton, List.foldl_append, List.foldl_cons, List.foldl_nil,
      Node.addNew]
    split
    · exact (ih hl).imp hold
    · rename_i hnew
      rw [Node.mem_foldl_addNew] at hnew
      refine List.pairwise_append.2 ⟨(ih hl).imp hold, List.pairwise_singleton _ _, ?_⟩
      intro a ha b hb
      obtain rfl := List.mem_singleton.1 hb
      obtain ⟨⟨_, first⟩, hfirst, rfl⟩ :=
        List.mem_map.1 ((Node.mem_foldl_addNew.1 ha).resolve_left List.not_mem_nil)
      refine hold ⟨first, hfirst, fun later hmem => absurd (.inr ?_) hnew⟩
      exact List.mem_map.2 ⟨_, hmem, rfl⟩

/-- **The ids of a text are listed in the order of their first references.** -/
theorem firstSeen_referenceIds (template : String) (kind : String → Prop)
    [DecidablePred kind] :
    FirstSeen template kind ((referenceIds template).filter fun id => decide (kind id)) := by
  constructor
  · intro id
    rw [List.mem_filter, decide_eq_true_iff, and_comm, mem_referenceIds, ← map_fst_referencePlaces,
      List.mem_map]
    refine and_congr_right fun _ => ⟨?_, fun ⟨place, hstands⟩ => ?_⟩
    · rintro ⟨⟨_, place⟩, hmem, rfl⟩
      exact ⟨place, mem_referencePlaces.1 hmem⟩
    · exact ⟨(id, place), mem_referencePlaces.2 hstands, rfl⟩
  · rw [referenceIds, ← map_fst_referencePlaces]
    refine ((pairwise_foldl_addNew (referencePlaces_pairwise template)).imp ?_).filter _
    rintro a b ⟨place, hplace, hlater⟩
    exact ⟨place, mem_referencePlaces.1 hplace, fun later h =>
      hlater later (mem_referencePlaces.2 h)⟩

end References

end Template
end PromptChain
