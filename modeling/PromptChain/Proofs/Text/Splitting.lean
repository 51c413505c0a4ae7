/-
# What trimming and splitting give

The functions that trim and split go through the characters one by one; here is what they give,
said about the text as a whole.  Trimming takes away the blanks at both ends (`trim_eq_iff`), the
words of a text are what stands between its blanks (`words_eq_iff`), and its lines are what stands
between its line feeds (`lines_eq_iff`).
-/
import PromptChain.Text.Lines
import PromptChain.Text.WordChar
import Mathlib.Data.List.Forall2
import Mathlib.Data.List.TakeWhile

namespace PromptChain.Text

/-! ## 1. Blanks at the ends -/

/-- Whether a list holds blanks only. -/
def AllBlank (cs : List Char) : Prop := ∀ c ∈ cs, isBlank c = true

instance (cs : List Char) : Decidable (AllBlank cs) :=
  decidable_of_iff (cs.all isBlank = true) List.all_eq_true

/-- Whether a list does not begin with a blank. -/
def Flush (cs : List Char) : Prop := ∀ c ∈ cs.head?, isBlank c = false

/-- Whether a list is what is left of another without the blanks at its two ends. -/
def Trimmed (cs out : List Char) : Prop :=
  ∃ left right, cs = left ++ out ++ right ∧ AllBlank left ∧ AllBlank right ∧ Flush out ∧
    Flush out.reverse

section Trim

variable {cs out gap rest : List Char}

theorem AllBlank.append (hcs : AllBlank cs) (hrest : AllBlank rest) : AllBlank (cs ++ rest) :=
  fun c hc => (List.mem_append.1 hc).elim (hcs c) (hrest c)

theorem flush_nil : Flush [] := fun _ hc => absurd hc (Option.not_mem_none _)

theorem flush_cons {c : Char} : Flush (c :: rest) ↔ isBlank c = false := by
  simp [Flush]

theorem flush_dropBlanks (cs : List Char) : Flush (dropBlanks cs) := by
  intro c hc
  have hhead := List.head?_dropWhile_not isBlank cs
  rwa [show (cs.dropWhile isBlank).head? = some c from hc] at hhead

/-- What begins a list that does not begin with a blank does not begin with one either. -/
theorem Flush.of_append (h : Flush (cs ++ rest)) : Flush cs := by
  cases cs with
  | nil => exact flush_nil
  | cons c tail => exact flush_cons.2 (flush_cons.1 h)

theorem dropBlanks_append (hgap : AllBlank gap) (hrest : Flush rest) :
    dropBlanks (gap ++ rest) = rest := by
  rw [dropBlanks, List.dropWhile_append_of_pos hgap]
  cases rest with
  | nil => rfl
  | cons c tail => exact List.dropWhile_cons_of_neg (by simp [flush_cons.1 hrest])

/-- **Dropping the blanks at the beginning** leaves what does not begin with one. -/
theorem dropBlanks_eq_iff :
    dropBlanks cs = out ↔ ∃ gap, cs = gap ++ out ∧ AllBlank gap ∧ Flush out := by
  constructor
  · rintro rfl
    exact ⟨cs.takeWhile isBlank, List.takeWhile_append_dropWhile.symm,
      fun c hc => List.mem_takeWhile_imp hc, flush_dropBlanks cs⟩
  · rintro ⟨gap, rfl, hgap, hout⟩
    exact dropBlanks_append hgap hout

/-- **Dropping the blanks at the end** leaves what does not end with one. -/
theorem dropBlanksEnd_eq_iff :
    dropBlanksEnd cs = out ↔ ∃ gap, cs = out ++ gap ∧ AllBlank gap ∧ Flush out.reverse := by
  rw [dropBlanksEnd, List.reverse_eq_iff, dropBlanks_eq_iff]
  constructor
  · rintro ⟨gap, hcs, hgap, hout⟩
    refine ⟨gap.reverse, ?_, fun c hc => hgap c (List.mem_reverse.1 hc), hout⟩
    rw [List.reverse_eq_append_iff, List.reverse_reverse] at hcs
    exact hcs
  · rintro ⟨gap, rfl, hgap, hout⟩
    exact ⟨gap.reverse, List.reverse_append, fun c hc => hgap c (List.mem_reverse.1 hc), hout⟩

/-- **Trimming leaves what neither begins nor ends with a blank.** -/
theorem trim_eq_iff {s t : String} : trim s = t ↔ Trimmed s.toList t.toList := by
  rw [← String.toList_inj, trim, String.toList_ofList, dropBlanksEnd_eq_iff]
  constructor
  · rintro ⟨right, hmid, hright, hend⟩
    obtain ⟨left, hcs, hleft, hflush⟩ := dropBlanks_eq_iff.1 hmid
    rw [← List.append_assoc] at hcs
    exact ⟨left, right, hcs, hleft, hright, hflush.of_append, hend⟩
  · rintro ⟨left, right, hcs, hleft, hright, hbegin, hend⟩
    rcases hout : t.toList with - | ⟨c, tail⟩
    · -- nothing is left of blanks
      have hall : AllBlank s.toList := by
        rw [hcs, hout, List.append_nil]
        exact fun c hc => (List.mem_append.1 hc).elim (hleft c) (hright c)
      refine ⟨[], ?_, by simp [AllBlank], flush_nil⟩
      exact dropBlanks_eq_iff.2 ⟨s.toList, (List.append_nil _).symm, hall, flush_nil⟩
    · rw [hout] at hcs hbegin hend
      refine ⟨right, ?_, hright, hend⟩
      rw [hcs, List.append_assoc]
      exact dropBlanks_append hleft (flush_cons.2 (flush_cons.1 hbegin))

theorem trim_eq_empty_iff {s : String} : trim s = "" ↔ AllBlank s.toList := by
  rw [trim_eq_iff]
  constructor
  · rintro ⟨left, right, hs, hleft, hright, -, -⟩
    rw [hs, show "".toList = [] from rfl, List.append_nil]
    exact hleft.append hright
  · exact fun h => ⟨s.toList, [], by simp, h, by decide, flush_nil, flush_nil⟩

/-- Blanks at the end of a text are trimmed away. -/
theorem trim_append_gap {gap : String} (hgap : AllBlank gap.toList) (text : String) :
    trim (text ++ gap) = trim text := by
  obtain ⟨left, right, htext, hleft, hright, hbegin, hend⟩ := trim_eq_iff.1 (rfl : trim text = _)
  refine trim_eq_iff.2 ⟨left, right ++ gap.toList, ?_, hleft, hright.append hgap, hbegin, hend⟩
  rw [String.toList_append, htext, List.append_assoc]

/-- Blanks at the beginning of a text are trimmed away. -/
theorem trim_gap_append {gap : String} (hgap : AllBlank gap.toList) (text : String) :
    trim (gap ++ text) = trim text := by
  obtain ⟨left, right, htext, hleft, hright, hbegin, hend⟩ := trim_eq_iff.1 (rfl : trim text = _)
  refine trim_eq_iff.2 ⟨gap.toList ++ left, right, ?_, hgap.append hleft, hright, hbegin, hend⟩
  rw [String.toList_append, htext, List.append_assoc, List.append_assoc, List.append_assoc]

end Trim

/-! ## 2. Words -/

/-- Whether some words are what stands between the blanks of a list, in their order. -/
inductive Spaced : List Char → List (List Char) → Prop where
  | nil {gap : List Char} (h : AllBlank gap) : Spaced gap []
  | cons {gap word rest : List Char} {more : List (List Char)} (hgap : AllBlank gap)
      (hne : word ≠ []) (hword : ∀ c ∈ word, isBlank c = false)
      (hend : ∀ c ∈ rest.head?, isBlank c = true) (h : Spaced rest more) :
      Spaced (gap ++ word ++ rest) (word :: more)

section Words

variable {cs gap word rest : List Char} {ws : List (List Char)} {c : Char}

theorem words_cons_blank (h : isBlank c = true) (cs : List Char) : words (c :: cs) = words cs := by
  simp [words, cut, h]

theorem words_append_blank (hgap : AllBlank gap) (cs : List Char) :
    words (gap ++ cs) = words cs := by
  induction gap with
  | nil => rfl
  | cons c rest ih =>
    rw [List.cons_append, words_cons_blank (hgap c List.mem_cons_self)]
    exact ih fun d hd => hgap d (List.mem_cons_of_mem c hd)

/-- A list that begins with a run of other characters is cut where the run ends. -/
theorem cut_append (hword : ∀ c ∈ word, isBlank c = false)
    (hend : ∀ c ∈ rest.head?, isBlank c = true) :
    ∃ parts, cut isBlank (word ++ rest) = word :: parts ∧
      parts.filter (fun w => !w.isEmpty) = words rest := by
  induction word with
  | nil =>
    cases rest with
    | nil => exact ⟨[], rfl, rfl⟩
    | cons c tail =>
      have hblank := hend c rfl
      exact ⟨cut isBlank tail, by simp [cut, hblank], (words_cons_blank hblank tail).symm⟩
  | cons c tail ih =>
    obtain ⟨parts, hcut, hparts⟩ := ih fun d hd => hword d (List.mem_cons_of_mem c hd)
    refine ⟨parts, ?_, hparts⟩
    rw [List.cons_append, cut, if_neg (by simp [hword c List.mem_cons_self]), hcut]

theorem words_append (hne : word ≠ []) (hword : ∀ c ∈ word, isBlank c = false)
    (hend : ∀ c ∈ rest.head?, isBlank c = true) : words (word ++ rest) = word :: words rest := by
  obtain ⟨parts, hcut, hparts⟩ := cut_append hword hend
  rw [words, hcut, List.filter_cons_of_pos (by simpa using hne), hparts]

/-- A list that does not begin with a blank begins with a run of other characters, up to a
blank. -/
theorem exists_word (h : isBlank c = false) (cs : List Char) :
    ∃ word rest, c :: cs = word ++ rest ∧ word ≠ [] ∧ (∀ d ∈ word, isBlank d = false) ∧
      ∀ d ∈ rest.head?, isBlank d = true := by
  refine ⟨(c :: cs).takeWhile fun d => !isBlank d, (c :: cs).dropWhile fun d => !isBlank d,
    List.takeWhile_append_dropWhile.symm, by simp [h], fun d hd => ?_, fun d hd => ?_⟩
  · simpa using List.mem_takeWhile_imp hd
  · have hhead := List.head?_dropWhile_not (fun d => !isBlank d) (c :: cs)
    rw [show ((c :: cs).dropWhile fun d => !isBlank d).head? = some d from hd] at hhead
    simpa using hhead

/-- The words of a list stand between its blanks. -/
theorem spaced_words (cs : List Char) : Spaced cs (words cs) := by
  -- what is left after a word is shorter
  induction hlength : cs.length using Nat.strong_induction_on generalizing cs with
  | _ count ih =>
    obtain ⟨gap, hcs, hgap, hflush⟩ := dropBlanks_eq_iff.1 (rfl : dropBlanks cs = dropBlanks cs)
    generalize dropBlanks cs = left at hcs hflush
    subst hcs
    cases left with
    | nil =>
      rw [words_append_blank hgap, List.append_nil]
      exact .nil hgap
    | cons c tail =>
      obtain ⟨word, rest, heq, hne, hword, hend⟩ := exists_word (flush_cons.1 hflush) tail
      rw [words_append_blank hgap, heq, words_append hne hword hend, ← List.append_assoc]
      refine .cons hgap hne hword hend (ih _ ?_ rest rfl)
      have hpos := List.length_pos_iff.2 hne
      rw [← hlength, heq, List.length_append, List.length_append]
      omega

/-- **The words of a list are what stands between its blanks.** -/
theorem words_eq_iff : words cs = ws ↔ Spaced cs ws := by
  constructor
  · rintro rfl
    exact spaced_words cs
  · intro h
    induction h with
    | nil h =>
      have hwords := words_append_blank h []
      rwa [List.append_nil] at hwords
    | cons hgap hne hword hend _ ih =>
      rw [List.append_assoc, words_append_blank hgap, words_append hne hword hend, ih]

end Words

/-! ## 3. Lines -/

/-- Whether a line is a text without one carriage return at its end. -/
def Unended (raw line : String) : Prop :=
  raw.toList = line.toList ++ ['\r'] ∨ raw = line ∧ raw.toList.getLast? ≠ some '\r'

/-- Whether some lines are what stands between the line feeds of a text, each without one carriage
return at its end. -/
def Lined (s : String) (ls : List String) : Prop :=
  ∃ raws, raws ≠ [] ∧ joined "\n" raws = s ∧ (∀ raw ∈ raws, '\n' ∉ raw.toList) ∧
    List.Forall₂ Unended raws ls

section Lines

variable {s raw line : String} {ls raws : List String} {part rest : List Char}

theorem unended_iff : Unended raw line ↔ line = String.ofList (dropCarriageReturn raw.toList) := by
  rw [← String.toList_inj, String.toList_ofList, dropCarriageReturn, Unended]
  split
  · rename_i hlast
    obtain ⟨start, hraw⟩ := List.getLast?_eq_some_iff.1 hlast
    rw [hraw, List.dropLast_concat]
    constructor
    · rintro (h | ⟨-, hne⟩)
      · exact (List.append_cancel_right h).symm
      · exact absurd List.getLast?_concat hne
    · intro h
      exact .inl (by rw [h])
  · rename_i hlast
    constructor
    · rintro (h | ⟨rfl, -⟩)
      · exact absurd (by rw [h, List.getLast?_concat]) hlast
      · rfl
    · intro h
      exact .inr ⟨String.toList_inj.1 h.symm, hlast⟩

/-- What holds no line feed is one line. -/
theorem cut_of_not_mem (h : '\n' ∉ part) : cut (· == '\n') part = [part] := by
  induction part with
  | nil => rfl
  | cons c tail ih =>
    have hc : ¬ (c == '\n') = true := by simpa using (List.ne_of_not_mem_cons h).symm
    rw [cut, if_neg hc, ih (List.not_mem_of_not_mem_cons h)]

/-- A line ends at the first line feed. -/
theorem cut_append_lineFeed (h : '\n' ∉ part) :
    cut (· == '\n') (part ++ '\n' :: rest) = part :: cut (· == '\n') rest := by
  induction part with
  | nil => rfl
  | cons c tail ih =>
    have hc : ¬ (c == '\n') = true := by simpa using (List.ne_of_not_mem_cons h).symm
    rw [List.cons_append, cut, if_neg hc, ih (List.not_mem_of_not_mem_cons h)]

/-- Joined lines are cut where they were joined. -/
theorem cut_joined (hne : raws ≠ []) (h : ∀ raw ∈ raws, '\n' ∉ raw.toList) :
    cut (· == '\n') (joined "\n" raws).toList = raws.map (·.toList) := by
  induction raws with
  | nil => exact absurd rfl hne
  | cons raw more ih =>
    have hraw := h raw List.mem_cons_self
    cases more with
    | nil => exact cut_of_not_mem hraw
    | cons next more =>
      have hmore := ih (List.cons_ne_nil next more) fun other hother =>
        h other (List.mem_cons_of_mem raw hother)
      rw [joined_cons_cons, String.toList_append, String.toList_append,
        show "\n".toList = ['\n'] from rfl, List.append_assoc, List.singleton_append,
        cut_append_lineFeed hraw, hmore]
      rfl

theorem joined_cons (h : ls ≠ []) : joined "\n" (line :: ls) = line ++ "\n" ++ joined "\n" ls := by
  cases ls with
  | nil => exact absurd rfl h
  | cons next more => rfl

theorem joined_append_cons :
    joined "\n" ((raw ++ line) :: ls) = raw ++ joined "\n" (line :: ls) := by
  cases ls with
  | nil => rfl
  | cons next more => simp only [joined_cons_cons, String.append_assoc]

/-- What was cut is joined again. -/
theorem joined_cut (cs : List Char) :
    joined "\n" ((cut (· == '\n') cs).map String.ofList) = String.ofList cs := by
  induction cs with
  | nil => rfl
  | cons c rest ih =>
    have hne : (cut (· == '\n') rest).map String.ofList ≠ [] := by simp [cut_ne_nil]
    rw [cut]
    split
    · rename_i hc
      rw [List.map_cons, joined_cons hne, ih, eq_of_beq hc, ← String.toList_inj]
      simp
    · cases hcut : cut (· == '\n') rest with
      | nil => exact absurd hcut (cut_ne_nil _ _)
      | cons first more =>
        rw [hcut, List.map_cons] at ih
        have hfirst : String.ofList (c :: first) = String.ofList [c] ++ String.ofList first := by
          rw [← String.ofList_append, List.singleton_append]
        rw [List.map_cons, hfirst, joined_append_cons, ih, ← String.ofList_append,
          List.singleton_append]

/-- **The lines of a text are what stands between its line feeds**, without their line ends. -/
theorem lines_eq_iff : lines s = ls ↔ Lined s ls := by
  constructor
  · rintro rfl
    refine ⟨(cut (· == '\n') s.toList).map String.ofList, ?_, ?_, ?_, ?_⟩
    · simp [cut_ne_nil]
    · rw [joined_cut, String.ofList_toList]
    · intro raw hraw
      obtain ⟨part, hpart, rfl⟩ := List.mem_map.1 hraw
      rw [String.toList_ofList]
      intro hmem
      simpa using not_of_mem_cut hpart hmem
    · rw [lines, List.forall₂_map_left_iff, List.forall₂_map_right_iff, List.forall₂_same]
      intro part _
      rw [unended_iff, String.toList_ofList]
  · rintro ⟨raws, hne, rfl, hraws, hunended⟩
    rw [lines, cut_joined hne hraws, List.map_map, ← List.forall₂_eq_eq_eq,
      List.forall₂_map_left_iff]
    exact hunended.imp fun raw line h => (unended_iff.1 h).symm

end Lines

end PromptChain.Text
