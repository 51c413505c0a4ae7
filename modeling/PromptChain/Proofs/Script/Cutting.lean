/-
# Scripts that are cut

The reader goes on past a line that opens a block before it knows what the block holds, yet a bad
line decides alone.  The lines above it are laid out as passages, and every block among them has
been closed above it; so these lines make a script of their own that is read (`Laid.parse`), and
whatever stands below the bad line, the reading stops there and for the same reason
(`Stops.exists_line`).

A script is cut to its first lines by `firstLines`; cut to none it is the empty text, which is one
empty line.
-/
import PromptChain.Proofs.Script.Stopping

namespace PromptChain

open PromptChain.Text

/-! ## 1. The first lines of a text -/

namespace Text

/-- The first lines of a text as they stand, without what follows them; all of it when it has no
more. -/
def firstLines (n : Nat) (s : String) : String :=
  joined "\n" (((cut (· == '\n') s.toList).take n).map String.ofList)

section FirstLines

variable {s : String} {n : Nat}

theorem firstLines_zero (s : String) : firstLines 0 s = "" := rfl

/-- **A text that is cut to some lines has these lines.** -/
theorem lines_firstLines (hpos : 0 < n) : lines (firstLines n s) = (lines s).take n := by
  have hne : ((cut (· == '\n') s.toList).take n).map String.ofList ≠ [] := by
    simp [List.take_eq_nil_iff, cut_ne_nil, Nat.ne_of_gt hpos]
  have hunbroken : ∀ raw ∈ ((cut (· == '\n') s.toList).take n).map String.ofList,
      '\n' ∉ raw.toList := by
    intro raw hraw hmem
    obtain ⟨part, hpart, rfl⟩ := List.mem_map.1 hraw
    rw [String.toList_ofList] at hmem
    simpa using not_of_mem_cut (List.mem_of_mem_take hpart) hmem
  rw [firstLines, lines, cut_joined hne hunbroken, List.map_map, List.map_map, lines,
    ← List.map_take]
  refine List.map_congr_left fun part _ => ?_
  simp only [Function.comp_apply, String.toList_ofList]

end FirstLines

end Text

namespace Script

/-! ## 2. Lines that are read -/

section Lines

variable {seen ls : List String} {first n : Nat} {ps : List Passage} {source : String} {r : Refusal}

/-- Nothing is laid out in no lines. -/
theorem Laid.eq_nil (h : Laid seen first [] ps) : ps = [] := by
  cases h
  rfl

/-- **Lines that are laid out are read** as the entries of their passages. -/
theorem Laid.entriesFrom (h : Laid seen first ls ps) :
    entriesFrom seen .outside first ls = .ok (ps.map Passage.entry) := by
  induction h with
  | nil => rfl
  | skipped hraw more ih =>
    rw [entriesFrom_skipped hraw]
    exact ih
  | passage hbegins hmeans more ih =>
    rw [entriesFrom_passage hbegins hmeans, ih]
    rfl

/-- A script whose first lines are laid out is read when it is cut to them. -/
theorem Laid.parse (h : Laid [] 1 ((lines source).take n) ps) :
    Script.parse (firstLines n source) = .ok (nodesOf (ps.map Passage.entry)) := by
  have hlaid : Laid [] 1 (lines (firstLines n source)) ps := by
    rcases Nat.eq_zero_or_pos n with rfl | hpos
    · -- nothing is laid out, and the one line of the empty text is skipped
      rw [h.eq_nil, firstLines_zero]
      exact .skipped (.inl rfl) .nil
    · rwa [lines_firstLines hpos]
  rw [Script.parse, entries, hlaid.entriesFrom]
  rfl

/-! ## 3. The line of a refusal -/

/-- **A refusal is that of one line.**  The line is bad, the script is read when it is cut to the
lines above it, and every script with the same lines down to it is refused alike. -/
theorem exists_refused_line (h : parse source = .error r) : ∃ n raw ids,
    (lines source)[n]? = some raw ∧ Bad ids (n + 1) raw r ∧
    (∃ nodes, parse (firstLines n source) = .ok nodes) ∧
    ∀ source', (lines source').take (n + 1) = (lines source).take (n + 1) →
      parse source' = .error r := by
  obtain ⟨before, raw, after, ps, hlines, hps, -, hbad, hany⟩ :=
    (parse_eq_error_iff.1 h).exists_line
  rw [Nat.add_comm] at hbad
  have hnext : (lines source).take (before.length + 1) = before ++ [raw] := by
    rw [hlines, List.take_length_add_append]
    rfl
  have habove : Laid [] 1 ((lines source).take before.length) ps := by
    rwa [hlines, List.take_left]
  refine ⟨before.length, raw, _, ?_, hbad, ⟨_, habove.parse⟩, fun source' hsame => ?_⟩
  · rw [hlines, List.getElem?_append_right (Nat.le_refl _), Nat.sub_self]
    rfl
  · have hlines' : lines source' = before ++ raw :: (lines source').drop (before.length + 1) := by
      conv_lhs => rw [← List.take_append_drop (before.length + 1) (lines source'), hsame, hnext]
      simp
    rw [parse_eq_error_iff, hlines']
    exact hany _

end Lines

/-- **A fault of a line is that of the first bad line.**  It gives the number of a line of the
script and the text of this line without the blanks around it.  The script is read when it is cut
to the lines above, and every script that has the same lines down to this one is refused with the
same number, text and rule, whatever follows. -/
theorem bad_line_decides {source : String} {bad : BadLine} (h : parse source = .error (.line bad)) :
    ∃ n raw, bad.line = (n + 1 : Nat) ∧ (lines source)[n]? = some raw ∧ bad.text = trim raw ∧
      (∃ nodes, parse (firstLines n source) = .ok nodes) ∧
      ∀ source', (lines source').take (n + 1) = (lines source).take (n + 1) →
        parse source' = .error (.line bad) := by
  obtain ⟨n, raw, ids, hraw, hbad, hcut, hsame⟩ := exists_refused_line h
  exact ⟨n, raw, hbad.named.1, hraw, hbad.named.2, hcut, hsame⟩

/-- A script that gives an id twice, and then on a line that opens a block. -/
def openingTwinScript : String :=
  "#a = first\n" ++
  "flash: \"\"\"\n" ++
  "#a = text\n" ++
  "\"\"\"\n" ++
  "  #a flash: \"\"\"\n" ++
  "never closed"

/-- It is refused at its fifth line, which opens a block that no line closes; so is it when the
block is closed and other bad lines follow. -/
theorem bad_line_decides_opening :
    parse openingTwinScript = .error (.line ⟨5, "#a flash: \"\"\"", .repeatedId "a"⟩) ∧
    (∃ nodes, parse (firstLines 4 openingTwinScript) = .ok nodes) ∧
    parse (openingTwinScript ++ "\"\"\"\n+nothing") =
      .error (.line ⟨5, "#a flash: \"\"\"", .repeatedId "a"⟩) := by
  have heval : (match parse openingTwinScript with
      | .ok _ => none
      | .error r => some r) = some (.line ⟨5, "#a flash: \"\"\"", .repeatedId "a"⟩) := by
    decide +kernel
  have hparse : parse openingTwinScript =
      .error (.line ⟨5, "#a flash: \"\"\"", .repeatedId "a"⟩) := by
    split at heval
    · cases heval
    · rename_i r hparse
      rw [hparse, Option.some.inj heval]
  obtain ⟨n, raw, hline, -, -, hcut, hsame⟩ := bad_line_decides hparse
  obtain rfl : n = 4 := by
    have hnumber : (5 : Int) = (n + 1 : Nat) := hline
    omega
  exact ⟨hparse, hcut, hsame _ (by decide +kernel)⟩

end Script
end PromptChain
