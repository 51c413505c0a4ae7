/-
# Scripts that look different

Much of how a script looks is not part of what it says.  It may be moved to the right as a whole,
each line by a tab or by two spaces: the nodes are the same, and all are one level deeper
(`parse_indented`).  Blanks at the ends of lines, line ends and comments may be changed: the nodes
are the same altogether (`parse_restyled`).  The lines in a block are kept, since they are text.

Which lines these are is told by one of the two scripts, and so is how far they are read; below a
bad line the scripts have nothing in common.
-/
import PromptChain.Proofs.Script.Kinds

namespace PromptChain

open PromptChain.Text

/-! ## 1. Lines with their carriage returns -/

namespace Text

/-- The lines of a text, each with its carriage return if it has one. -/
def rawLines (s : String) : List String := (cut (· == '\n') s.toList).map String.ofList

/-- A line without one carriage return at its end. -/
def withoutReturn (raw : String) : String := String.ofList (dropCarriageReturn raw.toList)

theorem lines_eq_map (s : String) : lines s = (rawLines s).map withoutReturn := by
  rw [lines, rawLines, List.map_map]
  refine List.map_congr_left fun part _ => ?_
  rw [Function.comp_apply, withoutReturn, String.toList_ofList]

/-- Without its carriage return a line lacks a blank at its end, or nothing. -/
theorem exists_withoutReturn (raw : String) :
    ∃ gap, AllBlank gap.toList ∧ raw = withoutReturn raw ++ gap := by
  rcases unended_iff.2 (rfl : withoutReturn raw = _) with h | ⟨h, -⟩
  · refine ⟨"\r", by decide, ?_⟩
    rw [← String.toList_inj, String.toList_append]
    exact h
  · exact ⟨"", by decide, by rw [← h, String.append_empty]⟩

theorem trim_withoutReturn (raw : String) : trim (withoutReturn raw) = trim raw := by
  obtain ⟨gap, hgap, hraw⟩ := exists_withoutReturn raw
  rw [← trim_append_gap hgap, ← hraw]

end Text

namespace Script

/-! ## 2. Lines that are moved to the right -/

/-- What a line may be moved to the right with. -/
def indentUnits : List String := ["\t", "  "]

/-- Whether a line is what becomes of another of some kind when a script is moved to the right: the
lines of blocks stay. -/
def LineKind.Indented : LineKind × String → String → Prop
  | (.skipped, raw), raw' | (.header, raw), raw' => ∃ unit ∈ indentUnits, raw' = unit ++ raw
  | (.inner, raw), raw' | (.closing, raw), raw' => raw' = raw
  | (.unread, _), _ => True

section Indents

variable {gap unit raw raw' text : String} {kind : LineKind}

/-- What comes after the text of a line does not count for its indent. -/
theorem indentOf_append (htext : trim text ≠ "") (gap : String) :
    indentOf (text ++ gap) = indentOf text := by
  have hlength : (text.toList.takeWhile isBlank).length ≠ text.toList.length := by
    intro hlength
    refine htext (trim_eq_empty_iff.2 fun c hc => ?_)
    rw [← (List.takeWhile_prefix isBlank).eq_of_length hlength] at hc
    exact List.mem_takeWhile_imp hc
  rw [indentOf, indentOf, String.toList_append, List.takeWhile_append, if_neg hlength]

theorem indentOf_withoutReturn (hraw : trim raw ≠ "") :
    indentOf (withoutReturn raw) = indentOf raw := by
  obtain ⟨gap, -, hgap⟩ := exists_withoutReturn raw
  have hline : trim (withoutReturn raw) ≠ "" := by rwa [trim_withoutReturn]
  rw [← indentOf_append hline gap, ← hgap]

theorem allBlank_indentUnit (hunit : unit ∈ indentUnits) : AllBlank unit.toList := by
  have hall : ∀ unit ∈ indentUnits, AllBlank unit.toList := by decide
  exact hall unit hunit

/-- **A line that is moved to the right is one level deeper.** -/
theorem indentOf_unit_append (hunit : unit ∈ indentUnits) (raw : String) :
    indentOf (unit ++ raw) = indentOf raw + 1 := by
  have hwidth : ∀ width,
      unit.toList.foldr (fun c width => columns c + width) width = width + 2 := by
    intro width
    simp only [indentUnits, List.mem_cons, List.not_mem_nil, or_false] at hunit
    rcases hunit with rfl | rfl <;> simp [columns] <;> omega
  rw [indentOf, indentOf, String.toList_append,
    List.takeWhile_append_of_pos (allBlank_indentUnit hunit), List.foldr_append, hwidth,
    Nat.add_div_right _ (by decide)]

theorem LineKind.Indented.deeper (h : LineKind.Indented (kind, raw) raw') :
    LineKind.Deeper 1 (kind, withoutReturn raw) (withoutReturn raw') := by
  cases kind with
  | skipped =>
    obtain ⟨unit, hunit, rfl⟩ := h
    simp only [LineKind.Deeper, Skippable, trim_withoutReturn,
      trim_gap_append (allBlank_indentUnit hunit), imp_self]
  | header =>
    obtain ⟨unit, hunit, rfl⟩ := h
    have hsame : trim (unit ++ raw) = trim raw := trim_gap_append (allBlank_indentUnit hunit) raw
    simp only [LineKind.Deeper, trim_withoutReturn, hsame, true_and]
    intro hraw
    rw [indentOf_withoutReturn hraw, indentOf_withoutReturn (hsame ▸ hraw),
      indentOf_unit_append hunit]
  | inner => exact congrArg withoutReturn h
  | closing => exact congrArg (fun raw => trim (withoutReturn raw)) h
  | unread => trivial

end Indents

/-- What relates lines with their carriage returns relates them without. -/
theorem forall₂_lines {R S : LineKind × String → String → Prop} {source source' : String}
    (hRS : ∀ kind raw raw', R (kind, raw) raw' → S (kind, withoutReturn raw) (withoutReturn raw'))
    (h : List.Forall₂ R ((lineKinds source).zip (rawLines source)) (rawLines source')) :
    List.Forall₂ S ((lineKinds source).zip (lines source)) (lines source') := by
  rw [lines_eq_map, lines_eq_map, List.zip_map_right, List.forall₂_map_left_iff,
    List.forall₂_map_right_iff]
  exact h.imp fun ⟨kind, raw⟩ raw' => hRS kind raw raw'

/-- **Indentation is relative.** When each line that is not in a block is moved to the right by a
tab or by two spaces, the nodes are the same and all one level deeper, or the script is refused for
the same reason. -/
theorem parse_indented (source source' : String)
    (h : List.Forall₂ LineKind.Indented ((lineKinds source).zip (rawLines source))
      (rawLines source')) :
    parse source' = (parse source).map (List.map (Node.deeper 1)) :=
  parse_deeper (forall₂_lines (fun _ _ _ => LineKind.Indented.deeper) h)

/-- A script with a block, a comment and a line that is half a level off. -/
def blockScript : String :=
  "#a flash: \"\"\"\r\n" ++
  "  one\n" ++
  "two\"\"\"\n" ++
  "// note\n" ++
  "   #b = three\n" ++
  "\n" ++
  "\t pro: four"

/-- The nodes of that script. -/
def blockNodes : List Node := [
  { id := "a", kind := .llm (.nickname "flash"), template := "one\ntwo",
    children := ["b", "node_7"] },
  { id := "b", kind := .static, template := "three", indent := 1, line := 5 },
  { id := "node_7", kind := .llm (.nickname "pro"), template := "four", indent := 1, line := 7 }]

theorem parse_blockScript : parse blockScript = .ok blockNodes :=
  eq_ok_of_toOption (by decide +kernel)

theorem marked_blockScript : (lineKinds blockScript).zip (rawLines blockScript) = [
    (.header, "#a flash: \"\"\"\r"), (.inner, "  one"), (.closing, "two\"\"\""),
    (.skipped, "// note"), (.header, "   #b = three"), (.skipped, ""),
    (.header, "\t pro: four")] := by
  decide +kernel

/-- That script, moved to the right. -/
def indentedScript : String :=
  "\t#a flash: \"\"\"\r\n" ++
  "  one\n" ++
  "two\"\"\"\n" ++
  "  // note\n" ++
  "     #b = three\n" ++
  "\t\n" ++
  "  \t pro: four"

theorem parse_indented_block :
    List.Forall₂ LineKind.Indented ((lineKinds blockScript).zip (rawLines blockScript))
      (rawLines indentedScript) ∧
    parse blockScript = .ok blockNodes ∧
    parse indentedScript = .ok (blockNodes.map (Node.deeper 1)) := by
  have hraws : rawLines indentedScript = ["\t#a flash: \"\"\"\r", "  one", "two\"\"\"", "  // note",
      "     #b = three", "\t", "  \t pro: four"] := by decide +kernel
  have hlines : List.Forall₂ LineKind.Indented ((lineKinds blockScript).zip (rawLines blockScript))
      (rawLines indentedScript) := by
    rw [marked_blockScript, hraws]
    refine .cons ⟨"\t", by decide, rfl⟩ <| .cons rfl <| .cons rfl <| .cons ⟨"  ", by decide, rfl⟩ <|
      .cons ⟨"  ", by decide, rfl⟩ <| .cons ⟨"\t", by decide, rfl⟩ <|
      .cons ⟨"  ", by decide, rfl⟩ .nil
  refine ⟨hlines, parse_blockScript, ?_⟩
  rw [parse_indented _ _ hlines, parse_blockScript]
  rfl

/-! ## 3. Lines that look different -/

/-- Whether two lines are equal but for blanks at their ends. -/
def SameButEnd (raw raw' : String) : Prop :=
  ∃ text gap gap', raw = text ++ gap ∧ raw' = text ++ gap' ∧ AllBlank gap.toList ∧
    AllBlank gap'.toList

/-- Whether a line may stand for another of some kind without a change of what is said. -/
def LineKind.Restyled : LineKind × String → String → Prop
  | (.skipped, _), raw' => Skippable raw'
  | (.header, raw), raw' | (.closing, raw), raw' => SameButEnd raw raw'
  | (.inner, raw), raw' => withoutReturn raw' = withoutReturn raw
  | (.unread, _), _ => True

section Styles

variable {raw raw' : String} {kind : LineKind}

theorem SameButEnd.trim_eq (h : SameButEnd raw raw') : trim raw' = trim raw := by
  obtain ⟨text, gap, gap', rfl, rfl, hgap, hgap'⟩ := h
  rw [trim_append_gap hgap, trim_append_gap hgap']

theorem SameButEnd.indentOf_eq (h : SameButEnd raw raw') (hraw : trim raw ≠ "") :
    indentOf raw' = indentOf raw := by
  obtain ⟨text, gap, gap', rfl, rfl, hgap, -⟩ := h
  rw [trim_append_gap hgap] at hraw
  rw [indentOf_append hraw, indentOf_append hraw]

theorem LineKind.Restyled.deeper (h : LineKind.Restyled (kind, raw) raw') :
    LineKind.Deeper 0 (kind, withoutReturn raw) (withoutReturn raw') := by
  cases kind with
  | skipped =>
    have hskip : Skippable raw' := h
    simp only [LineKind.Deeper, Skippable, trim_withoutReturn]
    exact fun _ => hskip
  | header =>
    have hsame : trim raw' = trim raw := SameButEnd.trim_eq h
    simp only [LineKind.Deeper, trim_withoutReturn, hsame, true_and]
    intro hraw
    rw [indentOf_withoutReturn hraw, indentOf_withoutReturn (hsame ▸ hraw),
      SameButEnd.indentOf_eq h hraw, Nat.add_zero]
  | inner => exact h
  | closing =>
    simp only [LineKind.Deeper, trim_withoutReturn]
    exact SameButEnd.trim_eq h
  | unread => trivial

end Styles

/-- **Layout does not matter outside of blocks.** When the lines of two scripts that say something
differ in blanks at their ends only, those inside blocks in a carriage return only, and the lines
that are skipped in one are skipped in the other, the scripts have the same nodes, or are refused
for the same reason. -/
theorem parse_restyled (source source' : String)
    (h : List.Forall₂ LineKind.Restyled ((lineKinds source).zip (rawLines source))
      (rawLines source')) :
    parse source' = parse source := by
  have hsame : parse source' = (parse source).map (List.map (Node.deeper 0)) :=
    parse_deeper (forall₂_lines (fun _ _ _ => LineKind.Restyled.deeper) h)
  rw [hsame]
  cases parse source with
  | error refusal => rfl
  | ok nodes => exact congrArg Except.ok (List.map_id nodes)

/-- The script with a block, with other line ends, blanks and comments. -/
def restyledScript : String :=
  "#a flash: \"\"\" \n" ++
  "  one\r\n" ++
  "two\"\"\"\t\r\n" ++
  "\r\n" ++
  "   #b = three\r\n" ++
  "  // note\n" ++
  "\t pro: four  "

theorem parse_restyled_block :
    List.Forall₂ LineKind.Restyled ((lineKinds blockScript).zip (rawLines blockScript))
      (rawLines restyledScript) ∧
    parse blockScript = .ok blockNodes ∧ parse restyledScript = .ok blockNodes := by
  have hraws : rawLines restyledScript = ["#a flash: \"\"\" ", "  one\r", "two\"\"\"\t\r", "\r",
      "   #b = three\r", "  // note", "\t pro: four  "] := by decide +kernel
  have hlines : List.Forall₂ LineKind.Restyled ((lineKinds blockScript).zip (rawLines blockScript))
      (rawLines restyledScript) := by
    rw [marked_blockScript, hraws]
    refine .cons ⟨"#a flash: \"\"\"", "\r", " ", rfl, rfl, by decide, by decide⟩ <| .cons rfl <|
      .cons ⟨"two\"\"\"", "", "\t\r", rfl, rfl, by decide, by decide⟩ <| .cons (.inl rfl) <|
      .cons ⟨"   #b = three", "", "\r", rfl, rfl, by decide, by decide⟩ <|
      .cons (isSkipped_iff.1 rfl) <|
      .cons ⟨"\t pro: four", "", "  ", rfl, rfl, by decide, by decide⟩ .nil
  refine ⟨hlines, parse_blockScript, ?_⟩
  rw [parse_restyled _ _ hlines, parse_blockScript]

end Script
end PromptChain
