/-
# How a script is refused

A script that cannot be read is refused at its first bad line, and at no other.  The refusal names
that line by its number and its text when the line breaks the grammar or repeats an id, and then
the service has a response for it.  There is one more way, for which it has none: a line that is
read gives an id with more characters than a node's id may have, and no node is built from it.

A source is a text, which is never torn.  What is said of the service is said of bodies that can be
read, and none with a torn script can.
-/
import PromptChain.Proofs.Script.Stopping
import PromptChain.Service.Basic

namespace PromptChain

open PromptChain.Text PromptChain.Script

namespace Service

/-- The path to read a script is known in every deployment. -/
theorem respond_parse (service : Service) (body : ByteArray) :
    service.respond ⟨"POST", "/v1/workflows/parse", body⟩ = parse body := by
  have hroute : ∀ d, route? d "/v1/workflows/parse" = some .parse := by
    intro d
    cases d <;> decide +kernel
  simp only [respond, hroute]
  rfl

/-- The answer to a request to read a script, by what reading it gives. -/
def ofParse : Except Refusal (List Node) → Answer
  | .ok nodes => .response ⟨200, some (scriptBody (linked nodes))⟩
  | .error (.line bad) =>
    .response (faultResponse 400 bad.message "ParseError" [("line_number", .int bad.line)])
  | .error (.node faults) => .badNode faults

theorem parse_of_readBody {body : ByteArray} {source : String}
    (h : readBody scriptField body = .ok source) : parse body = ofParse (Script.parse source) := by
  simp only [parse, h, Script.load]
  cases Script.parse source with
  | ok nodes => rfl
  | error r => cases r <;> rfl

end Service

/-- What a script is refused with at a bad line: the line's number and its text, or that the id it
gives is too long for a node. -/
inductive RefusedWith (line : Nat) (raw : String) : Refusal → Prop where
  | badLine {bad : BadLine} (hline : bad.line = line) (htext : bad.text = trim raw) :
      RefusedWith line raw (.line bad)
  | longId {h : Header} (hread : Header.read line (trim raw) = .ok h)
      (hlong : Node.idLimit < (Entry.ofHeader line raw h).id.length) :
      RefusedWith line raw (.node [⟨["id"], .tooLong Node.idLimit⟩])

theorem Script.Bad.refusedWith {seen : List String} {line : Nat} {raw : String} {r : Refusal}
    (h : Bad seen line raw r) (hline : 1 ≤ line) : RefusedWith line raw r := by
  cases r with
  | line bad => exact .badLine h.named.1 h.named.2
  | node faults =>
    cases h with
    | unbuilt hread hnew hfaults =>
      obtain ⟨hlong, rfl⟩ := (ofFields_ofHeader hline hread).1 hfaults
      exact .longId hread hlong

/-- **A script is refused at its first bad line.**  Every source is read into nodes, each of which
can be built from what its lines say, or its reading stops at a line; all lines before that are laid
out, and the refusal is that line's.  It is the line's number and text unless the line gives an id
that is too long; and the service has a response for all but this, when the body that brings the
source can be read. -/
theorem script_refused_at_first_bad_line (source : String) :
    (∀ nodes, Script.parse source = .ok nodes →
      ∃ es, nodesOf es = nodes ∧ ∀ e ∈ es, Node.ofFields e.fields = .ok (e.toNode [])) ∧
    (∀ r, Script.parse source = .error r ↔ Stops [] 1 (lines source) r) ∧
    (∀ r, Script.load source = .error r ↔ Script.parse source = .error r) ∧
    (∀ r, Script.parse source = .error r → ∃ i raw ps, (lines source)[i]? = some raw ∧
      Laid [] 1 ((lines source).take i) ps ∧ ¬ Skippable raw ∧
      Bad (ps.map fun p => p.entry.id).reverse (i + 1) raw r ∧ RefusedWith (i + 1) raw r) ∧
    ∀ (service : Service) (body : ByteArray),
      Service.readBody Service.scriptField body = .ok source →
      service.respond ⟨"POST", "/v1/workflows/parse", body⟩ =
        Service.ofParse (Script.parse source) := by
  refine ⟨fun nodes => built_of_parse, fun r => parse_eq_error_iff, fun r => ?_, fun r h => ?_,
    fun service body h => ?_⟩
  · rw [Script.load]
    cases Script.parse source <;> simp [Except.map]
  · obtain ⟨i, raw, ps, hi, hps, hraw, hbad⟩ := (parse_eq_error_iff.1 h).exists_bad
    rw [List.append_nil, Nat.add_comm] at hbad
    exact ⟨i, raw, ps, hi, hps, hraw, hbad, hbad.refusedWith (Nat.succ_pos i)⟩
  · rw [Service.respond_parse, Service.parse_of_readBody h]

/-- A script that gives an id in a block and outside it, and then again outside. -/
def fencedTwinScript : String :=
  "#a = first\n" ++
  "flash: \"\"\"\n" ++
  "#a = text\n" ++
  "\"\"\"\n" ++
  "  #a flash: again\n" ++
  "+nothing"

/-- It is refused at its fifth line, for the id that the first gives. -/
theorem script_refused_at_first_bad_line_fenced :
    Script.parse fencedTwinScript = .error (.line ⟨5, "#a flash: again", .repeatedId "a"⟩) ∧
      Stops [] 1 (lines fencedTwinScript) (.line ⟨5, "#a flash: again", .repeatedId "a"⟩) := by
  have heval : (match Script.parse fencedTwinScript with
      | .ok _ => none
      | .error r => some r) = some (.line ⟨5, "#a flash: again", .repeatedId "a"⟩) := by
    decide +kernel
  have hparse : Script.parse fencedTwinScript =
      .error (.line ⟨5, "#a flash: again", .repeatedId "a"⟩) := by
    split at heval
    · cases heval
    · rename_i r hparse
      rw [hparse, Option.some.inj heval]
  exact ⟨hparse, ((script_refused_at_first_bad_line fencedTwinScript).2.1 _).1 hparse⟩

section Assigning

variable {source : String} {name : List Char}

theorem Text.lines_eq_singleton (hended : '\n' ∉ source.toList)
    (hlast : source.toList.getLast? ≠ some '\r') : lines source = [source] := by
  refine lines_eq_iff.2 ⟨[source], List.cons_ne_nil _ _, joined_singleton _ _, by simpa, ?_⟩
  exact .cons (.inr ⟨rfl, hlast⟩) .nil

/-- An assignment to a name is one line, with no blanks around it. -/
theorem lines_of_assigned (hname : isName name = true)
    (hchars : source.toList = '#' :: name ++ " = x".toList) :
    lines source = [source] ∧ trim source = source := by
  have hnot : '\n' ∉ name := by
    intro hmem
    rw [isName, Bool.and_eq_true, List.all_eq_true] at hname
    exact absurd (hname.2 _ hmem) (by simp [not_isNameChar_of_isBlank (c := '\n') (by decide)])
  have hlast : source.toList.getLast? = some 'x' := by
    rw [hchars, List.getLast?_append]
    rfl
  refine ⟨Text.lines_eq_singleton (by simp [hchars, hnot]) (by simp [hlast]), trim_eq_iff.2 ?_⟩
  refine ⟨[], [], by simp, by simp [AllBlank], by simp [AllBlank], ?_, ?_⟩
  · rw [hchars]
    exact flush_cons.2 (by decide)
  · rw [hchars, List.reverse_append]
    exact flush_cons.2 (by decide)

theorem ofLine_of_assigned (hname : isName name = true)
    (hchars : source.toList = '#' :: name ++ " = x".toList) :
    Header.ofLine source = .ok { id := some (String.ofList name), prompt := "x" } := by
  have hblank : AllBlank [' '] := by simpa [AllBlank] using (by decide : isBlank ' ' = true)
  have hassign : Assignment source.toList name ['x'] :=
    ⟨[' '], [' '], by simp [hchars], hname, hblank, hblank, flush_cons.2 (by decide)⟩
  rw [Header.ofLine, assignment?_eq_some_iff.2 hassign]

/-- **An assignment to a name that is too long** keeps to the grammar, and no node is built from
it. -/
theorem parse_of_long_name (hname : isName name = true) (hlong : Node.idLimit < name.length) :
    Script.parse (String.ofList ('#' :: name ++ " = x".toList)) =
      .error (.node [⟨["id"], .tooLong Node.idLimit⟩]) := by
  generalize hsource : String.ofList ('#' :: name ++ " = x".toList) = source
  have hchars : source.toList = '#' :: name ++ " = x".toList := by
    rw [← hsource, String.toList_ofList]
  obtain ⟨hlines, htrim⟩ := lines_of_assigned hname hchars
  have hread : Header.read (1 : Nat) (trim source) =
      .ok { id := some (String.ofList name), prompt := "x" } := by
    rw [htrim, Header.read, ofLine_of_assigned hname hchars]
  have hskip : ¬ Skippable source := by
    rw [Skippable, htrim]
    rintro (rfl | ⟨rest, hrest⟩)
    · cases hchars
    · rw [hchars] at hrest
      cases hrest
  refine parse_eq_error_iff.2 (hlines ▸ .here hskip (.unbuilt hread (by simp) ?_))
  refine (ofFields_ofHeader (Nat.le_refl 1) hread).2 ⟨?_, rfl⟩
  simpa [Entry.ofHeader] using hlong

end Assigning

/-- A line that keeps to the grammar with an id of 256 characters: it is read into no nodes, and not
refused for a bad line either. -/
theorem parse_long_name_256 :
    let source := String.ofList ('#' :: List.replicate 256 'a' ++ " = x".toList)
    Script.parse source = .error (.node [⟨["id"], .tooLong 255⟩]) ∧
      (∀ nodes, Script.parse source ≠ .ok nodes) ∧
      ∀ bad, Script.parse source ≠ .error (.line bad) := by
  intro source
  have hname : isName (List.replicate 256 'a') = true := by
    rw [isName, List.all_replicate]
    decide
  have hparse : Script.parse source = .error (.node [⟨["id"], .tooLong 255⟩]) :=
    parse_of_long_name hname (by rw [List.length_replicate]; decide)
  rw [hparse]
  exact ⟨rfl, fun nodes h => (by cases h), fun bad h => (by cases h)⟩

end PromptChain
