/-
# Where the reading of a script stops

A script is refused at its first bad line (`Stops`, `parse_eq_error_iff`).  A line is bad when it
breaks the grammar, when its id has been given before, or when no node is built from what it says.

Whether a node is built is decided by the rules for nodes, which know nothing of lines.  Nearly all
of them hold of whatever the grammar lets through: an id is a name, a line has a number from one
on, and a model is named exactly if the node has the kind for it.  What is left is one bound that
the grammar does not have, that on the length of an id (`ofFields_fields`).
-/
import PromptChain.Proofs.Node.Fields
import PromptChain.Proofs.Script.Grammar
import PromptChain.Proofs.Script.Loaded

namespace PromptChain

open PromptChain.Text PromptChain.Form

/-! ## 1. Ids that lines give -/

namespace Text

theorem isNameChar_of_isDigit {c : Char} (h : c.isDigit = true) : isNameChar c = true := by
  obtain ⟨hfirst, hlast⟩ : 0x30 ≤ c.toNat ∧ c.toNat ≤ 0x39 := by
    simp only [Char.isDigit, ge_iff_le, UInt32.le_iff_toNat_le, Bool.and_eq_true,
      decide_eq_true_eq] at h
    exact h
  obtain ⟨rest, hrest⟩ : ∃ rest, wordRanges = (0x30, 0x39) :: rest := ⟨_, rfl⟩
  rw [isNameChar, isWordChar, Ranges.has, hrest, Ranges.covers, if_neg (Nat.not_lt.2 hfirst),
    decide_eq_true hlast, Bool.true_or, Bool.or_true]

end Text

namespace Script

section Ids

variable {line : Nat} {number : Int} {raw text : String} {h : Header} {id : String}

theorem isName_idOfLine (line : Nat) : isName (Entry.idOfLine line).toList = true := by
  have hword : ∀ c ∈ "node_".toList, isNameChar c = true := List.all_eq_true.1 (by decide)
  have hdigits : ∀ c ∈ (toString line).toList, isNameChar c = true := by
    intro c hc
    rw [Nat.toString_eq_repr, Nat.repr, String.toList_ofList] at hc
    exact isNameChar_of_isDigit (Nat.isDigit_of_mem_toDigits (by decide) (by decide) hc)
  rw [Entry.idOfLine, String.toList_append, isName, Bool.and_eq_true, List.all_eq_true]
  refine ⟨rfl, fun c hc => ?_⟩
  exact (List.mem_append.1 hc).elim (hword c) (hdigits c)

/-- An id that a line gives is a name. -/
theorem isName_of_read (hread : Header.read number text = .ok h) (hid : h.id = some id) :
    isName id.toList = true := by
  have hline : Header.ofLine text = .ok h := by
    rw [Header.read] at hread
    split at hread
    · cases hread
    · cases hread
      assumption
  rw [Header.ofLine] at hline
  split at hline
  · rename_i name content hassign
    cases hline
    cases hid
    obtain ⟨_, _, -, hname, -⟩ := assignment?_eq_some_iff.1 hassign
    rwa [String.toList_ofList]
  · rw [← String.ofList_toList (s := trim _)] at hline
    obtain ⟨p, hp, -, rfl⟩ := exists_parts hline
    obtain ⟨name, hname, rfl⟩ := Option.map_eq_some_iff.1 hid
    rw [String.toList_ofList]
    exact hp.id name hname

/-- **The id of an entry is a name**, whether it is written or made up. -/
theorem isName_ofHeader (hread : Header.read line text = .ok h) :
    isName (Entry.ofHeader line raw h).id.toList = true := by
  rw [Entry.ofHeader]
  cases hid : h.id with
  | none => exact isName_idOfLine line
  | some id => exact isName_of_read hread hid

/-- All that can be wrong with a name is its length. -/
theorem idProblem?_of_isName (hname : isName id.toList = true) : Node.idProblem? id =
    if Node.idLimit < id.length then some (.tooLong Node.idLimit) else none := by
  have hne : id.isEmpty = false := by
    rw [isName, Bool.and_eq_true, Bool.not_eq_true', List.isEmpty_eq_false_iff] at hname
    rw [String.isEmpty_eq_false_iff]
    rintro rfl
    exact hname.1 rfl
  simp [Node.idProblem?, hne, hname]

end Ids

/-! ## 2. Nodes that are built -/

/-- The fields that a node is built from, as an entry has them. -/
def Entry.fields (e : Entry) : Fields := [
  ("id", .str e.id), ("kind", .str (if e.model.isSome then "llm" else "static")),
  ("prompt_template", .str e.prompt), ("indent_level", .int e.indent),
  ("line_number", .int e.line), ("flags", .arr (e.flags.map .str)),
  ("model", match e.model with
    | some model => .str model
    | none => .null)]

/-- **A node is built from an entry unless there is something wrong with its id.** -/
theorem ofFields_fields (e : Entry) (hline : 1 ≤ e.line) :
    Node.ofFields e.fields = match Node.idProblem? e.id with
      | some problem => .error [⟨["id"], problem⟩]
      | none => .ok (e.toNode []) := by
  have hid : field e.fields "id" none (checking text Node.idProblem?) =
      match Node.idProblem? e.id with
        | some problem => .error [⟨["id"], problem⟩]
        | none => .ok e.id := by
    rw [field_eq_of_lookup (j := .str e.id) rfl]
    simp only [checking, text]
    cases Node.idProblem? e.id <;> rfl
  have hkind : field e.fields "kind" none Node.kindWord =
      .ok (if e.model.isSome then .llm else .static) :=
    field_eq_ok rfl (by cases e.model <;> rfl) none
  have hindent : field e.fields "indent_level" (some 0) (natFrom 0) = .ok e.indent :=
    field_eq_ok rfl (natFrom_int (Nat.zero_le _)) _
  have hnumber : field e.fields "line_number" (some 1) (natFrom 1) = .ok e.line :=
    field_eq_ok rfl (natFrom_int hline) _
  have hflags : field e.fields "flags" (some []) (list text) = .ok e.flags :=
    field_eq_ok rfl (list_texts e.flags) _
  have hmodel : field e.fields "model" (some none) (nullable text) = .ok e.model :=
    field_eq_ok rfl (by cases e.model <;> rfl) _
  have hraw : Node.rawOfFields e.fields = match Node.idProblem? e.id with
      | some problem => .error [⟨["id"], problem⟩]
      | none => .ok ⟨e.id, if e.model.isSome then .llm else .static, e.prompt, e.indent, e.line, [],
          [], e.flags, e.model, none⟩ := by
    rw [Node.rawOfFields, hid, hkind, hindent, hnumber, hflags, hmodel]
    cases Node.idProblem? e.id <;> rfl
  rw [Node.ofFields, hraw]
  cases Node.idProblem? e.id with
  | some problem => rfl
  | none =>
    rw [Entry.toNode, Entry.kind]
    cases e.model <;> rfl

/-! ## 3. Bad lines -/

/-- Why a line that may not be skipped begins no node: it cannot be read, its id has been given
before, or no node is built from what it says. -/
inductive Bad (seen : List String) (line : Nat) (raw : String) : Refusal → Prop where
  | unread {bad : BadLine} (hread : Header.read line (trim raw) = .error bad) :
      Bad seen line raw (.line bad)
  | repeated {h : Header} (hread : Header.read line (trim raw) = .ok h)
      (hseen : (Entry.ofHeader line raw h).id ∈ seen) :
      Bad seen line raw (.line ⟨line, trim raw, .repeatedId (Entry.ofHeader line raw h).id⟩)
  | unbuilt {h : Header} {faults : List Fault} (hread : Header.read line (trim raw) = .ok h)
      (hnew : (Entry.ofHeader line raw h).id ∉ seen)
      (hfaults : Node.ofFields (Entry.ofHeader line raw h).fields = .error faults) :
      Bad seen line raw (.node faults)

/-- Whether the reading of some lines stops at one of them, and with what: the lines before it are
laid out as passages, and it is the first that is none of theirs and may not be skipped. -/
inductive Stops : List String → Nat → List String → Refusal → Prop where
  | skipped {seen : List String} {first : Nat} {raw : String} {rest : List String} {r : Refusal}
      (hraw : Skippable raw) (more : Stops seen (first + 1) rest r) :
      Stops seen first (raw :: rest) r
  | passage {seen : List String} {p : Passage} {after : List String} {r : Refusal}
      (hbegins : Begins seen p.line p.raw p.header)
      (hmeans : Means p.header.prompt p.block after p.text)
      (more : Stops (p.entry.id :: seen) (p.last + 1) after r) :
      Stops seen p.line (p.raw :: (p.block ++ after)) r
  | here {seen : List String} {first : Nat} {raw : String} {rest : List String} {r : Refusal}
      (hraw : ¬ Skippable raw) (hbad : Bad seen first raw r) : Stops seen first (raw :: rest) r

/-- Whether reading stops in some lines, after those of an open block, once they have ended it. -/
def StopsBeyond (seen : List String) (first : Nat) (inner rest : List String) (r : Refusal) :
    Prop :=
  ∃ block after text, rest = block ++ after ∧ Means fence (inner ++ block) after text ∧
    Stops seen (first + block.length) after r

section Lines

variable {seen inner rest : List String} {line first : Nat} {raw last : String} {h : Header}
  {e : Entry} {bad : BadLine} {faults : List Fault} {r : Refusal}

/-- **No node is built from a line that is read only if its id is too long.** -/
theorem ofFields_ofHeader (hline : 1 ≤ line) (hread : Header.read line (trim raw) = .ok h) :
    Node.ofFields (Entry.ofHeader line raw h).fields = .error faults ↔
      Node.idLimit < (Entry.ofHeader line raw h).id.length ∧
        faults = [⟨["id"], .tooLong Node.idLimit⟩] := by
  rw [ofFields_fields _ hline, idProblem?_of_isName (isName_ofHeader hread)]
  by_cases hlong : Node.idLimit < (Entry.ofHeader line raw h).id.length
  · simp [hlong, eq_comm]
  · simp [hlong]

/-- A bad line is named by its number and its text. -/
theorem Bad.named (h : Bad seen line raw (.line bad)) : bad.line = line ∧ bad.text = trim raw := by
  cases h with
  | unread hread =>
    rw [Header.read] at hread
    split at hread
    · cases hread
      exact ⟨rfl, rfl⟩
    · cases hread
  | repeated hread hseen => exact ⟨rfl, rfl⟩

/-- **A line begins no entry exactly when it is bad.** -/
theorem ofLine_eq_error_iff (hline : 1 ≤ line) :
    Entry.ofLine seen line raw = .error r ↔ Bad seen line raw r := by
  constructor
  · intro he
    simp only [Entry.ofLine] at he
    split at he
    · rename_i bad hread
      cases he
      exact .unread hread
    · rename_i h hread
      split at he
      · rename_i hseen
        cases he
        exact .repeated hread hseen
      · rename_i hnew
        split at he
        · rename_i problem hproblem
          cases he
          refine .unbuilt hread hnew ?_
          rw [ofFields_fields _ hline, hproblem]
        · cases he
  · intro hbad
    cases hbad with
    | unread hread => simp only [Entry.ofLine, hread]
    | repeated hread hseen => simp only [Entry.ofLine, hread, hseen, if_true]
    | @unbuilt h faults hread hnew hfaults =>
      obtain ⟨hlong, rfl⟩ := (ofFields_ofHeader hline hread).1 hfaults
      simp only [Entry.ofLine, hread, hnew, if_false, idProblem?_of_isName (isName_ofHeader hread),
        hlong, if_true]

/-! ## 4. Reading up to a bad line -/

/-- Lines that do not close an open block belong to it. -/
theorem entriesFrom_unclosed (hinner : Unclosed inner) (block : List String) :
    entriesFrom seen (.inside e block) first (inner ++ rest) =
      entriesFrom seen (.inside e (block ++ inner)) (first + inner.length) rest := by
  induction inner generalizing block first with
  | nil => simp
  | cons raw inner ih =>
    have hraw := hinner raw List.mem_cons_self
    have hmore : Unclosed inner := fun line hline => hinner line (List.mem_cons_of_mem raw hline)
    rw [List.cons_append, entriesFrom_inner hraw, ih hmore, List.append_assoc,
      List.singleton_append, List.length_cons, Nat.add_right_comm, Nat.add_assoc]

/-- **A passage is read, and then the lines after it**; with these it is refused. -/
theorem entriesFrom_passage {p : Passage} {after : List String}
    (hbegins : Begins seen p.line p.raw p.header)
    (hmeans : Means p.header.prompt p.block after p.text) :
    entriesFrom seen .outside p.line (p.raw :: (p.block ++ after)) =
      (entriesFrom (p.entry.id :: seen) .outside (p.last + 1) after).map (p.entry :: ·) := by
  obtain ⟨line, raw, h, block, text⟩ := p
  simp only at hbegins hmeans
  generalize hprompt : h.prompt = prompt at hmeans
  cases hmeans with
  | itself hne =>
    subst hprompt
    exact hbegins.entriesFrom_plain hne
  | @closed inner _ closing last hinner hline =>
    rw [hbegins.entriesFrom_opening hprompt, List.append_assoc, entriesFrom_unclosed hinner,
      List.singleton_append, entriesFrom_closing hline, Passage.last, List.length_append,
      List.length_singleton, ← Nat.add_assoc, Nat.add_right_comm line]
    rfl
  | unclosed hinner =>
    rw [hbegins.entriesFrom_opening hprompt, entriesFrom_unclosed hinner]
    rfl

/-- **Where reading stops it is refused.** -/
theorem Stops.entriesFrom (h : Stops seen first rest r) (hfirst : 1 ≤ first) :
    entriesFrom seen .outside first rest = .error r := by
  induction h with
  | skipped hraw more ih =>
    rw [entriesFrom_skipped hraw]
    exact ih (Nat.le_succ_of_le hfirst)
  | passage hbegins hmeans more ih =>
    rw [entriesFrom_passage hbegins hmeans, ih (Nat.succ_pos _)]
    rfl
  | here hraw hbad => exact entriesFrom_bad hraw ((ofLine_eq_error_iff hfirst).2 hbad)

theorem Stops.plain (hbegins : Begins seen first raw h) (hprompt : h.prompt ≠ fence)
    (more : Stops ((Entry.ofHeader first raw h).id :: seen) (first + 1) rest r) :
    Stops seen first (raw :: rest) r :=
  .passage (p := ⟨first, raw, h, [], h.prompt⟩) hbegins (.itself hprompt) more

theorem StopsBeyond.cons (h : StopsBeyond seen (first + 1) (inner ++ [raw]) rest r) :
    StopsBeyond seen first inner (raw :: rest) r := by
  obtain ⟨block, after, text, rfl, hmeans, hmore⟩ := h
  refine ⟨raw :: block, after, text, rfl, ?_, ?_⟩
  · rwa [List.append_assoc] at hmeans
  · rwa [Nat.add_right_comm] at hmore

/-- The lines of a block belong to the passage of the line that opens it. -/
theorem StopsBeyond.stops (hbegins : Begins seen first raw h) (hprompt : h.prompt = fence)
    (hmore : StopsBeyond ((Entry.ofHeader first raw h).id :: seen) (first + 1) [] rest r) :
    Stops seen first (raw :: rest) r := by
  obtain ⟨block, after, text, rfl, hmeans, hmore⟩ := hmore
  rw [Nat.add_right_comm] at hmore
  exact .passage (p := ⟨first, raw, h, block, text⟩) hbegins (hprompt ▸ hmeans) hmore

/-- **Where reading is refused it stops**, and an open block ends before. -/
theorem stops_entriesFrom (rest : List String) : ∀ (seen : List String) (first : Nat) (r : Refusal),
    1 ≤ first →
    (entriesFrom seen .outside first rest = .error r → Stops seen first rest r) ∧
    ∀ e inner, Unclosed inner → entriesFrom seen (.inside e inner) first rest = .error r →
      StopsBeyond seen first inner rest r := by
  induction rest with
  | nil =>
    intro seen first r _
    constructor
    · intro h
      cases h
    · intro e inner _ h
      cases h
  | cons raw rest ih =>
    intro seen first r hfirst
    have hnext : 1 ≤ first + 1 := Nat.succ_pos first
    constructor
    · intro h
      simp only [entriesFrom] at h
      split at h
      · rename_i hskip
        exact .skipped (isSkipped_iff.1 hskip) ((ih seen _ r hnext).1 h)
      · rename_i hskip
        have hraw : ¬ Skippable raw := fun hraw => hskip (isSkipped_iff.2 hraw)
        split at h
        · rename_i r' hbad
          cases h
          exact .here hraw ((ofLine_eq_error_iff hfirst).1 hbad)
        · rename_i e he
          obtain ⟨header, hbegins, rfl⟩ := Entry.begins hraw he
          split at h
          · rename_i hopens
            have hbeyond := (ih _ _ r hnext).2 _ [] (by simp [Unclosed]) h
            exact hbeyond.stops hbegins (eq_of_beq hopens)
          · rename_i hopens
            split at h
            · cases h
            · rename_i r' hmore
              cases h
              exact .plain hbegins (fun hprompt => hopens (beq_iff_eq.2 hprompt))
                ((ih _ _ r hnext).1 hmore)
    · intro e inner hinner h
      simp only [entriesFrom] at h
      split at h
      · rename_i hnone
        have hinner := hinner.concat (closingLine?_eq_none_iff.1 hnone)
        exact ((ih seen _ r hnext).2 e _ hinner h).cons
      · rename_i last hlast
        split at h
        · cases h
        · rename_i r' hmore
          cases h
          exact ⟨[raw], rest, _, rfl, .closed hinner (closingLine?_eq_some_iff.1 hlast),
            (ih seen _ r hnext).1 hmore⟩

/-- **A script is refused exactly where its reading stops.** -/
theorem parse_eq_error_iff {source : String} :
    parse source = .error r ↔ Stops [] 1 (lines source) r := by
  have hentries : parse source = .error r ↔ entries source = .error r := by
    rw [parse]
    cases entries source <;> simp [Except.map]
  rw [hentries]
  exact ⟨((stops_entriesFrom _ [] 1 r (Nat.le_refl 1)).1 ·), fun h => h.entriesFrom (Nat.le_refl 1)⟩

/-! ## 5. The first bad line -/

/-- A block that other lines follow is the same whatever these are. -/
theorem Means.of_ne_nil {prompt text : String} {block after : List String}
    (h : Means prompt block after text) (hafter : after ≠ []) (after' : List String) :
    Means prompt block after' text := by
  cases h with
  | itself hprompt => exact .itself hprompt
  | closed hinner hline => exact .closed hinner hline
  | unclosed hinner => exact absurd rfl hafter

/-- **The lines before the one at which reading stops are laid out**, that one is bad, and those
after it make no difference. -/
theorem Stops.exists_line (h : Stops seen first rest r) : ∃ before raw after ps,
    rest = before ++ raw :: after ∧ Laid seen first before ps ∧ ¬ Skippable raw ∧
    Bad ((ps.map fun p => p.entry.id).reverse ++ seen) (first + before.length) raw r ∧
    ∀ after', Stops seen first (before ++ raw :: after') r := by
  induction h with
  | @skipped seen first raw rest r hraw more ih =>
    obtain ⟨before, raw', after, ps, rfl, hps, hraw', hbad, hany⟩ := ih
    refine ⟨raw :: before, raw', after, ps, rfl, .skipped hraw hps, hraw', ?_,
      fun after' => .skipped hraw (hany after')⟩
    rwa [Nat.add_right_comm] at hbad
  | @passage seen p _ r hbegins hmeans more ih =>
    obtain ⟨before, raw, after, ps, rfl, hps, hraw, hbad, hany⟩ := ih
    have hne : ∀ after', before ++ raw :: after' ≠ [] := by simp
    have hlines : ∀ after', p.raw :: (p.block ++ (before ++ raw :: after')) =
        p.raw :: (p.block ++ before) ++ raw :: after' := by simp
    refine ⟨p.raw :: (p.block ++ before), raw, after, p :: ps, hlines after,
      .passage hbegins (hmeans.of_ne_nil (hne after) _) hps, hraw, ?_, fun after' => ?_⟩
    · rw [List.map_cons, List.reverse_cons, List.append_assoc, List.singleton_append,
        List.length_cons, List.length_append, ← Nat.add_assoc, ← Nat.add_assoc, Nat.add_right_comm]
      exact hbad
    · rw [← hlines after']
      exact .passage hbegins (hmeans.of_ne_nil (hne after) _) (hany after')
  | @here seen first raw rest r hraw hbad =>
    exact ⟨[], raw, rest, [], rfl, .nil, hraw, hbad, fun after' => .here hraw hbad⟩

/-- The same by the place of the line. -/
theorem Stops.exists_bad (h : Stops seen first rest r) : ∃ i raw ps, rest[i]? = some raw ∧
    Laid seen first (rest.take i) ps ∧ ¬ Skippable raw ∧
    Bad ((ps.map fun p => p.entry.id).reverse ++ seen) (first + i) raw r := by
  obtain ⟨before, raw, after, ps, rfl, hps, hraw, hbad, -⟩ := h.exists_line
  refine ⟨before.length, raw, ps, ?_, ?_, hraw, hbad⟩
  · rw [List.getElem?_append_right (Nat.le_refl _), Nat.sub_self]
    rfl
  · rwa [List.take_left]

end Lines

/-! ## 6. A script that is read -/

theorem Laid.first_le {seen : List String} {first : Nat} {ls : List String} {ps : List Passage}
    (h : Laid seen first ls ps) : ∀ p ∈ ps, first ≤ p.line := by
  induction h with
  | nil => simp
  | skipped hraw more ih => exact fun p hp => Nat.le_of_succ_le (ih p hp)
  | @passage seen p after ps hbegins hmeans more ih =>
    have hlast : p.line ≤ p.last := Nat.le_add_right _ _
    exact List.forall_mem_cons.2 ⟨Nat.le_refl _, fun q hq =>
      Nat.le_trans hlast (Nat.le_of_succ_le (ih q hq))⟩

/-- **Every node of a script that is read can be built** from what the script says about it. -/
theorem built_of_parse {source : String} {nodes : List Node} (h : parse source = .ok nodes) :
    ∃ es, nodesOf es = nodes ∧ ∀ e ∈ es, Node.ofFields e.fields = .ok (e.toNode []) := by
  obtain ⟨ps, hps, rfl⟩ := exists_passages h
  refine ⟨_, rfl, fun e he => ?_⟩
  have hgood := hps.fresh.good e he
  obtain ⟨p, hp, rfl⟩ := List.mem_map.1 he
  rw [ofFields_fields p.entry (hps.first_le p hp), hgood]

end Script
end PromptChain
