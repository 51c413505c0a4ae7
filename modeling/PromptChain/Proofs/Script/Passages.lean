/-
# The lines of a script

Every line of a script is skipped, or begins a node, or is in the block of one, and it is so of one
node only (`Accounts`, `lines_accounted`).  Passages follow each other without a line in common, and
every line that is not skipped is in one of them; so the passage that holds a line, if one does,
decides which of the three it is.
-/
import PromptChain.Proofs.Script.Loaded

namespace PromptChain.Script

open PromptChain.Graph PromptChain.Text

/-! ## 1. Where passages stand -/

namespace Passage

/-- Whether a line is one of them, by its number. -/
def Holds (p : Passage) (number : Nat) : Prop := p.line ≤ number ∧ number ≤ p.last

theorem holds_line (p : Passage) : p.Holds p.line := ⟨Nat.le_refl _, Nat.le_add_right _ _⟩

/-- Whether the passage stands among some lines, of which the first has a given number, and says
there what it says. -/
def StandsIn (p : Passage) (first : Nat) (ls : List String) : Prop :=
  ∃ before after, ls = before ++ p.raw :: (p.block ++ after) ∧ p.line = first + before.length ∧
    ¬ Skippable p.raw ∧ Header.read p.line (trim p.raw) = .ok p.header ∧
    Means p.header.prompt p.block after p.text

end Passage

section Layout

variable {seen : List String} {first number : Nat} {ls : List String} {ps : List Passage}
  {p : Passage}

theorem Passage.StandsIn.append (before : List String)
    (h : p.StandsIn (first + before.length) ls) : p.StandsIn first (before ++ ls) := by
  obtain ⟨more, after, rfl, hline, hmeans⟩ := h
  exact ⟨before ++ more, after, (List.append_assoc _ _ _).symm,
    by rw [hline, List.length_append, Nat.add_assoc], hmeans⟩

/-- Every passage stands where it says. -/
theorem Laid.standsIn (h : Laid seen first ls ps) : ∀ p ∈ ps, p.StandsIn first ls := by
  induction h with
  | nil => simp
  | skipped _ _ ih => exact fun p hp => (ih p hp).append [_]
  | @passage seen p after ps hbegins hmeans more ih =>
    intro q hq
    rcases List.mem_cons.1 hq with rfl | hq
    · exact ⟨[], after, rfl, rfl, hbegins.unskipped, hbegins.read, hmeans⟩
    · have hnext : p.last + 1 = p.line + (p.raw :: p.block).length := rfl
      have hmore := ih q hq
      rw [hnext] at hmore
      exact hmore.append (p.raw :: p.block)

/-- **A passage ends before the next begins.** -/
theorem Laid.pairwise (h : Laid seen first ls ps) : ps.Pairwise fun p q => p.last < q.line := by
  induction h with
  | nil => exact .nil
  | skipped _ _ ih => exact ih
  | passage _ _ more ih =>
    refine List.pairwise_cons.2 ⟨fun q hq => ?_, ih⟩
    obtain ⟨before, -, -, hline, -⟩ := more.standsIn q hq
    omega

/-- **A line that is not skipped is in a passage.** -/
theorem Laid.covers (h : Laid seen first ls ps) {i : Nat} {line : String}
    (hi : ls[i]? = some line) : Skippable line ∨ ∃ p ∈ ps, p.Holds (first + i) := by
  induction h generalizing i with
  | nil => simp at hi
  | @skipped seen first raw rest ps hraw more ih =>
    cases i with
    | zero =>
      cases hi
      exact .inl hraw
    | succ i =>
      rw [Nat.add_comm i, ← Nat.add_assoc]
      exact ih hi
  | @passage seen p after ps hbegins hmeans more ih =>
    by_cases hin : i ≤ p.block.length
    · exact .inr ⟨p, List.mem_cons_self, Nat.le_add_right _ _, Nat.add_le_add_left hin _⟩
    · obtain ⟨m, rfl⟩ := Nat.exists_eq_add_of_lt (Nat.lt_of_not_le hin)
      rw [List.getElem?_cons_succ, List.getElem?_append_right (Nat.le_add_right _ _),
        Nat.add_sub_cancel_left] at hi
      have hnext : p.line + (p.block.length + m + 1) = p.last + 1 + m := by
        rw [Passage.last]
        omega
      rcases ih hi with hskip | ⟨q, hq, hheld⟩
      · exact .inl hskip
      · exact .inr ⟨q, List.mem_cons_of_mem p hq, hnext ▸ hheld⟩

/-- Passages that follow each other hold no line twice. -/
theorem eq_of_holds (h : ps.Pairwise fun p q => p.last < q.line) {j k : Fin ps.length}
    (hj : (ps.get j).Holds number) (hk : (ps.get k).Holds number) : j = k := by
  rw [List.pairwise_iff_getElem] at h
  rcases Nat.lt_trichotomy j k with hlt | heq | hlt
  · exact absurd (h j k j.2 k.2 hlt) (Nat.not_lt.2 (hk.1.trans hj.2))
  · exact Fin.ext heq
  · exact absurd (h k j k.2 j.2 hlt) (Nat.not_lt.2 (hj.1.trans hk.2))

end Layout

/-! ## 2. Nodes -/

namespace Passage

/-- Whether a node is what the passage says. -/
structure States (p : Passage) (n : Node) : Prop where
  id : n.id = p.header.id.getD ("node_" ++ toString p.line)
  line : n.line = p.line
  indent : n.indent = indentOf p.raw
  kind : n.kind = (p.header.model.elim .static fun model => .llm (.nickname model))
  flags : n.flags = p.header.flags
  template : n.template = p.text

theorem states_toNode (p : Passage) (children : List String) :
    p.States (p.entry.toNode children) where
  id := rfl
  line := rfl
  indent := rfl
  kind := by
    rw [Entry.toNode, Entry.kind, entry, Entry.ofHeader]
    cases p.header.model <;> rfl
  flags := rfl
  template := rfl

end Passage

/-- The nodes of a script that is laid out are what its passages say. -/
theorem states_nodesOf {ps : List Passage} {j : Nat}
    (hj : j < (nodesOf (ps.map Passage.entry)).length) (hps : j < ps.length) :
    ps[j].States (nodesOf (ps.map Passage.entry))[j] := by
  have hnode : (nodesOf (ps.map Passage.entry))[j] = ps[j].entry.toNode
      (childrenOf (nestings (ps.map Passage.entry)) ps[j].entry.id) := by
    simp [nodesOf]
  rw [hnode]
  exact ps[j].states_toNode _

/-! ## 3. Accounts -/

/-- What a line is to some nodes. -/
inductive Role (count : Nat) where
  | skipped
  | header (j : Fin count)
  | block (j : Fin count)
  deriving DecidableEq, Repr

/-- **An account of the lines of a script.**  Every line has one role.  It is skipped only if it may
be; it is the first of a node when it has that node's number, and in the node's block when it is one
of the next so many lines.  Every node is what its lines say. -/
structure Accounts (ls : List String) (nodes : List Node) (passage : Fin nodes.length → Passage)
    (role : Fin ls.length → Role nodes.length) : Prop where
  standsIn : ∀ j, (passage j).StandsIn 1 ls
  states : ∀ j, (passage j).States (nodes.get j)
  skipped : ∀ i, role i = .skipped → Skippable (ls.get i)
  header : ∀ i j, role i = .header j ↔ (nodes.get j).line = i.1 + 1
  block : ∀ i j, role i = .block j ↔
    (nodes.get j).line < i.1 + 1 ∧ i.1 + 1 ≤ (nodes.get j).line + (passage j).block.length
  increasing : nodes.Pairwise fun n m => n.line < m.line
  distinct : Distinct nodes

/-- Passages that hold no line twice give every line its role. -/
theorem exists_role {count : Nat} (passage : Fin count → Passage) (number : Nat)
    (h : ∀ j k, (passage j).Holds number → (passage k).Holds number → j = k) :
    ∃ role : Role count, (role = .skipped → ∀ j, ¬ (passage j).Holds number) ∧
      (∀ j, role = .header j ↔ (passage j).line = number) ∧
      ∀ j, role = .block j ↔ (passage j).line < number ∧ number ≤ (passage j).last := by
  by_cases hheld : ∃ j, (passage j).Holds number
  · obtain ⟨j, hj⟩ := hheld
    have hfirst : ∀ k, (passage k).line = number → j = k := fun k hk =>
      h j k hj (hk ▸ (passage k).holds_line)
    have hlater : ∀ k, (passage k).line < number ∧ number ≤ (passage k).last → j = k :=
      fun k hk => h j k hj ⟨hk.1.le, hk.2⟩
    rcases Nat.eq_or_lt_of_le hj.1 with hline | hline
    · refine ⟨.header j, nofun, fun k => ⟨?_, fun hk => by rw [hfirst k hk]⟩,
        fun k => ⟨nofun, fun hk => ?_⟩⟩
      · rintro ⟨rfl⟩
        exact hline
      · obtain rfl := hlater k hk
        exact absurd hline hk.1.ne
    · refine ⟨.block j, nofun, fun k => ⟨nofun, fun hk => ?_⟩,
        fun k => ⟨?_, fun hk => by rw [hlater k hk]⟩⟩
      · obtain rfl := hfirst k hk
        exact absurd hk hline.ne
      · rintro ⟨rfl⟩
        exact ⟨hline, hj.2⟩
  · refine ⟨.skipped, fun _ j hj => hheld ⟨j, hj⟩, fun k => ⟨nofun, fun hk => ?_⟩,
      fun k => ⟨nofun, fun hk => ?_⟩⟩
    · exact absurd ⟨k, hk ▸ (passage k).holds_line⟩ hheld
    · exact absurd ⟨k, hk.1.le, hk.2⟩ hheld

/-- **Every line of a script is accounted for once.** -/
theorem lines_accounted {source : String} {nodes : List Node} (h : parse source = .ok nodes) :
    ∃ ls, Lined source ls ∧ ∃ passage role, Accounts ls nodes passage role := by
  obtain ⟨ps, hlaid, rfl⟩ := exists_passages h
  have hlength : (nodesOf (ps.map Passage.entry)).length = ps.length := by simp [nodesOf]
  have hstates : ∀ j : Fin (nodesOf (ps.map Passage.entry)).length,
      (ps.get (j.cast hlength)).States ((nodesOf (ps.map Passage.entry)).get j) := fun j =>
    states_nodesOf j.2 (hlength ▸ j.2)
  have hrole := fun i : Fin (lines source).length =>
    exists_role (fun j => ps.get (j.cast hlength)) (i.1 + 1) fun j k hj hk => by
      have hsame : (j.cast hlength).1 = (k.cast hlength).1 :=
        congrArg Fin.val (eq_of_holds hlaid.pairwise hj hk)
      exact Fin.ext hsame
  choose role hskipped hheader hblock using hrole
  have hskip : ∀ i, role i = .skipped → Skippable ((lines source).get i) := by
    intro i hi
    rcases hlaid.covers (List.getElem?_eq_getElem i.2) with hskip | ⟨p, hp, hheld⟩
    · exact hskip
    · obtain ⟨k, rfl⟩ := List.get_of_mem hp
      rw [Nat.add_comm] at hheld
      exact absurd hheld (hskipped i hi (k.cast hlength.symm))
  have hincreasing : (nodesOf (ps.map Passage.entry)).Pairwise fun n m => n.line < m.line := by
    rw [nodesOf, List.map_map, List.pairwise_map]
    exact hlaid.pairwise.imp fun hlt => Nat.lt_of_le_of_lt (Nat.le_add_right _ _) hlt
  exact ⟨lines source, lines_eq_iff.1 rfl, fun j => ps.get (j.cast hlength), role, {
    standsIn := fun j => hlaid.standsIn _ (List.get_mem ps _)
    states := hstates
    skipped := hskip
    header := fun i j => (hstates j).line ▸ hheader i j
    block := fun i j => (hstates j).line ▸ hblock i j
    increasing := hincreasing
    distinct := hlaid.distinct }⟩

/-- A script with a block that is empty, a block with lines that look like a comment, a mark and the
end of one node, and a block that is never closed. -/
def fencedScript : String :=
  "// notes\r\n" ++
  "#a flash: \"\"\"\r\n" ++
  "\"\"\"\n" ++
  "\n" ++
  "  flash: \"\"\"\n" ++
  "// kept\n" ++
  "\"\"\" not yet\n" ++
  "\n" ++
  "  end \"\"\" \n" ++
  "#b = \"\"\"\n" ++
  "#c = kept"

/-- Its lines are accounted for. -/
theorem lines_accounted_fenced : ∃ nodes, parse fencedScript = .ok nodes ∧
    nodes.map (fun n => (n.id, n.line, n.template)) =
      [("a", 2, ""), ("node_5", 5, "// kept\n\"\"\" not yet\n\nend"), ("b", 10, "#c = kept")] ∧
    ∃ ls, Lined fencedScript ls ∧ ∃ passage role, Accounts ls nodes passage role := by
  have hread : (parse fencedScript).toOption.map (·.map fun n => (n.id, n.line, n.template)) =
      some [("a", 2, ""), ("node_5", 5, "// kept\n\"\"\" not yet\n\nend"),
        ("b", 10, "#c = kept")] := by decide +kernel
  obtain ⟨nodes, hnodes, hsay⟩ := Option.map_eq_some_iff.1 hread
  have hparse := eq_ok_of_toOption hnodes
  exact ⟨nodes, hparse, hsay, lines_accounted hparse⟩

end PromptChain.Script
