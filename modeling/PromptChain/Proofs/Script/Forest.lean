/-
# The nesting of nodes

A node is nested beneath the last earlier node that is indented less than itself, however irregular
the indents are (`IsParent`).  The reader never looks back for it: it keeps the open entries, and a
new one closes all that are not indented less.  What it closes cannot enclose anything later that
the new entry does not enclose; so for every level, the innermost open entry below it is the last
entry at all below it (`Current`), and the parent that the reader finds is the one defined here
(`children_nested`).
-/
import PromptChain.Proofs.Script.Loaded
import Mathlib.Data.List.FinRange
import Mathlib.Data.List.TakeWhile
import Mathlib.Order.Bounds.Basic

namespace PromptChain.Script

open PromptChain.Graph

/-! ## 1. Parents -/

/-- Whether a node is the last of those that come before another and are indented less. -/
def IsParent (nodes : List Node) (i j : Fin nodes.length) : Prop :=
  IsGreatest {k | k < j ∧ nodes[k].indent < nodes[j].indent} i

instance (nodes : List Node) (i j : Fin nodes.length) : Decidable (IsParent nodes i j) :=
  decidable_of_iff ((i < j ∧ nodes[i].indent < nodes[j].indent) ∧
    ∀ k, k < j ∧ nodes[k].indent < nodes[j].indent → k ≤ i) Iff.rfl

/-- The ids of the nodes whose parent is a given one, in the order of the script. -/
def nestedBeneath (nodes : List Node) (i : Fin nodes.length) : List String :=
  ((List.finRange nodes.length).filter fun j => decide (IsParent nodes i j)).map fun j =>
    nodes[j].id

section Parents

variable {nodes : List Node} {i j : Fin nodes.length}

theorem IsParent.indent_lt (h : IsParent nodes i j) : nodes[i].indent < nodes[j].indent := h.1.2

theorem mem_nestedBeneath {id : String} :
    id ∈ nestedBeneath nodes i ↔ ∃ j, IsParent nodes i j ∧ nodes[j].id = id := by
  simp [nestedBeneath]

/-- Nodes of different ids are in different places. -/
theorem index_eq (hs : Distinct nodes) (h : nodes[i].id = nodes[j].id) : i = j := by
  have hlt : i.1 < (nodes.map (·.id)).length := by simp
  exact Fin.ext ((List.getElem?_inj hlt hs).1 (by simpa using h))

theorem nodup_nestedBeneath (hs : Distinct nodes) : (nestedBeneath nodes i).Nodup :=
  ((List.nodup_finRange _).filter _).map fun _ _ heq => index_eq hs heq

/-- **A node is nested beneath one node at most.** -/
theorem unique_of_mem_nestedBeneath (hs : Distinct nodes) {id : String}
    (hi : id ∈ nestedBeneath nodes i) (hj : id ∈ nestedBeneath nodes j) : i = j := by
  obtain ⟨k, hk, rfl⟩ := mem_nestedBeneath.1 hi
  obtain ⟨l, hl, hid⟩ := mem_nestedBeneath.1 hj
  obtain rfl := index_eq hs hid
  exact hk.unique hl

end Parents

/-! ## 2. Open entries -/

/-- Whether some open entries are as good as all entries so far: below every level they have the
same one innermost.  Both lists begin with the last entry. -/
def Current (opened before : List Entry) : Prop :=
  ∀ level, opened.find? (fun e => decide (e.indent < level)) =
    before.find? fun e => decide (e.indent < level)

section Reader

variable {opened before es : List Entry} {e : Entry} {level : Nat}

/-- The innermost open entry below a level. -/
theorem head?_enclosing : (enclosing opened level).head? =
    opened.find? fun e => decide (e.indent < level) := by
  rw [enclosing, ← List.find?_not_eq_head?_dropWhile]
  congr 1
  funext e
  rw [← decide_not, decide_eq_decide, Nat.not_le]

/-- **What a new entry closes is not missed**, neither at its own level nor at a lower one. -/
theorem find?_enclosing {lower : Nat} (h : lower ≤ level) :
    (enclosing opened level).find? (fun e => decide (e.indent < lower)) =
      opened.find? fun e => decide (e.indent < lower) := by
  induction opened with
  | nil => rfl
  | cons e rest ih =>
    rw [enclosing, List.dropWhile_cons]
    split
    · rename_i hclosed
      have hnot : ¬ e.indent < lower := by
        have hle : level ≤ e.indent := of_decide_eq_true hclosed
        omega
      rw [List.find?_cons_of_neg (by simpa using hnot)]
      exact ih
    · rfl

/-- **A new entry keeps the open entries current.** -/
theorem Current.cons (h : Current opened before) (e : Entry) :
    Current (e :: enclosing opened e.indent) (e :: before) := by
  intro level
  rw [List.find?_cons, List.find?_cons]
  split
  · rfl
  · rename_i hnot
    have hle : level ≤ e.indent := Nat.le_of_not_lt (of_decide_eq_false hnot)
    rw [find?_enclosing hle, h level]

/-- The parent that the reader finds for an entry is the last one before it that is indented
less. -/
theorem getElem?_parentsFrom (h : Current opened before) {j : Nat} (hj : j < es.length) :
    (parentsFrom opened es)[j]? =
      some ((((es.take j).reverse ++ before).find? fun e => decide (e.indent < es[j].indent)).map
        (·.id)) := by
  induction es generalizing opened before j with
  | nil => exact absurd hj (Nat.not_lt_zero j)
  | cons e rest ih =>
    cases j with
    | zero => simp [parentsFrom, head?_enclosing, h e.indent]
    | succ j =>
      have hrest := ih (h.cons e) (Nat.lt_of_succ_lt_succ hj)
      rw [parentsFrom, List.getElem?_cons_succ, hrest, List.take_succ_cons, List.reverse_cons,
        List.append_assoc]
      rfl

/-- The open entries of a script that has not begun. -/
theorem current_nil : Current [] [] := fun _ => rfl

end Reader

/-! ## 3. Children -/

/-- The last of some nodes at the beginning that is indented less than a level. -/
def lastBelow (nodes : List Node) (count level : Nat) : Option Node :=
  (nodes.take count).reverse.find? fun n => decide (n.indent < level)

section Children

variable {nodes : List Node} {i j : Fin nodes.length} {count level : Nat} {n : Node}

theorem lastBelow_succ (h : count < nodes.length) : lastBelow nodes (count + 1) level =
    if nodes[count].indent < level then some nodes[count] else lastBelow nodes count level := by
  rw [lastBelow, List.take_add_one, List.getElem?_eq_getElem h, Option.toList_some,
    List.reverse_append, List.reverse_singleton, List.singleton_append, List.find?_cons]
  split
  · rename_i hlt
    rw [if_pos (of_decide_eq_true hlt)]
  · rename_i hnot
    rw [if_neg (of_decide_eq_false hnot)]
    rfl

theorem lastBelow_eq_some_iff (h : count ≤ nodes.length) : lastBelow nodes count level = some n ↔
    ∃ i : Fin nodes.length,
      IsGreatest {k : Fin nodes.length | k.1 < count ∧ nodes[k].indent < level} i ∧
        nodes[i] = n := by
  induction count with
  | zero =>
    constructor
    · intro hnone
      cases hnone
    · rintro ⟨i, hi, -⟩
      exact absurd hi.1.1 (Nat.not_lt_zero _)
  | succ count ih =>
    rw [lastBelow_succ h]
    split
    · rename_i hlt
      have hlast : IsGreatest {k : Fin nodes.length | k.1 < count + 1 ∧ nodes[k].indent < level}
          ⟨count, h⟩ := ⟨⟨Nat.lt_succ_self count, hlt⟩, fun k hk => Nat.le_of_lt_succ hk.1⟩
      constructor
      · rintro ⟨rfl⟩
        exact ⟨⟨count, h⟩, hlast, rfl⟩
      · rintro ⟨i, hi, rfl⟩
        obtain rfl := hi.unique hlast
        rfl
    · rename_i hnot
      rw [ih (Nat.le_of_lt h)]
      -- the next node is indented too far to count
      have hset : {k : Fin nodes.length | k.1 < count + 1 ∧ nodes[k].indent < level} =
          {k | k.1 < count ∧ nodes[k].indent < level} := by
        ext k
        constructor
        · rintro ⟨hk, hlt⟩
          refine ⟨Nat.lt_of_le_of_ne (Nat.le_of_lt_succ hk) ?_, hlt⟩
          rintro rfl
          exact hnot hlt
        · rintro ⟨hk, hlt⟩
          exact ⟨Nat.lt_succ_of_lt hk, hlt⟩
      rw [hset]

/-- **The reader's parent of a node is its parent.** -/
theorem map_lastBelow_eq_iff (hs : Distinct nodes) :
    (lastBelow nodes j nodes[j].indent).map (·.id) = some nodes[i].id ↔ IsParent nodes i j := by
  rw [Option.map_eq_some_iff]
  constructor
  · rintro ⟨n, hn, hid⟩
    obtain ⟨k, hk, rfl⟩ := (lastBelow_eq_some_iff (Nat.le_of_lt j.2)).1 hn
    exact index_eq hs hid ▸ hk
  · intro hparent
    exact ⟨nodes[i], (lastBelow_eq_some_iff (Nat.le_of_lt j.2)).2 ⟨i, hparent, rfl⟩, rfl⟩

end Children

/-- Every entry's id with that of the last one before it that is indented less. -/
theorem nestings_eq (es : List Entry) : nestings es =
    (List.finRange (nodesOf es).length).map fun j : Fin (nodesOf es).length =>
      ((nodesOf es)[j].id, (lastBelow (nodesOf es) j (nodesOf es)[j].indent).map (·.id)) := by
  refine List.ext_getElem (by simp [nestings, nodesOf, parents, parentsFrom_length])
    fun j hj hj' => ?_
  have hlt : j < es.length := by simpa [nodesOf] using hj'
  have hnodes : j < (nodesOf es).length := by simpa [nodesOf] using hlt
  have hparents : j < (parentsFrom [] es).length := by rwa [parentsFrom_length]
  have hparent := getElem?_parentsFrom current_nil hlt
  have hlast : (lastBelow (nodesOf es) j es[j].indent).map (·.id) =
      ((es.take j).reverse.find? fun e => decide (e.indent < es[j].indent)).map (·.id) := by
    rw [lastBelow, nodesOf, ← List.map_take, ← List.map_reverse, List.find?_map, Option.map_map]
    rfl
  have hnode : (nodesOf es)[j] = es[j].toNode (childrenOf (nestings es) es[j].id) := by
    simp [nodesOf]
  rw [List.append_nil, ← hlast, List.getElem?_eq_getElem hparents, Option.some.injEq] at hparent
  simp only [nestings, parents, List.getElem_zip, List.getElem_map, List.getElem_finRange, hparent,
    Fin.getElem_fin, Fin.val_cast, hnode, Entry.toNode]

/-- The children of a node are nested beneath it. -/
theorem children_eq {es : List Entry} (hs : Distinct (nodesOf es)) (i : Fin (nodesOf es).length) :
    (nodesOf es)[i].children = nestedBeneath (nodesOf es) i := by
  have hchildren : ∀ n ∈ nodesOf es, n.children = childrenOf (nestings es) n.id := by
    intro n hn
    obtain ⟨e, -, rfl⟩ := List.mem_map.1 hn
    rfl
  have hmem : (nodesOf es)[i] ∈ nodesOf es := List.getElem_mem i.2
  rw [hchildren _ hmem, childrenOf, nestings_eq, List.filter_map, List.map_map, nestedBeneath]
  congr 1
  refine List.filter_congr fun j _ => Bool.eq_iff_iff.2 ?_
  simp only [Function.comp_apply, beq_iff_eq, decide_eq_true_iff, map_lastBelow_eq_iff hs]

/-- No node of a script is nested beneath itself. -/
theorem not_mem_own_children {source : String} {nodes : List Node} (h : load source = .ok nodes)
    {n : Node} (hn : n ∈ nodes) : n.id ∉ n.children := by
  obtain ⟨written, hparse, rfl⟩ := load_eq_ok_iff.1 h
  obtain ⟨w, hw, rfl⟩ := mem_linked.1 hn
  obtain ⟨ps, hps, rfl⟩ := exists_passages hparse
  obtain ⟨i, hi, rfl⟩ := List.getElem_of_mem hw
  have hchildren := children_eq hps.distinct ⟨i, hi⟩
  intro hmem
  obtain ⟨j, hparent, hid⟩ := mem_nestedBeneath.1 (hchildren ▸ hmem)
  obtain rfl := index_eq (j := ⟨i, hi⟩) hps.distinct hid
  exact Nat.lt_irrefl _ hparent.indent_lt

/-- **A script's nodes form the forest of its indents.**  The children of a node are the nodes whose
last earlier node of less indent it is, in their order.  So no id is a child twice, and a node
without indent is a child of none. -/
theorem children_nested {source : String} {nodes : List Node} (h : parse source = .ok nodes) :
    (∀ i : Fin nodes.length, nodes[i].children = nestedBeneath nodes i) ∧
    (nodes.flatMap (·.children)).Nodup ∧
    ∀ n ∈ nodes, n.indent = 0 → ∀ m ∈ nodes, n.id ∉ m.children := by
  obtain ⟨ps, hps, rfl⟩ := exists_passages h
  have hs := hps.distinct
  generalize ps.map Passage.entry = es at hs ⊢
  have hchildren := children_eq hs
  have hat : ∀ (i : Nat) (hi : i < (nodesOf es).length),
      (nodesOf es)[i].children = nestedBeneath (nodesOf es) ⟨i, hi⟩ := fun i hi =>
    hchildren ⟨i, hi⟩
  refine ⟨hchildren, List.nodup_flatMap.2 ⟨fun n hn => ?_, ?_⟩, fun n hn hflat m hm hmem => ?_⟩
  · obtain ⟨i, hi, rfl⟩ := List.getElem_of_mem hn
    rw [hat i hi]
    exact nodup_nestedBeneath hs
  · refine List.pairwise_iff_getElem.2 fun i j hi hj hlt => ?_
    simp only [Function.onFun, hat]
    intro id hid hid'
    exact absurd (congrArg Fin.val (unique_of_mem_nestedBeneath hs hid hid')) (Nat.ne_of_lt hlt)
  · obtain ⟨i, hi, rfl⟩ := List.getElem_of_mem hm
    rw [hat i hi] at hmem
    obtain ⟨j, hparent, hid⟩ := mem_nestedBeneath.1 hmem
    have hsame : (nodesOf es)[j] = n := hs.eq_of_id_eq (List.getElem_mem j.2) hn hid
    have hlt := hparent.indent_lt
    rw [hsame, hflat] at hlt
    exact Nat.not_lt_zero _ hlt

/-- A script with uneven indents, of which one line stands in a block. -/
def unevenScript : String :=
  "   #a = first\n" ++
  "#b flash: top\n" ++
  "        #c = deep\n" ++
  "    #d flash: \"\"\"\n" ++
  "#x = text\n" ++
  "\"\"\"\n" ++
  "   #e = back\n" ++
  "      #f = under\n" ++
  "\t#g = last"

/-- Its nodes are nested as their indents say. -/
theorem children_nested_uneven : ∃ nodes, parse unevenScript = .ok nodes ∧
    nodes.map (fun n => (n.id, n.indent, n.children)) =
      [("a", 1, []), ("b", 0, ["c", "d", "e", "g"]), ("c", 4, []), ("d", 2, []), ("e", 1, ["f"]),
        ("f", 3, []), ("g", 1, [])] ∧
    ∀ i : Fin nodes.length, nodes[i].children = nestedBeneath nodes i := by
  have hread : (parse unevenScript).toOption.map (·.map fun n => (n.id, n.indent, n.children)) =
      some [("a", 1, []), ("b", 0, ["c", "d", "e", "g"]), ("c", 4, []), ("d", 2, []),
        ("e", 1, ["f"]), ("f", 3, []), ("g", 1, [])] := by decide +kernel
  obtain ⟨nodes, hnodes, hsay⟩ := Option.map_eq_some_iff.1 hread
  have hparse := eq_ok_of_toOption hnodes
  exact ⟨nodes, hparse, hsay, (children_nested hparse).1⟩

end PromptChain.Script
