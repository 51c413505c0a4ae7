/-
# What the search for a cycle finds

The search follows edges among the candidates, from an id to the ids that wait for it.  The path it
is on is a trail (`Trail`): no id is on it twice, and each waits for the one before it.  An edge
from its end back to one of its ids closes a cycle (`Trail.cycle`).

The ids that were entered and are not on the path are finished: all that can be reached from them
was seen, and no path from them comes back (`Explored`).  That an id is finished is said by
accessibility, as nothing on a cycle is accessible.  A search keeps this as long as it meets no
cycle, and what it began with is entered by then (`search_finds`).  The bound on its depth is never
met, since a trail holds no more ids than there are nodes.

So no cycle is found exactly when there is none among the candidates (`cycleAmong_eq_nil_iff`), and
what is found otherwise is one (`isCycle_cycleAmong`).  Only who is a candidate matters, not the
order in which the candidates are listed (`cycleAmong_congr`).
-/
import PromptChain.Graph.Cycle
import PromptChain.Proofs.Graph.Acyclic
import Mathlib.Data.List.Chain
import Mathlib.Data.List.TakeWhile

namespace PromptChain.Graph

variable {g : Graph} {candidates path visited : List String} {id : String}

/-! ## 1. Edges, trails and cycles -/

/-- Whether the search goes from the second id to the first. -/
def Follows (g : Graph) (candidates : List String) (next id : String) : Prop :=
  next ∈ g.dependents id ∧ next ∈ candidates

/-- Different candidates, each of which waits for the one before it. -/
structure Trail (g : Graph) (candidates path : List String) : Prop where
  nodup : path.Nodup
  known : ∀ id ∈ path, id ∈ g.nodes.map (·.id)
  mem : ∀ id ∈ path, id ∈ candidates
  chain : path.IsChain (Function.swap (g.Follows candidates))

/-- A trail whose first id waits for the last. -/
structure IsCycle (g : Graph) (candidates cycle : List String) : Prop extends
    Trail g candidates cycle where
  closes : ∃ first ∈ cycle.head?, ∃ last ∈ cycle.getLast?, g.Follows candidates first last

theorem IsCycle.ne_nil {cycle : List String} (h : g.IsCycle candidates cycle) : cycle ≠ [] := by
  rintro rfl
  obtain ⟨first, hfirst, -⟩ := h.closes
  simp at hfirst

theorem known_of_mem_dependents {next : String} (h : next ∈ g.dependents id) :
    next ∈ g.nodes.map (·.id) := by
  obtain ⟨n, hn, rfl, -⟩ := mem_dependents.1 h
  exact List.mem_map_of_mem hn

theorem Trail.length_le (h : g.Trail candidates path) : path.length ≤ g.nodes.length := by
  have hsub : path.Subperm (g.nodes.map (·.id)) := List.subperm_of_subset h.nodup h.known
  simpa using hsub.length_le

/-- A trail goes on to an id that is not on it and waits for its end. -/
theorem Trail.concat {next : String} (h : g.Trail candidates (path ++ [id]))
    (hedge : g.Follows candidates next id) (hfresh : next ∉ path ++ [id]) :
    g.Trail candidates (path ++ [id] ++ [next]) where
  nodup := h.nodup.append (List.nodup_singleton next) (by simpa using hfresh)
  known a ha := by
    rcases List.mem_append.1 ha with ha | ha
    · exact h.known a ha
    · exact List.mem_singleton.1 ha ▸ known_of_mem_dependents hedge.1
  mem a ha := by
    rcases List.mem_append.1 ha with ha | ha
    · exact h.mem a ha
    · exact List.mem_singleton.1 ha ▸ hedge.2
  chain := by
    refine h.chain.append (List.isChain_singleton next) ?_
    simpa using hedge

/-- **An edge from the end of a trail back to one of its ids closes a cycle.** -/
theorem Trail.cycle {next : String} (h : g.Trail candidates (path ++ [id]))
    (hedge : g.Follows candidates next id) (hmem : next ∈ path ++ [id]) :
    g.IsCycle candidates ((path ++ [id]).dropWhile (· != next)) := by
  have hsuffix : (path ++ [id]).dropWhile (· != next) <:+ path ++ [id] := List.dropWhile_suffix _
  have hne : (path ++ [id]).dropWhile (· != next) ≠ [] := by
    intro hnil
    have hall := List.dropWhile_eq_nil_iff.1 hnil next hmem
    simp at hall
  have hlast := hsuffix.getLast hne
  refine ⟨⟨h.nodup.sublist hsuffix.sublist, fun a ha => h.known a (hsuffix.subset ha),
    fun a ha => h.mem a (hsuffix.subset ha), h.chain.suffix hsuffix⟩, next, ?_, id, ?_, hedge⟩
  · have hhead := List.head?_dropWhile_not (· != next) (path ++ [id])
    rw [List.head?_eq_some_head hne] at hhead ⊢
    simpa using hhead
  · rw [List.getLast_concat] at hlast
    rw [List.getLast?_eq_some_getLast hne, hlast]
    rfl

/-! ## 2. A search -/

/-- What holds at any moment of a search: the path was entered, and whatever else was entered is
finished. -/
structure Explored (g : Graph) (candidates path visited : List String) : Prop where
  onPath : ∀ id ∈ path, id ∈ visited
  finished : ∀ id ∈ visited, id ∉ path → Acc (g.Follows candidates) id

/-- What a search comes to: a cycle, or more ids entered and some ids finished. -/
inductive Finds (g : Graph) (candidates path visited wanted : List String) :
    Except (List String) (List String) → Prop where
  | cycle {cycle : List String} (h : g.IsCycle candidates cycle) :
      Finds g candidates path visited wanted (.error cycle)
  | entered {more : List String} (h : g.Explored candidates path more)
      (hkeeps : ∀ id ∈ visited, id ∈ more)
      (hwanted : ∀ id ∈ wanted, id ∈ candidates → id ∈ more ∧ id ∉ path) :
      Finds g candidates path visited wanted (.ok more)

/-- The search along one edge. -/
def visit (g : Graph) (candidates : List String) (depth : Nat) (path visited : List String)
    (next : String) : Except (List String) (List String) :=
  if next ∉ candidates then .ok visited
  else if next ∉ visited then g.search candidates depth path visited next
  else if next ∈ path then .error (path.dropWhile (· != next))
  else .ok visited

/-- A search from an id is one along each of its edges. -/
theorem search_succ (depth : Nat) :
    g.search candidates (depth + 1) path visited id =
      (g.dependents id).foldlM (g.visit candidates depth (path ++ [id])) (id :: visited) := rfl

/-- Searches one after the other, on the same path. -/
theorem finds_foldlM {α : Type} {f : List String → α → Except (List String) (List String)}
    {w : α → String} {as : List α}
    (hf : ∀ a ∈ as, ∀ visited, g.Explored candidates path visited →
      g.Finds candidates path visited [w a] (f visited a))
    (h : g.Explored candidates path visited) :
    g.Finds candidates path visited (as.map w) (as.foldlM f visited) := by
  induction as generalizing visited with
  | nil => exact .entered h (fun _ hid => hid) (by simp)
  | cons a rest ih =>
    rw [List.foldlM_cons]
    have ha := hf a List.mem_cons_self visited h
    generalize f visited a = result at ha
    cases ha with
    | cycle hcycle => exact .cycle hcycle
    | @entered more hmore hkeeps hwanted =>
      have hrest := ih (fun b hb => hf b (List.mem_cons_of_mem a hb)) hmore
      show g.Finds candidates path visited ((a :: rest).map w) (rest.foldlM f more)
      generalize rest.foldlM f more = result at hrest
      cases hrest with
      | cycle hcycle => exact .cycle hcycle
      | entered hlast hkeepsLast hwantedLast =>
        refine .entered hlast (fun id hid => hkeepsLast id (hkeeps id hid)) fun id hid hcand => ?_
        rcases List.mem_cons.1 hid with rfl | hid
        · obtain ⟨hin, hout⟩ := hwanted _ (List.mem_singleton.2 rfl) hcand
          exact ⟨hkeepsLast _ hin, hout⟩
        · exact hwantedLast id hid hcand

/-- An id is entered and put on the path. -/
theorem Explored.enter (h : g.Explored candidates path visited) :
    g.Explored candidates (path ++ [id]) (id :: visited) where
  onPath a ha := by
    rcases List.mem_append.1 ha with ha | ha
    · exact List.mem_cons_of_mem id (h.onPath a ha)
    · exact List.mem_singleton.1 ha ▸ List.mem_cons_self
  finished a ha hnot := by
    simp only [List.mem_append, List.mem_singleton, not_or] at hnot
    exact h.finished a ((List.mem_cons.1 ha).resolve_left hnot.2) hnot.1

/-- When all that follows the last id of the path is finished, the id is, and leaves the path. -/
theorem Explored.leave (h : g.Explored candidates (path ++ [id]) visited)
    (hnext : ∀ next, g.Follows candidates next id → next ∈ visited ∧ next ∉ path ++ [id]) :
    g.Explored candidates path visited where
  onPath a ha := h.onPath a (List.mem_append_left _ ha)
  finished a ha hnot := by
    by_cases heq : a = id
    · subst heq
      refine Acc.intro a fun next hedge => ?_
      obtain ⟨hin, hout⟩ := hnext next hedge
      exact h.finished next hin hout
    · exact h.finished a ha (by simp [hnot, heq])

/-- Going along an edge comes to a candidate that is to be searched from, or closes a cycle, or
comes to an id that is finished. -/
theorem visit_finds {depth : Nat} {next : String} (htrail : g.Trail candidates (path ++ [id]))
    (h : g.Explored candidates (path ++ [id]) visited) (hedge : next ∈ g.dependents id)
    (hsearch : next ∈ candidates → next ∉ visited → g.Finds candidates (path ++ [id]) visited [next]
      (g.search candidates depth (path ++ [id]) visited next)) :
    g.Finds candidates (path ++ [id]) visited [next]
      (g.visit candidates depth (path ++ [id]) visited next) := by
  rw [visit]
  split
  · exact .entered h (fun _ hid => hid) (by simp_all)
  rename_i hcand
  have hcand : next ∈ candidates := not_not.1 hcand
  split
  · rename_i hnew
    exact hsearch hcand hnew
  split
  · rename_i hmem
    exact .cycle (htrail.cycle ⟨hedge, hcand⟩ hmem)
  · exact .entered h (fun _ hid => hid) (by simp_all)

/-- **A search from an id that was not entered finds a cycle, or finishes the id.** -/
theorem search_finds {depth : Nat} (hdepth : g.nodes.length < depth + path.length)
    (htrail : g.Trail candidates (path ++ [id])) (h : g.Explored candidates path visited)
    (hfresh : id ∉ visited) :
    g.Finds candidates path visited [id] (g.search candidates depth path visited id) := by
  induction depth generalizing path visited id with
  | zero =>
    have hlength := htrail.length_le
    simp only [List.length_append, List.length_singleton] at hlength
    omega
  | succ depth ih =>
    have hvisit : ∀ next ∈ g.dependents id, ∀ visited, g.Explored candidates (path ++ [id]) visited →
        g.Finds candidates (path ++ [id]) visited [next]
          (g.visit candidates depth (path ++ [id]) visited next) := by
      intro next hedge visited hvisited
      refine visit_finds htrail hvisited hedge fun hcand hnew => ?_
      have hnot : next ∉ path ++ [id] := fun hmem => hnew (hvisited.onPath next hmem)
      refine ih ?_ (htrail.concat ⟨hedge, hcand⟩ hnot) hvisited hnew
      rw [List.length_append, List.length_singleton]
      omega
    have hall := finds_foldlM (w := fun next => next) hvisit h.enter
    rw [search_succ]
    generalize (g.dependents id).foldlM (g.visit candidates depth (path ++ [id])) (id :: visited) =
      result at hall
    cases hall with
    | cycle hcycle => exact .cycle hcycle
    | @entered more hmore hkeeps hwanted =>
      rw [List.map_id'] at hwanted
      refine .entered (hmore.leave fun next hedge => hwanted next hedge.1 hedge.2)
        (fun a ha => hkeeps a (List.mem_cons_of_mem id ha)) fun a ha _ => ?_
      obtain rfl := List.mem_singleton.1 ha
      exact ⟨hkeeps a List.mem_cons_self, fun hid => hfresh (h.onPath a hid)⟩

/-! ## 3. All searches -/

theorem searchAll_finds :
    g.Finds candidates [] [] (g.nodes.map (·.id)) (g.searchAll candidates) := by
  refine finds_foldlM (fun n hn visited hvisited => ?_) ⟨by simp, by simp⟩
  split
  · rename_i h
    refine search_finds (by simp) ⟨?_, ?_, ?_, ?_⟩ hvisited h.2
    · exact List.nodup_singleton _
    · simpa using ⟨n, hn, rfl⟩
    · simpa using h.1
    · exact List.isChain_singleton _
  · refine .entered hvisited (fun _ hid => hid) fun id hid hcand => ?_
    obtain rfl := List.mem_singleton.1 hid
    simp_all

/-- What is found is a cycle among the candidates. -/
theorem isCycle_cycleAmong (h : g.cycleAmong candidates ≠ []) :
    g.IsCycle candidates (g.cycleAmong candidates) := by
  have hall : g.Finds candidates [] [] _ (g.searchAll candidates) := searchAll_finds
  rw [cycleAmong] at h ⊢
  cases hresult : g.searchAll candidates with
  | error cycle =>
    rw [hresult] at hall
    cases hall
    assumption
  | ok visited => simp [hresult] at h

/-- A cycle leads from its first id back to it. -/
theorem IsCycle.transGen {cycle : List String} (h : g.IsCycle candidates cycle) :
    ∃ id, Relation.TransGen (g.Follows candidates) id id := by
  obtain ⟨first, hfirst, last, hlast, hedge⟩ := h.closes
  have hchain := List.relationReflTransGen_of_exists_isChain cycle h.chain h.ne_nil
  rw [Option.mem_def, List.head?_eq_some_head h.ne_nil, Option.some.injEq] at hfirst
  rw [Option.mem_def, List.getLast?_eq_some_getLast h.ne_nil, Option.some.injEq] at hlast
  rw [hfirst, hlast, Relation.reflTransGen_swap] at hchain
  exact ⟨first, .head' hedge hchain⟩

/-- What is finished is on no cycle. -/
theorem not_transGen_of_acc (h : Acc (g.Follows candidates) id) :
    ¬ Relation.TransGen (g.Follows candidates) id id := by
  rw [← acc_transGen_iff] at h
  induction h with
  | intro id _ ih => exact fun hcycle => ih id hcycle hcycle

/-- **No cycle is found exactly when there is none among the candidates.** -/
theorem cycleAmong_eq_nil_iff :
    g.cycleAmong candidates = [] ↔ ∀ id, ¬ Relation.TransGen (g.Follows candidates) id id := by
  constructor
  · intro h id hcycle
    have hall : g.Finds candidates [] [] _ (g.searchAll candidates) := searchAll_finds
    rw [cycleAmong] at h
    generalize g.searchAll candidates = result at h hall
    cases hall with
    | cycle hfound => exact hfound.ne_nil h
    | entered hvisited _ hwanted =>
      obtain ⟨last, hedge, -⟩ := Relation.TransGen.head'_iff.1 hcycle
      obtain ⟨hin, hout⟩ := hwanted id (known_of_mem_dependents hedge.1) hedge.2
      exact not_transGen_of_acc (hvisited.finished id hin hout) hcycle
  · intro hnone
    by_contra hfound
    obtain ⟨id, hcycle⟩ := (isCycle_cycleAmong hfound).transGen
    exact hnone id hcycle

/-- **Only who is a candidate matters.** -/
theorem cycleAmong_congr {others : List String} (h : ∀ id, id ∈ candidates ↔ id ∈ others) :
    g.cycleAmong candidates = g.cycleAmong others := by
  have hsearch : ∀ depth path visited id,
      g.search candidates depth path visited id = g.search others depth path visited id := by
    intro depth
    induction depth with
    | zero => exact fun _ _ _ => rfl
    | succ depth ih =>
      intro path visited id
      have hvisit : g.visit candidates depth = g.visit others depth := by
        funext path visited next
        simp only [visit, h, ih]
      rw [search_succ, search_succ, hvisit]
  simp only [cycleAmong, searchAll, h, hsearch]

end PromptChain.Graph
