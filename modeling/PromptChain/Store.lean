/-
# Values stored under ids

A store keeps one value per id, in the order in which the ids first came.  Storing under an id
that is there already replaces the value and keeps the place.

Everything about a store is read through `get?` and `ids`; the two pairs of lemmas below say what
`put` does to each.
-/
namespace PromptChain

/-- Values under ids, in the order in which the ids first came. -/
structure Store (α : Type) where
  entries : List (String × α) := []

namespace Store

variable {α : Type}

/-! ## 1. Reading -/

/-- The value under an id. -/
def get? (s : Store α) (id : String) : Option α := s.entries.lookup id

/-- The ids in their order. -/
def ids (s : Store α) : List String := s.entries.map (·.1)

/-! ## 2. Writing -/

/-- A list of entries with the value under an id replaced, or added at the end. -/
def putEntry (id : String) (value : α) : List (String × α) → List (String × α)
  | [] => [(id, value)]
  | (key, old) :: rest =>
    if key = id then (id, value) :: rest else (key, old) :: putEntry id value rest

/-- A store with a value under an id. -/
def put (s : Store α) (id : String) (value : α) : Store α := ⟨putEntry id value s.entries⟩

/-- The store of a list of entries, a later entry of an id replacing an earlier one. -/
def ofList (entries : List (String × α)) : Store α :=
  entries.foldl (fun s e => s.put e.1 e.2) ⟨[]⟩

/-! ## 3. What `put` does -/

theorem lookup_cons_if (k : String) (v : α) (rest : List (String × α)) (key : String) :
    ((k, v) :: rest).lookup key = if key = k then some v else rest.lookup key := by
  by_cases h : key = k
  · simp [h]
  · have hb : (key == k) = false := beq_false_of_ne h
    rw [List.lookup_cons, hb, if_neg h]

theorem lookup_putEntry (id : String) (value : α) (entries : List (String × α)) (key : String) :
    (putEntry id value entries).lookup key =
      if key = id then some value else entries.lookup key := by
  induction entries with
  | nil => simp [putEntry, lookup_cons_if]
  | cons e rest ih =>
    obtain ⟨k, old⟩ := e
    simp only [putEntry]
    split
    · rename_i hk
      subst hk
      by_cases h : key = k <;> simp [lookup_cons_if, h]
    · rename_i hk
      by_cases h : key = k
      · subst h
        simp [hk]
      · simp [lookup_cons_if, h, ih]

theorem get?_put (s : Store α) (id : String) (value : α) (key : String) :
    (s.put id value).get? key = if key = id then some value else s.get? key :=
  lookup_putEntry id value s.entries key

/-- **What was stored is read back.** -/
@[simp] theorem get?_put_self (s : Store α) (id : String) (value : α) :
    (s.put id value).get? id = some value := by
  simp [get?_put]

/-- Storing under one id leaves every other alone. -/
theorem get?_put_ne (s : Store α) {id key : String} (value : α) (h : key ≠ id) :
    (s.put id value).get? key = s.get? key := by
  simp [get?_put, h]

theorem map_fst_putEntry (id : String) (value : α) (entries : List (String × α)) :
    (putEntry id value entries).map (·.1) =
      if id ∈ entries.map (·.1) then entries.map (·.1) else entries.map (·.1) ++ [id] := by
  induction entries with
  | nil => simp [putEntry]
  | cons e rest ih =>
    obtain ⟨k, old⟩ := e
    by_cases hk : k = id
    · simp [putEntry, hk]
    · have hne : ¬ id = k := fun h => hk h.symm
      simp only [putEntry, hk, if_false, List.map_cons, ih, List.mem_cons, hne, false_or]
      split <;> simp

/-- **A new id goes to the end, a known one keeps its place.** -/
theorem ids_put (s : Store α) (id : String) (value : α) :
    (s.put id value).ids = if id ∈ s.ids then s.ids else s.ids ++ [id] :=
  map_fst_putEntry id value s.entries

/-- Storing loses no id. -/
theorem mem_ids_put {s : Store α} {id : String} (h : id ∈ s.ids) (key : String) (value : α) :
    id ∈ (s.put key value).ids := by
  rw [ids_put]
  split
  · exact h
  · exact List.mem_append_left _ h

theorem putEntry_of_not_mem {id : String} {value : α} {entries : List (String × α)}
    (h : id ∉ entries.map (·.1)) : putEntry id value entries = entries ++ [(id, value)] := by
  induction entries with
  | nil => rfl
  | cons e rest ih =>
    obtain ⟨k, old⟩ := e
    simp only [List.map_cons, List.mem_cons, not_or] at h
    have hne : ¬ k = id := fun heq => h.1 heq.symm
    simp only [putEntry, hne, if_false, List.cons_append, ih h.2]

/-- What is stored under a new id is the last entry. -/
theorem entries_put_of_not_mem {s : Store α} {id : String} {value : α} (h : id ∉ s.ids) :
    (s.put id value).entries = s.entries ++ [(id, value)] :=
  putEntry_of_not_mem h

/-! ## 4. Entries and what is read back -/

/-- **An id has a value exactly when it is among the ids.** -/
theorem mem_ids_iff {s : Store α} {id : String} : id ∈ s.ids ↔ ∃ v, s.get? id = some v := by
  obtain ⟨entries⟩ := s
  simp only [ids, get?]
  induction entries with
  | nil => simp
  | cons e rest ih =>
    obtain ⟨k, old⟩ := e
    rw [lookup_cons_if, List.map_cons, List.mem_cons, ih]
    by_cases h : id = k
    · simp [h]
    · simp [h]

theorem get?_eq_none_iff {s : Store α} {id : String} : s.get? id = none ↔ id ∉ s.ids := by
  rw [mem_ids_iff, Option.eq_none_iff_forall_ne_some]
  simp

/-- The value under an id that is stored. -/
theorem get?_eq_some_getD {s : Store α} {id : String} (h : id ∈ s.ids) (default : α) :
    s.get? id = some ((s.get? id).getD default) := by
  obtain ⟨v, hv⟩ := mem_ids_iff.1 h
  rw [hv, Option.getD_some]

/-- A store of the values that a function gives some ids. -/
theorem get?_map {ids : List String} {value : String → α} {id : String} (h : id ∈ ids) :
    (Store.mk (ids.map fun d => (d, value d))).get? id = some (value id) := by
  simp only [get?]
  induction ids with
  | nil => simp at h
  | cons d rest ih =>
    rw [List.map_cons, lookup_cons_if]
    by_cases heq : id = d
    · simp [heq]
    · simp only [heq, if_false]
      exact ih ((List.mem_cons.1 h).resolve_left heq)

/-- **When no id is repeated, every entry is read back.** -/
theorem mem_entries_iff {s : Store α} (h : s.ids.Nodup) {id : String} {v : α} :
    (id, v) ∈ s.entries ↔ s.get? id = some v := by
  obtain ⟨entries⟩ := s
  simp only [ids, get?] at h ⊢
  induction entries with
  | nil => simp
  | cons e rest ih =>
    obtain ⟨k, old⟩ := e
    obtain ⟨hk, hrest⟩ := List.nodup_cons.1 h
    rw [lookup_cons_if, List.mem_cons, ih hrest, Prod.mk.injEq]
    by_cases hid : id = k
    · subst hid
      have hnone : rest.lookup id = none := get?_eq_none_iff (s := ⟨rest⟩).2 hk
      simp [hnone, eq_comm]
    · simp [hid]

/-- **Stores with the same ids in the same order and the same values are the same.** -/
theorem eq_of_ids_eq {s t : Store α} (h : s.ids.Nodup) (hids : s.ids = t.ids)
    (hget : ∀ id ∈ s.ids, s.get? id = t.get? id) : s = t := by
  obtain ⟨entries⟩ := s
  obtain ⟨others⟩ := t
  simp only [ids, get?, mk.injEq] at h hids hget ⊢
  induction entries generalizing others with
  | nil => simpa using hids.symm
  | cons e rest ih =>
    cases others with
    | nil => simp at hids
    | cons e' rest' =>
      obtain ⟨k, v⟩ := e
      obtain ⟨k', v'⟩ := e'
      simp only [List.map_cons, List.cons.injEq] at hids
      obtain ⟨rfl, hids⟩ := hids
      obtain ⟨hk, hrest⟩ := List.nodup_cons.1 h
      have hv := hget k (by simp)
      simp only [lookup_cons_if, if_true, Option.some.injEq] at hv
      subst hv
      have htail : ∀ id ∈ rest.map (·.1), rest.lookup id = rest'.lookup id := by
        intro id hid
        have hne : id ≠ k := fun heq => hk (heq ▸ hid)
        simpa [lookup_cons_if, hne] using hget id (List.mem_cons_of_mem k hid)
      rw [ih hrest rest' hids htail]

theorem foldl_put_entries {entries : List (String × α)} {s : Store α}
    (h : (s.entries ++ entries).map (·.1) |>.Nodup) :
    (entries.foldl (fun s e => s.put e.1 e.2) s).entries = s.entries ++ entries := by
  induction entries generalizing s with
  | nil => simp
  | cons e rest ih =>
    obtain ⟨k, v⟩ := e
    have hk : k ∉ s.ids := by
      intro hmem
      rw [List.map_append, List.nodup_append] at h
      exact h.2.2 k hmem k (by simp) rfl
    have hput : (s.put k v).entries = s.entries ++ [(k, v)] := entries_put_of_not_mem hk
    rw [List.foldl_cons, ih (by rw [hput]; simpa using h), hput, List.append_assoc]
    rfl

/-- A list of entries without repeated ids is stored as it is. -/
theorem entries_ofList {entries : List (String × α)} (h : (entries.map (·.1)).Nodup) :
    (ofList entries).entries = entries := by
  have hall : (ofList entries).entries = [] ++ entries :=
    foldl_put_entries (s := ⟨[]⟩) (by simpa using h)
  simpa using hall

end Store
end PromptChain
