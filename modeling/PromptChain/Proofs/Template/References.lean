/-
# What becomes of a reference

A text is scanned for its references alone when the nodes of a script are linked, and for all its
placeholders when it is resolved.  Both scans meet the same references, so the ids that a node is
linked to are those that its placeholders name, each once (`eraseDups_names`).

Where a reference is written out the text comes apart.  No placeholder reaches over either end of
it, so the pieces of the text are those of the part before, the reference, and those of the part
after (`pieces_reference`); and what becomes of the text is put together from what becomes of the
three (`turnsInto_of_stored`).  The reference in the middle gives way to the output of its id when
the id is allowed, and stays as it is written when it is not (`substitutes_iff`).

In a script the ids that are allowed to a node are those of the nodes that it refers to, and the
node waits for all of them.
-/
import PromptChain.Proofs.Script.Linking
import PromptChain.Proofs.Template.Occurrences

namespace PromptChain

open PromptChain.Text PromptChain.Template

/-! ## 1. Ids, each once -/

/-- Adding ids as they come is erasing the later ones of those that are equal. -/
theorem Node.foldl_addNew_eq_eraseDups (ids : List String) :
    ids.foldl Node.addNew [] = ids.eraseDups := by
  induction ids using List.reverseRecOn with
  | nil => rfl
  | append_singleton ids id ih =>
    rw [List.foldl_append, List.foldl_cons, List.foldl_nil, ih, Node.addNew, List.eraseDups_append]
    by_cases hid : id ∈ ids
    · rw [if_pos (List.mem_eraseDups.2 hid)]
      simp [List.removeAll, hid]
    · rw [if_neg fun hmem => hid (List.mem_eraseDups.1 hmem)]
      simp [List.removeAll, hid, List.eraseDups_cons]

namespace Template

/-- The names that the placeholders of a text refer to. -/
theorem names_eq_references (template : String) :
    (((occurrences template).filter fun o => decide (o.placeholder ≠ .input)).map
      (·.placeholder.name)) = references template := by
  rw [← outputs_pieces, ← map_placeholder_occurrencesFrom 0, List.filterMap_map, occurrences]
  induction occurrencesFrom 0 (pieces template) with
  | nil => rfl
  | cons o rest ih =>
    obtain ⟨p, start⟩ := o
    cases p with
    | input => exact ih
    | output id => exact congrArg (id :: ·) ih

/-- **Both scans find the same ids.** -/
theorem eraseDups_names (template : String) :
    (((occurrences template).filter fun o => decide (o.placeholder ≠ .input)).map
      (·.placeholder.name)).eraseDups = referenceIds template := by
  rw [names_eq_references, referenceIds, Node.foldl_addNew_eq_eraseDups]

/-! ## 2. Where a text comes apart -/

section Apart

variable {cs ds : List Char} {o : Occurrence} {start : Nat} {ps qs : List (Piece Placeholder)}

theorem Occurrence.StandsIn.start_lt (h : o.StandsIn cs) : o.start < cs.length :=
  Nat.lt_of_lt_of_le o.start_lt_stop h.stop_le

/-- A placeholder of the first part of a text stands in the text. -/
theorem Occurrence.StandsIn.append (h : o.StandsIn cs) (ds : List Char) : o.StandsIn (cs ++ ds) := by
  obtain ⟨hname, before, after, rfl, hstart⟩ := h
  exact ⟨hname, before, after ++ ds, by simp, hstart⟩

/-- A placeholder that ends in the first part of a text stands in that part. -/
theorem Occurrence.StandsIn.of_append (h : o.StandsIn (cs ++ ds)) (hstop : o.stop ≤ cs.length) :
    o.StandsIn cs := by
  obtain ⟨hname, before, after, hcs, hstart⟩ := h
  have hlength : (before ++ o.placeholder.written).length ≤ cs.length := by
    rw [List.length_append, hstart]
    exact hstop
  obtain ⟨rest, hrest⟩ := List.prefix_of_prefix_length_le
    (hcs ▸ List.prefix_append _ after) (List.prefix_append cs ds) hlength
  exact ⟨hname, before, rest, hrest.symm, hstart⟩

/-- **A text has one list of pieces.** -/
theorem Cuts.unique (h : Cuts cs start ps) (h' : Cuts cs start qs) : ps = qs := by
  induction h generalizing qs with
  | done =>
    cases h' with
    | done => rfl
    | plain hchar => simp at hchar
    | mark hstands => exact absurd hstands.start_lt (Nat.lt_irrefl _)
  | plain hchar hnone more ih =>
    cases h' with
    | done => simp at hchar
    | plain hchar' hnone' more' =>
      rw [hchar, Option.some.injEq] at hchar'
      rw [hchar', ih more']
    | mark hstands => exact absurd rfl (hnone _ hstands)
  | mark hstands more ih =>
    cases h' with
    | done => exact absurd hstands.start_lt (Nat.lt_irrefl _)
    | plain _ hnone => exact absurd rfl (hnone _ hstands)
    | mark hstands' more' =>
      cases hstands.eq_of_start_eq hstands' rfl
      rw [ih more']

/-- The pieces of a part go on with those of the rest, when no placeholder reaches over the seam. -/
theorem Cuts.append (h : Cuts cs start ps)
    (hseam : ∀ o : Occurrence, o.StandsIn (cs ++ ds) → o.start < cs.length → o.stop ≤ cs.length)
    (hrest : Cuts (cs ++ ds) cs.length qs) : Cuts (cs ++ ds) start (ps ++ qs) := by
  induction h with
  | done => exact hrest
  | plain hchar hnone more ih =>
    have hlt := (List.getElem?_eq_some_iff.1 hchar).1
    refine .plain (by rw [List.getElem?_append_left hlt, hchar]) (fun o ho heq => ?_) ih
    exact hnone o (ho.of_append (hseam o ho (heq ▸ hlt))) heq
  | mark hstands more ih => exact .mark (hstands.append ds) ih

/-- **A reference takes a text apart**: the pieces are those of the part before, the reference, and
those of the part after. -/
theorem pieces_reference {id : String} (hname : isName id.toList = true) (before after : String) :
    pieces (before ++ String.ofList (reference id) ++ after) =
      pieces before ++ .mark (.output id) :: pieces after := by
  have htext : (before ++ String.ofList (reference id) ++ after).toList =
      before.toList ++ (reference id ++ after.toList) := by simp
  have hstands : (Occurrence.mk (.output id) before.toList.length).StandsIn
      (before.toList ++ (reference id ++ after.toList)) :=
    ⟨fun _ h => by cases h; exact hname, before.toList, after.toList, by
      rw [List.append_assoc]; rfl, rfl⟩
  have hrest : Cuts (before.toList ++ (reference id ++ after.toList)) before.toList.length
      (.mark (.output id) :: pieces after) := by
    refine .mark hstands ?_
    have hafter := cuts_scan (before.toList ++ (reference id ++ after.toList)) hstands.stop_le
    have hdrop : (before.toList ++ (reference id ++ after.toList)).drop
        (before.toList.length + (reference id).length) = after.toList := by
      rw [List.drop_length_add_append, List.drop_left]
    rwa [Occurrence.stop, Placeholder.width, Placeholder.written, hdrop] at hafter
  have hwhole := (cuts_pieces before).append
    (fun o ho hlt => ho.not_inside hstands hlt) hrest
  exact (htext ▸ cuts_pieces _ : Cuts _ _ _).unique hwhole

end Apart

end Template

/-! ## 3. Giving way -/

namespace Context

/-- A context in which an id has a given output. -/
def storing (c : Context) (id value : String) : Context :=
  { c with outputs := c.outputs.put id value }

/-- Whether the reference between two parts of a text turns into a given text when the whole is
resolved, and the parts into what becomes of each alone. -/
def TurnsInto (c : Context) (allowed : List String) (before id after text : String) : Prop :=
  ∃ front back, c.resolve before allowed = .ok front ∧ c.resolve after allowed = .ok back ∧
    c.resolve (before ++ String.ofList (reference id) ++ after) allowed =
      .ok (front ++ text ++ back)

/-- Whether the reference between two parts of a text gives way to the output of its id: it turns
into that whatever is stored. -/
def Substitutes (c : Context) (allowed : List String) (before id after : String) : Prop :=
  ∀ value, (c.storing id value).TurnsInto allowed before id after value

section Giving

variable {c : Context} {allowed : List String} {value : String → String} {id : String}

theorem substituted_reference (hname : isName id.toList = true) (input before after : String) :
    substituted input allowed value (before ++ String.ofList (reference id) ++ after) =
      substituted input allowed value before ++
        (if id ∈ allowed then value id else String.ofList (reference id)) ++
        substituted input allowed value after := by
  have hmiddle : (if id ∈ allowed then value id else String.ofList (reference id)).toList =
      if id ∈ allowed then (value id).toList else reference id := by
    split <;> simp
  apply String.toList_inj.1
  rw [String.toList_append, String.toList_append, hmiddle]
  simp [substituted, pieces_reference hname, written]

/-- The value of an allowed id is wherever the text refers to the id. -/
theorem infix_substituted (hname : isName id.toList = true) (hid : id ∈ allowed) {template : String}
    (hmentioned : reference id <:+: template.toList) (input : String) (value : String → String) :
    (value id).toList <:+: (substituted input allowed value template).toList := by
  obtain ⟨before, after, htext⟩ := hmentioned
  have htemplate : template =
      String.ofList before ++ String.ofList (reference id) ++ String.ofList after := by
    rw [← String.toList_inj]
    simp [← htext]
  rw [htemplate, substituted_reference hname, if_pos hid, String.toList_append,
    String.toList_append]
  exact List.infix_append _ _ _

/-- **When no output is missing, a reference turns into the output of its id** if the id is allowed,
and into itself if it is not. -/
theorem turnsInto_of_stored (hname : isName id.toList = true)
    (h : ∀ d ∈ allowed, c.outputs.get? d = some (value d)) (before after : String) :
    c.TurnsInto allowed before id after
      (if id ∈ allowed then value id else String.ofList (reference id)) := by
  refine ⟨_, _, resolve_eq_substituted h before, resolve_eq_substituted h after, ?_⟩
  rw [resolve_eq_substituted h, substituted_reference hname]

/-- Where an id is not allowed, its output does not matter. -/
theorem resolve_storing (hid : id ∉ allowed) (value template : String) :
    (c.storing id value).resolve template allowed = c.resolve template allowed := by
  have hagree : ∀ d ∈ allowed, (c.storing id value).outputs.get? d = c.outputs.get? d := by
    intro d hd
    exact Store.get?_put_ne _ _ fun heq => hid (heq ▸ hd)
  rw [resolve, resolve, fill_congr (c := c.storing id value) (d := c) rfl hagree]

theorem turnsInto_storing (hid : id ∉ allowed) {output before key after text : String} :
    (c.storing id output).TurnsInto allowed before key after text ↔
      c.TurnsInto allowed before key after text := by
  simp only [TurnsInto, resolve_storing hid]

/-- **A reference turns into one text.** -/
theorem TurnsInto.unique {before after text text' : String}
    (h : c.TurnsInto allowed before id after text)
    (h' : c.TurnsInto allowed before id after text') : text = text' := by
  obtain ⟨front, back, hfront, hback, hwhole⟩ := h
  obtain ⟨front', back', hfront', hback', hwhole'⟩ := h'
  cases hfront.symm.trans hfront'
  cases hback.symm.trans hback'
  have hsame := congrArg String.toList (Except.ok.inj (hwhole.symm.trans hwhole'))
  exact String.toList_inj.1 (by simpa using hsame)

/-- **A reference gives way exactly when its id is allowed.** -/
theorem substitutes_iff (hnames : ∀ d ∈ allowed, isName d.toList = true)
    (hstored : ∀ d ∈ allowed, d ∈ c.outputs.ids) (before after : String) :
    c.Substitutes allowed before id after ↔ id ∈ allowed := by
  constructor
  · intro h
    by_contra hid
    -- the reference would turn into the same whatever is stored
    have hempty := (turnsInto_storing hid).1 (h "")
    have hfilled := (turnsInto_storing hid).1 (h "x")
    exact absurd (hempty.unique hfilled) (by decide)
  · intro hid text
    have hget : ∀ d ∈ allowed, (c.storing id text).outputs.get? d =
        some (((c.storing id text).outputs.get? d).getD "") := fun d hd =>
      Store.get?_eq_some_getD (Store.mem_ids_put (hstored d hd) id text) ""
    have hturns := turnsInto_of_stored (hnames id hid) hget before after
    rwa [if_pos hid, storing, Store.get?_put_self] at hturns

end Giving

end Context

/-! ## 4. The references of a script -/

namespace Script

variable {source : String} {nodes : List Node}

/-- The ids of a script's nodes are names. -/
theorem isName_of_load (h : load source = .ok nodes) {id : String} (hid : id ∈ idsOf nodes) :
    isName id.toList = true := by
  obtain ⟨written, hparse, rfl⟩ := load_eq_ok_iff.1 h
  exact (written_of_parse hparse).names id (idsOf_linked written ▸ hid)

/-- **A node refers to the nodes of the script that its text refers to.** -/
theorem mem_references_iff (h : load source = .ok nodes) {n : Node} (hn : n ∈ nodes) {id : String} :
    id ∈ n.references ↔ id ∈ idsOf nodes ∧ reference id <:+: n.template.toList := by
  rw [((closed_of_load h).references n hn).mem id, exists_reference_iff]
  exact and_congr_right fun hid => and_iff_right (isName_of_load h hid)

/-- **Both scans of a text find the same references**, and so a node waits for whatever its text
gives way to.  Where a reference stands in the text of a script's node, it gives way to an output
exactly when its id is that of a node of the script: it turns into the output that is stored for
that node, which is one of those that are waited for.  The reference to any other name stays as it
is written. -/
theorem references_found_alike :
    (∀ template, (((occurrences template).filter fun o => decide (o.placeholder ≠ .input)).map
      (·.placeholder.name)).eraseDups = referenceIds template) ∧
    ∀ {source : String} {nodes : List Node}, load source = .ok nodes →
      ∀ n ∈ nodes, ∀ c : Context, (∀ id ∈ idsOf nodes, id ∈ c.outputs.ids) →
      ∀ before id after, n.template = before ++ String.ofList (reference id) ++ after →
        (c.Substitutes n.references before id after ↔ id ∈ idsOf nodes) ∧
        (id ∈ idsOf nodes → id ∈ n.dependencies ∧ ∃ output, c.outputs.get? id = some output ∧
          c.TurnsInto n.references before id after output) ∧
        (id ∉ idsOf nodes → isName id.toList = true →
          c.TurnsInto n.references before id after (String.ofList (reference id))) := by
  refine ⟨eraseDups_names, fun {source nodes} hload n hn c hstored before id after htext => ?_⟩
  have hknown : ∀ d ∈ n.references, d ∈ idsOf nodes := fun d hd =>
    ((mem_references_iff hload hn).1 hd).1
  have hmem : id ∈ n.references ↔ id ∈ idsOf nodes := by
    rw [mem_references_iff hload hn]
    refine and_iff_left ⟨before.toList, after.toList, ?_⟩
    simp [htext]
  have hget : ∀ d ∈ n.references, c.outputs.get? d = some ((c.outputs.get? d).getD "") :=
    fun d hd => Store.get?_eq_some_getD (hstored d (hknown d hd)) ""
  refine ⟨?_, fun hid => ?_, fun hid hname => ?_⟩
  · rw [← hmem]
    exact Context.substitutes_iff (fun d hd => isName_of_load hload (hknown d hd))
      (fun d hd => hstored d (hknown d hd)) before after
  · have hturns := Context.turnsInto_of_stored (isName_of_load hload hid) hget before after
    rw [if_pos (hmem.2 hid)] at hturns
    exact ⟨Node.mem_dependencies_of_mem_references (hmem.2 hid), _, hget id (hmem.2 hid), hturns⟩
  · have hturns := Context.turnsInto_of_stored hname hget before after
    rwa [if_neg fun hin => hid (hmem.1 hin)] at hturns

/-- Of two references in one text, one gives way to an output that is itself written like the
other, which stays. -/
theorem references_found_alike_spelled :
    let c : Context := ⟨⟨(idsOf spelledNodes).map fun id => (id, "\x7b\x7b#none\x7d\x7d")⟩, "rain"⟩
    load spelledScript = .ok spelledNodes ∧ ∃ n ∈ spelledNodes, n.id = "draft" ∧
      c.Substitutes n.references "\x7b\x7b#note\x7d\x7d by " "fast"
        ", \x7b\x7b#none\x7d\x7d, \x7b\x7b#note\x7d\x7d" ∧
      "fast" ∈ n.dependencies ∧
      ¬ c.Substitutes n.references "\x7b\x7b#note\x7d\x7d by \x7b\x7b#fast\x7d\x7d, " "none"
        ", \x7b\x7b#note\x7d\x7d" := by
  intro c
  have hload : load spelledScript = .ok spelledNodes := eq_ok_of_toOption (by decide +kernel)
  have hstored : ∀ id ∈ idsOf spelledNodes, id ∈ c.outputs.ids := by decide +kernel
  have hdraft : spelledNodes[1] ∈ spelledNodes := List.getElem_mem _
  have hgives := references_found_alike.2 hload _ hdraft c hstored
  obtain ⟨hfast, hwaits, -⟩ := hgives "\x7b\x7b#note\x7d\x7d by " "fast"
    ", \x7b\x7b#none\x7d\x7d, \x7b\x7b#note\x7d\x7d" (by decide +kernel)
  obtain ⟨hnone, -, -⟩ := hgives "\x7b\x7b#note\x7d\x7d by \x7b\x7b#fast\x7d\x7d, " "none"
    ", \x7b\x7b#note\x7d\x7d" (by decide +kernel)
  exact ⟨hload, _, hdraft, rfl, hfast.2 (by decide +kernel), (hwaits (by decide +kernel)).1,
    fun h => absurd (hnone.1 h) (by decide +kernel)⟩

end Script
end PromptChain
