/-
# What the lines of a script are for

A line is skipped, is the first of a node, or stands in a block, where it may close the block; below
a bad line nothing is read.  Which of these a line is depends on the lines above it, and so is found
on the way through the script (`lineKinds`).  The first lines of nodes are where the nodes say that
they are (`headersFrom_lineKinds`).

What is asked of a line depends on its kind.  The first line of a node counts for its indent and for
what it says without the blanks around it, a line that closes a block only for the latter, and a
skipped line for nothing.  So two scripts whose lines keep this have the same nodes; and when all
nodes of one are deeper by as much, they are nested beneath the same nodes (`parse_deeper`).
-/
import PromptChain.Proofs.Script.Loaded

namespace PromptChain

open PromptChain.Text

/-! ## 1. Kinds of lines -/

namespace Script

/-- What a line of a script is for. -/
inductive LineKind where
  /-- It is blank or a comment, outside a block. -/
  | skipped
  /-- It is the first line of a node, or the bad line that ends the reading. -/
  | header
  /-- It belongs to a block as it stands. -/
  | inner
  /-- It closes a block. -/
  | closing
  /-- It is below the bad line. -/
  | unread
  deriving DecidableEq, Repr

/-- The kinds of the rest of a script's lines, which begins in a block or outside.  `seen` are the
ids so far, and `line` is the number of the first line of the rest. -/
def kindsFrom (seen : List String) : (inBlock : Bool) → Nat → List String → List LineKind
  | _, _, [] => []
  | true, line, raw :: rest =>
    match closingLine? raw with
    | none => .inner :: kindsFrom seen true (line + 1) rest
    | some _ => .closing :: kindsFrom seen false (line + 1) rest
  | false, line, raw :: rest =>
    if isSkipped raw then .skipped :: kindsFrom seen false (line + 1) rest
    else match Entry.ofLine seen line raw with
      | .error _ => .header :: rest.map fun _ => .unread
      | .ok e => .header :: kindsFrom (e.id :: seen) e.opensBlock (line + 1) rest

/-- The kinds of the lines of a script. -/
def lineKinds (source : String) : List LineKind := kindsFrom [] false 1 (lines source)

/-- The numbers of the first lines of nodes among lines of some kinds, of which the first line has a
given number. -/
def headersFrom : Nat → List LineKind → List Nat
  | _, [] => []
  | line, kind :: rest =>
    if kind = .header then line :: headersFrom (line + 1) rest else headersFrom (line + 1) rest

/-- Whether a reader stands in a block. -/
def Place.inBlock : Place → Bool
  | .outside => false
  | .inside _ _ => true

section Kinds

variable {seen rest inner block after : List String} {first : Nat} {raw source prompt text : String}
  {h : Header} {ps : List Passage} {nodes : List Node}

theorem kindsFrom_skipped (hraw : Skippable raw) :
    kindsFrom seen false first (raw :: rest) =
      .skipped :: kindsFrom seen false (first + 1) rest := by
  rw [kindsFrom, if_pos (isSkipped_iff.2 hraw)]

theorem kindsFrom_header (hbegins : Begins seen first raw h) :
    kindsFrom seen false first (raw :: rest) =
      .header :: kindsFrom ((Entry.ofHeader first raw h).id :: seen)
        (h.prompt == fence) (first + 1) rest := by
  rw [kindsFrom, if_neg (mt isSkipped_iff.1 hbegins.unskipped), hbegins.ofLine]
  rfl

theorem kindsFrom_inner (hinner : Unclosed inner) :
    kindsFrom seen true first (inner ++ rest) =
      List.replicate inner.length .inner ++ kindsFrom seen true (first + inner.length) rest := by
  induction inner generalizing first with
  | nil => rfl
  | cons raw inner ih =>
    have hraw := closingLine?_eq_none_iff.2 (hinner raw List.mem_cons_self)
    have hmore : Unclosed inner := fun line hline => hinner line (List.mem_cons_of_mem raw hline)
    rw [List.cons_append, kindsFrom, hraw]
    simp only [ih hmore, List.length_cons, List.replicate_succ, List.cons_append]
    rw [Nat.add_right_comm, Nat.add_assoc]

theorem headersFrom_append (first : Nat) (ks ks' : List LineKind) :
    headersFrom first (ks ++ ks') =
      headersFrom first ks ++ headersFrom (first + ks.length) ks' := by
  induction ks generalizing first with
  | nil => rfl
  | cons kind ks ih =>
    simp only [List.cons_append, headersFrom, ih, List.length_cons, Nat.add_assoc, Nat.add_comm 1]
    split <;> rfl

theorem headersFrom_eq_nil {ks : List LineKind} (h : ∀ kind ∈ ks, kind ≠ .header) :
    headersFrom first ks = [] := by
  induction ks generalizing first with
  | nil => rfl
  | cons kind ks ih =>
    rw [headersFrom, if_neg (h kind List.mem_cons_self),
      ih fun other hother => h other (List.mem_cons_of_mem kind hother)]

/-- No line of a block is the first of a node. -/
theorem headersFrom_block (hmeans : Means prompt block after text) :
    headersFrom first (kindsFrom seen (prompt == fence) first (block ++ after)) =
      headersFrom (first + block.length) (kindsFrom seen false (first + block.length) after) := by
  have hinner : ∀ count, ∀ kind ∈ List.replicate count LineKind.inner, kind ≠ .header := by
    intro count kind hkind
    rw [(List.mem_replicate.1 hkind).2]
    decide
  cases hmeans with
  | itself hprompt => rw [beq_false_of_ne hprompt]; rfl
  | @closed inner after line last hunclosed hline =>
    rw [beq_self_eq_true, List.append_assoc, kindsFrom_inner hunclosed, headersFrom_append,
      headersFrom_eq_nil (hinner _), List.length_replicate, List.singleton_append, kindsFrom,
      closingLine?_eq_some_iff.2 hline, List.length_append]
    rfl
  | unclosed hunclosed =>
    rw [beq_self_eq_true, kindsFrom_inner hunclosed, headersFrom_append,
      headersFrom_eq_nil (hinner _), List.length_replicate]
    rfl

/-- The first lines of nodes are those of passages. -/
theorem Laid.headersFrom_eq {ls : List String} (hlaid : Laid seen first ls ps) :
    headersFrom first (kindsFrom seen false first ls) = ps.map (·.line) := by
  induction hlaid with
  | nil => rfl
  | skipped hraw _ ih =>
    rw [kindsFrom_skipped hraw]
    exact ih
  | @passage seen p after ps hbegins hmeans _ ih =>
    rw [kindsFrom_header hbegins, headersFrom, if_pos rfl, headersFrom_block hmeans,
      Nat.add_right_comm]
    exact congrArg (p.line :: ·) ih

/-- **The first lines of nodes are where the nodes of a script stand.** -/
theorem headersFrom_lineKinds (h : parse source = .ok nodes) :
    headersFrom 1 (lineKinds source) = nodes.map (·.line) := by
  obtain ⟨ps, hps, rfl⟩ := exists_passages h
  rw [lineKinds, hps.headersFrom_eq]
  simp [nodesOf, Function.comp_def, Entry.toNode, Passage.entry, Entry.ofHeader]

end Kinds

/-! ## 2. Lines that are deeper -/

/-- An entry that is deeper by some levels. -/
def Entry.deeper (k : Nat) (e : Entry) : Entry := { e with indent := e.indent + k }

/-- A place where the entry of the block, if there is one, is deeper by some levels. -/
def Place.deeper (k : Nat) : Place → Place
  | .outside => .outside
  | .inside e block => .inside (e.deeper k) block

/-- Whether a line may stand for another of some kind in a script that is deeper by some levels. -/
def LineKind.Deeper (k : Nat) : LineKind × String → String → Prop
  | (.skipped, line), line' => Skippable line → Skippable line'
  | (.header, line), line' =>
    trim line' = trim line ∧ (trim line ≠ "" → indentOf line' = indentOf line + k)
  | (.inner, line), line' => line' = line
  | (.closing, line), line' => trim line' = trim line
  | (.unread, _), _ => True

end Script

/-- A node that is deeper by some levels. -/
def Node.deeper (k : Nat) (n : Node) : Node := { n with indent := n.indent + k }

namespace Script

section Deeper

variable {k : Nat} {seen block rest rest' ls' : List String} {first : Nat}
  {raw raw' : String} {e : Entry}

/-- A line that says the same and is deeper begins the same entry, and that is deeper. -/
theorem Entry.ofLine_deeper (hsame : trim raw' = trim raw)
    (hindent : indentOf raw' = indentOf raw + k) :
    Entry.ofLine seen first raw' = (Entry.ofLine seen first raw).map (Entry.deeper k) := by
  have hentry : ∀ h, Entry.ofHeader first raw' h = (Entry.ofHeader first raw h).deeper k := by
    intro h
    rw [Entry.ofHeader, hindent]
    rfl
  have hid : ∀ e : Entry, (e.deeper k).id = e.id := fun _ => rfl
  simp only [Entry.ofLine, hsame, hentry, hid]
  split
  · rfl
  · split
    · rfl
    · split <;> rfl

theorem Entry.inBlock_placeAfter (e : Entry) : e.placeAfter.inBlock = e.opensBlock := by
  rw [Entry.placeAfter]
  cases e.opensBlock <;> rfl

theorem Entry.placeAfter_deeper (e : Entry) :
    (e.deeper k).placeAfter = e.placeAfter.deeper k := by
  simp only [Entry.placeAfter, show (e.deeper k).opensBlock = e.opensBlock from rfl]
  cases e.opensBlock <;> rfl

theorem Entry.complete_deeper (e : Entry) :
    (e.deeper k).complete = e.complete.map (Entry.deeper k) := by
  simp only [Entry.complete, show (e.deeper k).opensBlock = e.opensBlock from rfl]
  cases e.opensBlock <;> rfl

/-- Whether some lines, wherever a reader comes upon them, can be made deeper: then the entries are
deeper, or the reading stops at the same bad line. -/
def CanBeDeeper (k : Nat) (ls : List String) : Prop :=
  ∀ (seen : List String) (place : Place) (first : Nat) (ls' : List String),
    List.Forall₂ (LineKind.Deeper k) ((kindsFrom seen place.inBlock first ls).zip ls) ls' →
    entriesFrom seen (place.deeper k) first ls' =
      (entriesFrom seen place first ls).map (List.map (Entry.deeper k))

theorem CanBeDeeper.nil : CanBeDeeper k [] := by
  intro seen place first ls' h
  rw [List.zip_nil_right] at h
  cases h
  cases place <;> rfl

/-- In a block a line stays as it is, or closes the block with the same text. -/
theorem CanBeDeeper.inside (hrest : CanBeDeeper k rest)
    (h : List.Forall₂ (LineKind.Deeper k)
      ((kindsFrom seen true first (raw :: rest)).zip (raw :: rest)) ls') :
    entriesFrom seen (.inside (e.deeper k) block) first ls' =
      (entriesFrom seen (.inside e block) first (raw :: rest)).map
        (List.map (Entry.deeper k)) := by
  rw [kindsFrom] at h
  cases hraw : closingLine? raw with
  | none =>
    rw [hraw] at h
    obtain ⟨raw', rest', rfl, hmore, rfl⟩ := List.forall₂_cons_left_iff.1 h
    have hinner := closingLine?_eq_none_iff.1 hraw
    rw [entriesFrom_inner hinner, entriesFrom_inner hinner]
    exact hrest seen (.inside e (block ++ [raw'])) (first + 1) rest' hmore
  | some last =>
    rw [hraw] at h
    obtain ⟨raw', rest', hsame, hmore, rfl⟩ := List.forall₂_cons_left_iff.1 h
    have hline : Closes raw last := closingLine?_eq_some_iff.1 hraw
    have hline' : Closes raw' last := Eq.trans hsame hline
    have houtside := hrest seen .outside (first + 1) rest' hmore
    rw [Place.deeper] at houtside
    rw [entriesFrom_closing hline', entriesFrom_closing hline, houtside]
    cases entriesFrom seen .outside (first + 1) rest <;> rfl

/-- Outside a block a line stays skipped, or begins the same entry or none for the same reason. -/
theorem CanBeDeeper.outside (hrest : CanBeDeeper k rest)
    (h : List.Forall₂ (LineKind.Deeper k)
      ((kindsFrom seen false first (raw :: rest)).zip (raw :: rest)) ls') :
    entriesFrom seen .outside first ls' =
      (entriesFrom seen .outside first (raw :: rest)).map (List.map (Entry.deeper k)) := by
  rw [kindsFrom] at h
  by_cases hskip : isSkipped raw = true
  · rw [if_pos hskip] at h
    obtain ⟨raw', rest', hline, hmore, rfl⟩ := List.forall₂_cons_left_iff.1 h
    have hraw := isSkipped_iff.1 hskip
    rw [entriesFrom_skipped (hline hraw), entriesFrom_skipped hraw]
    exact hrest seen .outside (first + 1) rest' hmore
  · rw [if_neg hskip] at h
    have hraw : ¬ Skippable raw := mt isSkipped_iff.2 hskip
    have hsome : trim raw ≠ "" := fun hempty => hraw (.inl hempty)
    cases he : Entry.ofLine seen first raw with
    | error refusal =>
      rw [he] at h
      obtain ⟨raw', rest', ⟨hsame, hindent⟩, -, rfl⟩ := List.forall₂_cons_left_iff.1 h
      have hraw' : ¬ Skippable raw' := by rwa [Skippable, hsame]
      have he' : Entry.ofLine seen first raw' = .error refusal := by
        rw [Entry.ofLine_deeper hsame (hindent hsome), he]
        rfl
      rw [entriesFrom_bad hraw' he', entriesFrom_bad hraw he]
      rfl
    | ok e =>
      rw [he] at h
      obtain ⟨raw', rest', ⟨hsame, hindent⟩, hmore, rfl⟩ := List.forall₂_cons_left_iff.1 h
      have hraw' : ¬ Skippable raw' := by rwa [Skippable, hsame]
      have he' : Entry.ofLine seen first raw' = .ok (e.deeper k) := by
        rw [Entry.ofLine_deeper hsame (hindent hsome), he]
        rfl
      rw [← e.inBlock_placeAfter] at hmore
      have hafter := hrest (e.id :: seen) e.placeAfter (first + 1) rest' hmore
      rw [entriesFrom_header hraw' he', entriesFrom_header hraw he, e.placeAfter_deeper,
        e.complete_deeper, show (e.deeper k).id = e.id from rfl, hafter]
      cases entriesFrom (e.id :: seen) e.placeAfter (first + 1) rest with
      | error refusal => rfl
      | ok more => exact congrArg Except.ok List.map_append.symm

/-- **Any lines can be made deeper.** -/
theorem canBeDeeper (k : Nat) (ls : List String) : CanBeDeeper k ls := by
  induction ls with
  | nil => exact .nil
  | cons raw rest ih =>
    intro seen place first ls' h
    cases place with
    | outside => exact ih.outside h
    | inside e block => exact ih.inside h

end Deeper

/-! ## 3. Nodes that are deeper -/

section Nodes

variable {k : Nat} {source source' : String}

theorem enclosing_deeper (opened : List Entry) (indent : Nat) :
    enclosing (opened.map (Entry.deeper k)) (indent + k) =
      (enclosing opened indent).map (Entry.deeper k) := by
  rw [enclosing, enclosing, List.dropWhile_map]
  congr 2
  funext e
  simp [Entry.deeper]

theorem parentsFrom_deeper (opened es : List Entry) :
    parentsFrom (opened.map (Entry.deeper k)) (es.map (Entry.deeper k)) =
      parentsFrom opened es := by
  induction es generalizing opened with
  | nil => rfl
  | cons e rest ih =>
    have haround : enclosing (opened.map (Entry.deeper k)) (e.deeper k).indent =
        (enclosing opened e.indent).map (Entry.deeper k) := enclosing_deeper opened e.indent
    rw [List.map_cons, parentsFrom, parentsFrom, haround, ← List.map_cons, ih]
    simp [List.head?_map, Function.comp_def, Entry.deeper]

/-- **Entries that are deeper are nested beneath the same entries.** -/
theorem nodesOf_deeper (es : List Entry) :
    nodesOf (es.map (Entry.deeper k)) = (nodesOf es).map (Node.deeper k) := by
  have hids : (es.map (Entry.deeper k)).map (·.id) = es.map (·.id) := by
    rw [List.map_map]
    rfl
  have hnested : nestings (es.map (Entry.deeper k)) = nestings es := by
    rw [nestings, nestings, hids, parents, parents, ← parentsFrom_deeper [] es, List.map_nil]
  simp only [nodesOf, hnested, List.map_map]
  rfl

/-- **A script whose lines are deeper has the same nodes, only deeper**, or is refused for the same
reason. -/
theorem parse_deeper
    (h : List.Forall₂ (LineKind.Deeper k) ((lineKinds source).zip (lines source))
      (lines source')) :
    parse source' = (parse source).map (List.map (Node.deeper k)) := by
  have hentries : entries source' = (entries source).map (List.map (Entry.deeper k)) :=
    canBeDeeper k (lines source) [] .outside 1 (lines source') h
  rw [parse, parse, hentries]
  cases entries source with
  | error refusal => rfl
  | ok es => exact congrArg Except.ok (nodesOf_deeper es)

end Nodes

end Script
end PromptChain
