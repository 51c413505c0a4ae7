/-
# How a script is read

What a node's lines say is defined without regard to how they are read: the first is read as any
line is, and the prompt on it stands for itself unless it opens a block (`Means`).  The reader goes
through the lines with a place that says whether a block is open, and with the ids seen so far.  It
lays the lines out from the top as passages, one for each entry, and skips lines between them only
(`Laid`, `entriesFrom_laid`); what holds of every script that is read is an induction over that.
-/
import PromptChain.Proofs.Text.Splitting
import PromptChain.Script.Entry

namespace PromptChain.Script

open PromptChain.Text

/-! ## 1. What lines say -/

/-- Whether a line may be skipped: without the blanks around it it is empty or begins with `//`. -/
def Skippable (line : String) : Prop := trim line = "" ∨ ['/', '/'] <+: (trim line).toList

/-- Whether a line, without the blanks around it, ends with the mark that closes a block, and what
stands before the mark. -/
def Closes (line last : String) : Prop := trim line = last ++ fence

/-- Whether no line of some closes a block. -/
def Unclosed (lines : List String) : Prop := ∀ line ∈ lines, ∀ last, ¬ Closes line last

/-- The text that a prompt stands for, when some lines come after its own: of these, the first are
its block.  A prompt that is no mark stands for itself and has no block.  A mark stands for the
lines up to the first that closes the block, or for all of them when none does. -/
inductive Means : (prompt : String) → (block after : List String) → (text : String) → Prop where
  | itself {prompt : String} {after : List String} (h : prompt ≠ fence) :
      Means prompt [] after prompt
  | closed {inner after : List String} {line last : String} (hinner : Unclosed inner)
      (hline : Closes line last) :
      Means fence (inner ++ [line]) after (trim (joined "\n" (inner ++ [last])))
  | unclosed {inner : List String} (hinner : Unclosed inner) :
      Means fence inner [] (trim (joined "\n" inner))

section Lines

variable {line last : String}

theorem isSkipped_iff : isSkipped line = true ↔ Skippable line := by
  rw [isSkipped, Bool.or_eq_true, List.isEmpty_iff, List.isPrefixOf_iff_prefix, Skippable,
    String.toList_eq_nil_iff]

/-- **A line that closes a block gives what stands before the mark**, and no other line gives
anything. -/
theorem closingLine?_eq_some_iff : closingLine? line = some last ↔ Closes line last := by
  rw [closingLine?, Closes, ← String.toList_inj, String.toList_append]
  split
  · rename_i hmark
    obtain ⟨start, hstart⟩ := List.isSuffixOf_iff_suffix.1 hmark
    have hlength : (start ++ fence.toList).length = start.length + 3 := List.length_append
    rw [← hstart, hlength, Nat.add_sub_cancel, List.take_left, Option.some.injEq,
      List.append_left_inj, ← String.toList_inj, String.toList_ofList]
  · rename_i hmark
    constructor
    · intro h
      cases h
    · intro h
      exact absurd (List.isSuffixOf_iff_suffix.2 ⟨last.toList, h.symm⟩) hmark

theorem closingLine?_eq_none_iff : closingLine? line = none ↔ ∀ last, ¬ Closes line last := by
  simp only [Option.eq_none_iff_forall_ne_some, ne_eq, closingLine?_eq_some_iff]

end Lines

/-! ## 2. Passages -/

/-- The lines that are one node's, the first by its number, and what they say. -/
structure Passage where
  line : Nat
  raw : String
  header : Header
  block : List String
  text : String

namespace Passage

/-- The number of the last line. -/
def last (p : Passage) : Nat := p.line + p.block.length

/-- What the lines say about the node. -/
def entry (p : Passage) : Entry := { Entry.ofHeader p.line p.raw p.header with prompt := p.text }

end Passage

/-! ## 3. Lines that are laid out -/

/-- Whether a line begins a node: it may not be skipped and is read, and the node's id is good and
none of those seen. -/
structure Begins (seen : List String) (line : Nat) (raw : String) (h : Header) : Prop where
  unskipped : ¬ Skippable raw
  read : Header.read line (trim raw) = .ok h
  new : (Entry.ofHeader line raw h).id ∉ seen
  good : Node.idProblem? (Entry.ofHeader line raw h).id = none

/-- Whether some passages are all that stands in some lines, of which the first has a given number:
between them, lines are skipped.  No passage has an id that was seen. -/
inductive Laid : List String → Nat → List String → List Passage → Prop where
  | nil {seen : List String} {first : Nat} : Laid seen first [] []
  | skipped {seen : List String} {first : Nat} {raw : String} {rest : List String}
      {ps : List Passage} (hraw : Skippable raw) (more : Laid seen (first + 1) rest ps) :
      Laid seen first (raw :: rest) ps
  | passage {seen : List String} {p : Passage} {after : List String} {ps : List Passage}
      (hbegins : Begins seen p.line p.raw p.header)
      (hmeans : Means p.header.prompt p.block after p.text)
      (more : Laid (p.entry.id :: seen) (p.last + 1) after ps) :
      Laid seen p.line (p.raw :: (p.block ++ after)) (p :: ps)

/-- Whether some lines, after those of an open block, end the block of an entry and are laid out
from there. -/
def Ends (seen : List String) (first : Nat) (e : Entry) (inner rest : List String)
    (es : List Entry) : Prop :=
  ∃ block after text ps, rest = block ++ after ∧ Means fence (inner ++ block) after text ∧
    Laid seen (first + block.length) after ps ∧
    { e with prompt := text } :: ps.map Passage.entry = es

section Layout

variable {seen inner rest : List String} {first : Nat} {raw last : String} {h : Header} {e : Entry}
  {es : List Entry} {ps : List Passage}

theorem Laid.plain (hbegins : Begins seen first raw h) (hprompt : h.prompt ≠ fence)
    (more : Laid ((Entry.ofHeader first raw h).id :: seen) (first + 1) rest ps) :
    Laid seen first (raw :: rest) (⟨first, raw, h, [], h.prompt⟩ :: ps) :=
  .passage (p := ⟨first, raw, h, [], h.prompt⟩) hbegins (.itself hprompt) more

theorem Unclosed.concat (hinner : Unclosed inner) (hraw : ∀ last, ¬ Closes raw last) :
    Unclosed (inner ++ [raw]) := by
  intro line hline
  rcases List.mem_append.1 hline with hline | hline
  · exact hinner line hline
  · rw [List.mem_singleton.1 hline]
    exact hraw

theorem Ends.cons (h : Ends seen (first + 1) e (inner ++ [raw]) rest es) :
    Ends seen first e inner (raw :: rest) es := by
  obtain ⟨block, after, text, ps, rfl, hmeans, hps, hes⟩ := h
  refine ⟨raw :: block, after, text, ps, rfl, ?_, ?_, hes⟩
  · rwa [List.append_assoc] at hmeans
  · rwa [Nat.add_right_comm] at hps

theorem ends_closed (hinner : Unclosed inner) (hraw : Closes raw last)
    (more : Laid seen (first + 1) rest ps) :
    Ends seen first e inner (raw :: rest)
      (e.withBlock (inner ++ [last]) :: ps.map Passage.entry) :=
  ⟨[raw], rest, _, ps, rfl, .closed hinner hraw, more, rfl⟩

theorem ends_unclosed (hinner : Unclosed inner) :
    Ends seen first e inner [] [e.withBlock inner] := by
  refine ⟨[], [], _, [], rfl, ?_, .nil, rfl⟩
  rw [List.append_nil]
  exact .unclosed hinner

/-- The lines of a block belong to the passage of the entry that opens it. -/
theorem Ends.exists_laid (hbegins : Begins seen first raw h) (hprompt : h.prompt = fence)
    (hends : Ends ((Entry.ofHeader first raw h).id :: seen) (first + 1)
      (Entry.ofHeader first raw h) [] rest es) :
    ∃ ps, Laid seen first (raw :: rest) ps ∧ ps.map Passage.entry = es := by
  obtain ⟨block, after, text, ps, rfl, hmeans, hps, hes⟩ := hends
  rw [Nat.add_right_comm] at hps
  have hlaid : Laid seen first (raw :: (block ++ after)) (⟨first, raw, h, block, text⟩ :: ps) :=
    .passage (p := ⟨first, raw, h, block, text⟩) hbegins (hprompt ▸ hmeans) hps
  exact ⟨_, hlaid, hes⟩

end Layout

/-! ## 4. Reading -/

section Reader

variable {seen inner rest : List String} {first : Nat} {raw last : String} {h : Header} {e : Entry}
  {es : List Entry} {r : Refusal}

/-- A line that begins an entry is read as it. -/
theorem Begins.ofLine (hbegins : Begins seen first raw h) :
    Entry.ofLine seen first raw = .ok (Entry.ofHeader first raw h) := by
  simp only [Entry.ofLine, hbegins.read, hbegins.new, if_false, hbegins.good]

/-- An entry that a line begins is what its header says. -/
theorem Entry.begins (hraw : ¬ Skippable raw) (he : Entry.ofLine seen first raw = .ok e) :
    ∃ h, Begins seen first raw h ∧ Entry.ofHeader first raw h = e := by
  simp only [Entry.ofLine] at he
  split at he
  · cases he
  · rename_i h hread
    split at he
    · cases he
    · rename_i hnew
      split at he
      · cases he
      · rename_i hgood
        cases he
        exact ⟨h, ⟨hraw, hread, hnew, hgood⟩, rfl⟩

/-- Where a reader stands after the first line of an entry. -/
def Entry.placeAfter (e : Entry) : Place := if e.opensBlock then .inside e [] else .outside

/-- The entry that is complete with its first line, if it is. -/
def Entry.complete (e : Entry) : List Entry := if e.opensBlock then [] else [e]

/-! What a reader does with a line is said here once for each of the five cases; what follows about
reading follows from these. -/

theorem entriesFrom_skipped (hraw : Skippable raw) :
    entriesFrom seen .outside first (raw :: rest) =
      entriesFrom seen .outside (first + 1) rest := by
  rw [entriesFrom, if_pos (isSkipped_iff.2 hraw)]

theorem entriesFrom_bad (hraw : ¬ Skippable raw) (hbad : Entry.ofLine seen first raw = .error r) :
    entriesFrom seen .outside first (raw :: rest) = .error r := by
  rw [entriesFrom, if_neg (mt isSkipped_iff.1 hraw), hbad]

theorem entriesFrom_header (hraw : ¬ Skippable raw) (he : Entry.ofLine seen first raw = .ok e) :
    entriesFrom seen .outside first (raw :: rest) =
      (entriesFrom (e.id :: seen) e.placeAfter (first + 1) rest).map (e.complete ++ ·) := by
  simp only [entriesFrom, if_neg (mt isSkipped_iff.1 hraw), he, Entry.placeAfter, Entry.complete]
  split
  · cases entriesFrom (e.id :: seen) (.inside e []) (first + 1) rest <;> rfl
  · cases entriesFrom (e.id :: seen) .outside (first + 1) rest <;> rfl

theorem entriesFrom_inner (hraw : ∀ last, ¬ Closes raw last) :
    entriesFrom seen (.inside e inner) first (raw :: rest) =
      entriesFrom seen (.inside e (inner ++ [raw])) (first + 1) rest := by
  rw [entriesFrom, closingLine?_eq_none_iff.2 hraw]

theorem entriesFrom_closing (hraw : Closes raw last) :
    entriesFrom seen (.inside e inner) first (raw :: rest) =
      (entriesFrom seen .outside (first + 1) rest).map (e.withBlock (inner ++ [last]) :: ·) := by
  rw [entriesFrom, closingLine?_eq_some_iff.2 hraw]
  cases entriesFrom seen .outside (first + 1) rest <;> rfl

/-- A mark opens a block. -/
theorem Begins.entriesFrom_opening (hbegins : Begins seen first raw h) (hprompt : h.prompt = fence) :
    entriesFrom seen .outside first (raw :: rest) =
      entriesFrom ((Entry.ofHeader first raw h).id :: seen)
        (.inside (Entry.ofHeader first raw h) []) (first + 1) rest := by
  have hopens : (Entry.ofHeader first raw h).opensBlock = true := beq_iff_eq.2 hprompt
  rw [entriesFrom_header hbegins.unskipped hbegins.ofLine, Entry.placeAfter, Entry.complete,
    if_pos hopens, if_pos hopens]
  cases entriesFrom _ _ (first + 1) rest <;> rfl

/-- A prompt that is no mark completes its entry. -/
theorem Begins.entriesFrom_plain (hbegins : Begins seen first raw h) (hprompt : h.prompt ≠ fence) :
    entriesFrom seen .outside first (raw :: rest) =
      (entriesFrom ((Entry.ofHeader first raw h).id :: seen) .outside (first + 1) rest).map
        (Entry.ofHeader first raw h :: ·) := by
  have hplain : ¬ (Entry.ofHeader first raw h).opensBlock = true := mt beq_iff_eq.1 hprompt
  rw [entriesFrom_header hbegins.unskipped hbegins.ofLine, Entry.placeAfter, Entry.complete,
    if_neg hplain, if_neg hplain]
  rfl

theorem exists_of_map_eq_ok {α β : Type} {x : Except Refusal α} {f : α → β} {b : β}
    (h : x.map f = .ok b) : ∃ a, x = .ok a ∧ f a = b := by
  cases x with
  | error r => cases h
  | ok a =>
    cases h
    exact ⟨a, rfl, rfl⟩

/-- **What a line is outside a block**: it is skipped, or begins an entry that has a block or has
none. -/
theorem entriesFrom_outside (hes : entriesFrom seen .outside first (raw :: rest) = .ok es) :
    (Skippable raw ∧ entriesFrom seen .outside (first + 1) rest = .ok es) ∨
    ∃ header, Begins seen first raw header ∧
      ((header.prompt = fence ∧ entriesFrom ((Entry.ofHeader first raw header).id :: seen)
          (.inside (Entry.ofHeader first raw header) []) (first + 1) rest = .ok es) ∨
        header.prompt ≠ fence ∧ ∃ more,
          entriesFrom ((Entry.ofHeader first raw header).id :: seen) .outside (first + 1) rest =
            .ok more ∧ Entry.ofHeader first raw header :: more = es) := by
  by_cases hraw : Skippable raw
  · rw [entriesFrom_skipped hraw] at hes
    exact .inl ⟨hraw, hes⟩
  cases he : Entry.ofLine seen first raw with
  | error r =>
    rw [entriesFrom_bad hraw he] at hes
    cases hes
  | ok e =>
    obtain ⟨header, hbegins, rfl⟩ := Entry.begins hraw he
    refine .inr ⟨header, hbegins, ?_⟩
    by_cases hprompt : header.prompt = fence
    · rw [hbegins.entriesFrom_opening hprompt] at hes
      exact .inl ⟨hprompt, hes⟩
    · rw [hbegins.entriesFrom_plain hprompt] at hes
      exact .inr ⟨hprompt, exists_of_map_eq_ok hes⟩

/-- **What a line is in a block**: it belongs to it, or closes it. -/
theorem entriesFrom_inside (hes : entriesFrom seen (.inside e inner) first (raw :: rest) = .ok es) :
    ((∀ last, ¬ Closes raw last) ∧
      entriesFrom seen (.inside e (inner ++ [raw])) (first + 1) rest = .ok es) ∨
    ∃ last more, Closes raw last ∧ entriesFrom seen .outside (first + 1) rest = .ok more ∧
      e.withBlock (inner ++ [last]) :: more = es := by
  by_cases hraw : ∃ last, Closes raw last
  · obtain ⟨last, hlast⟩ := hraw
    rw [entriesFrom_closing hlast] at hes
    obtain ⟨more, hmore, hes⟩ := exists_of_map_eq_ok hes
    exact .inr ⟨last, more, hlast, hmore, hes⟩
  · have hinner := not_exists.1 hraw
    rw [entriesFrom_inner hinner] at hes
    exact .inl ⟨hinner, hes⟩

end Reader

/-- **The reader lays out the rest of a script**, and ends an open block first. -/
theorem entriesFrom_laid (rest : List String) : ∀ (seen : List String) (first : Nat)
    (es : List Entry),
    (entriesFrom seen .outside first rest = .ok es →
      ∃ ps, Laid seen first rest ps ∧ ps.map Passage.entry = es) ∧
    ∀ e inner, Unclosed inner → entriesFrom seen (.inside e inner) first rest = .ok es →
      Ends seen first e inner rest es := by
  induction rest with
  | nil =>
    intro seen first es
    constructor
    · intro h
      cases h
      exact ⟨[], .nil, rfl⟩
    · intro e inner hinner h
      cases h
      exact ends_unclosed hinner
  | cons raw rest ih =>
    intro seen first es
    constructor
    · intro h
      rcases entriesFrom_outside h with ⟨hskip, h⟩ | ⟨header, hbegins, hblock | hplain⟩
      · obtain ⟨ps, hps, hes⟩ := (ih seen (first + 1) es).1 h
        exact ⟨ps, .skipped hskip hps, hes⟩
      · obtain ⟨hprompt, h⟩ := hblock
        have hends := (ih _ (first + 1) es).2 _ [] (by simp [Unclosed]) h
        exact hends.exists_laid hbegins hprompt
      · obtain ⟨hprompt, more, hmore, rfl⟩ := hplain
        obtain ⟨ps, hps, rfl⟩ := (ih _ (first + 1) more).1 hmore
        exact ⟨_, .plain hbegins hprompt hps, rfl⟩
    · intro e inner hinner h
      rcases entriesFrom_inside h with ⟨hraw, h⟩ | ⟨last, more, hraw, hmore, rfl⟩
      · exact ((ih seen (first + 1) es).2 e _ (hinner.concat hraw) h).cons
      · obtain ⟨ps, hps, rfl⟩ := (ih seen (first + 1) more).1 hmore
        exact ends_closed hinner hraw hps

/-- The lines of a script that is read are laid out from the first. -/
theorem exists_laid {source : String} {es : List Entry} (h : entries source = .ok es) :
    ∃ ps, Laid [] 1 (lines source) ps ∧ ps.map Passage.entry = es :=
  (entriesFrom_laid _ [] 1 es).1 h

end PromptChain.Script
