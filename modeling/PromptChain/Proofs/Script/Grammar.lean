/-
# The lines that are read

A line is an assignment or a step; `Assignment` and `Parts` say so about the whole line, with no
regard to how it is read.  An assignment is taken for one whatever else stands in it.  Any other
line is read exactly when the words before its first colon are an id, a model and flags, of which
the id or the model is there; and they are that in one way only (`read_grammar`).
-/
import PromptChain.Proofs.Text.Splitting
import PromptChain.Script.Header

namespace PromptChain.Script

open PromptChain.Text

/-! ## 1. The grammar -/

/-- Whether a line assigns a content to a name; blanks around the `=` do not count. -/
def Assignment (cs name content : List Char) : Prop :=
  ∃ gap gap', cs = '#' :: name ++ gap ++ '=' :: gap' ++ content ∧ isName name = true ∧
    AllBlank gap ∧ AllBlank gap' ∧ Flush content

/-- The parts of a line before and after its first colon; a line without a colon has nothing after
it. -/
inductive AtColon : List Char → List Char → List Char → Prop where
  | colon {before after : List Char} (h : ':' ∉ before) :
      AtColon (before ++ ':' :: after) before after
  | none {cs : List Char} (h : ':' ∉ cs) : AtColon cs cs []

/-- Whether a line has some words before its first colon, and some prompt after it. -/
def Divided (cs : List Char) (tokens : List (List Char)) (prompt : List Char) : Prop :=
  ∃ before after, AtColon cs before after ∧ Spaced before tokens ∧ Trimmed after prompt

/-- What the words of a step say. -/
structure Parts where
  id : Option (List Char)
  model : Option (List Char)
  flags : List (List Char)

namespace Parts

/-- The words that say it. -/
def tokens (p : Parts) : List (List Char) :=
  (p.id.map ('#' :: ·)).toList ++ p.model.toList ++ p.flags.map ('+' :: ·)

/-- Whether it can be said: ids and flags are names, a model is not mistaken for one of these, and
an id or a model is there. -/
structure Valid (p : Parts) : Prop where
  id : ∀ name ∈ p.id, isName name = true
  model : ∀ token ∈ p.model, token.head? ≠ some '+' ∧ (p.id = none → token.head? ≠ some '#')
  flags : ∀ name ∈ p.flags, isName name = true
  named : p.id ≠ none ∨ p.model ≠ none

/-- The header that says it. -/
def header (p : Parts) (prompt : List Char) : Header where
  id := p.id.map String.ofList
  model := p.model.map String.ofList
  flags := p.flags.map String.ofList
  prompt := String.ofList prompt

end Parts

/-! ## 2. Assignments -/

section Lines

variable {cs before after name content prompt : List Char} {tokens rest : List (List Char)}

/-- A run of name characters is as long as it can be when no other follows. -/
theorem takeWhile_name (hname : isName name = true)
    (hrest : ∀ c ∈ cs.head?, isNameChar c = false) :
    (name ++ cs).takeWhile isNameChar = name ∧ (name ++ cs).dropWhile isNameChar = cs := by
  have hall : ∀ c ∈ name, isNameChar c = true := by
    simp only [isName, Bool.and_eq_true, List.all_eq_true] at hname
    exact hname.2
  rw [List.takeWhile_append_of_pos hall, List.dropWhile_append_of_pos hall]
  cases cs with
  | nil => exact ⟨List.append_nil _, rfl⟩
  | cons c tail =>
    have hneg : ¬ isNameChar c = true := by simp [hrest c rfl]
    rw [List.takeWhile_cons_of_neg hneg, List.dropWhile_cons_of_neg hneg, List.append_nil]
    exact ⟨rfl, rfl⟩

/-- A name ends where a blank begins, or the mark. -/
theorem not_isNameChar_head? {gap : List Char} (hgap : AllBlank gap) :
    ∀ c ∈ (gap ++ '=' :: cs).head?, isNameChar c = false := by
  cases gap with
  | nil =>
    rintro c ⟨rfl⟩
    exact not_isNameChar_of_mark (by simp)
  | cons b tail =>
    rintro c ⟨rfl⟩
    exact not_isNameChar_of_isBlank (hgap b List.mem_cons_self)

/-- **An assignment is read as what it assigns**, and nothing else is taken for one. -/
theorem assignment?_eq_some_iff :
    Header.assignment? cs = some (name, content) ↔ Assignment cs name content := by
  constructor
  · intro h
    unfold Header.assignment? at h
    split at h
    · rename_i rest
      simp only at h
      split at h
      · rename_i assigned hassigned
        split at h
        · cases h
        · rename_i hne
          cases h
          obtain ⟨gap, hgap, hblank, -⟩ := dropBlanks_eq_iff.1 hassigned
          obtain ⟨gap', hgap', hblank', hflush⟩ :=
            dropBlanks_eq_iff.1 (rfl : dropBlanks assigned = dropBlanks assigned)
          refine ⟨gap, gap', ?_, ?_, hblank, hblank', hflush⟩
          · rw [List.cons_append, List.append_assoc, List.cons_append, List.append_assoc,
              List.cons_append, ← hgap', ← hgap, List.takeWhile_append_dropWhile]
          · rw [isName, Bool.and_eq_true, List.all_eq_true]
            exact ⟨by simpa using hne, fun c hc => List.mem_takeWhile_imp hc⟩
      · cases h
    · cases h
  · rintro ⟨gap, gap', rfl, hname, hgap, hgap', hflush⟩
    have hend : ∀ c ∈ (gap ++ '=' :: (gap' ++ content)).head?, isNameChar c = false :=
      not_isNameChar_head? hgap
    obtain ⟨htake, hdrop⟩ := takeWhile_name hname hend
    have hmark : dropBlanks (gap ++ '=' :: (gap' ++ content)) = '=' :: (gap' ++ content) :=
      dropBlanks_append hgap (flush_cons.2 (by decide))
    have hne : name.isEmpty = false := by
      simp only [isName, Bool.and_eq_true] at hname
      simpa using hname.1
    simp only [List.cons_append, List.append_assoc, Header.assignment?, htake, hdrop, hmark, hne,
      dropBlanks_append hgap' hflush]
    rfl

/-! ## 3. Colons -/

theorem ne_colon_of_not_mem (h : ':' ∉ cs) : ∀ c ∈ cs, (c != ':') = true := by
  intro c hc
  simpa using fun heq : c = ':' => h (heq ▸ hc)

/-- The parts around the first colon are those that are read. -/
theorem atColon_iff :
    AtColon cs before after ↔ before = Header.beforeColon cs ∧ after = Header.afterColon cs := by
  constructor
  · intro h
    cases h with
    | colon h =>
      have hall := ne_colon_of_not_mem h
      rw [Header.beforeColon, Header.afterColon, List.takeWhile_append_of_pos hall,
        List.dropWhile_append_of_pos hall]
      simp
    | none h =>
      have hall := ne_colon_of_not_mem h
      have hdrop : cs.dropWhile (· != ':') = [] := List.dropWhile_eq_nil_iff.2 hall
      rw [Header.beforeColon, Header.afterColon, List.takeWhile_eq_self_iff.2 hall, hdrop]
      exact ⟨rfl, rfl⟩
  · rintro ⟨rfl, rfl⟩
    have hcs : Header.beforeColon cs ++ cs.dropWhile (· != ':') = cs :=
      List.takeWhile_append_dropWhile
    have hbefore : ':' ∉ Header.beforeColon cs := fun hmem => by
      simpa using List.mem_takeWhile_imp hmem
    rw [Header.afterColon]
    cases hdrop : cs.dropWhile (· != ':') with
    | nil =>
      rw [hdrop, List.append_nil] at hcs
      have hnone := AtColon.none hbefore
      rwa [hcs] at hnone ⊢
    | cons c tail =>
      have hhead := List.head?_dropWhile_not (· != ':') cs
      rw [hdrop] at hhead
      obtain rfl : c = ':' := by simpa using hhead
      have hcolon : AtColon (Header.beforeColon cs ++ ':' :: tail) (Header.beforeColon cs) tail :=
        .colon hbefore
      rw [← hdrop, hcs] at hcolon
      exact hcolon

/-- **A line is divided in one way.** -/
theorem divided_iff : Divided cs tokens prompt ↔ words (Header.beforeColon cs) = tokens ∧
    trim (String.ofList (Header.afterColon cs)) = String.ofList prompt := by
  rw [words_eq_iff, trim_eq_iff, String.toList_ofList, String.toList_ofList]
  constructor
  · rintro ⟨before, after, hcolon, hspaced, htrimmed⟩
    obtain ⟨rfl, rfl⟩ := atColon_iff.1 hcolon
    exact ⟨hspaced, htrimmed⟩
  · rintro ⟨hspaced, htrimmed⟩
    exact ⟨_, _, atColon_iff.2 ⟨rfl, rfl⟩, hspaced, htrimmed⟩

/-! ## 4. Steps -/

/-- Flags are read when they are names. -/
theorem takeFlags_map {flags : List (List Char)} (h : ∀ name ∈ flags, isName name = true) :
    Header.takeFlags (flags.map ('+' :: ·)) = .ok flags := by
  induction flags with
  | nil => rfl
  | cons name more ih =>
    have hmore := ih fun other hother => h other (List.mem_cons_of_mem name hother)
    simp only [List.map_cons, Header.takeFlags, h name List.mem_cons_self, hmore, if_true]

theorem eq_map_of_takeFlags {flags : List (List Char)} (h : Header.takeFlags tokens = .ok flags) :
    tokens = flags.map ('+' :: ·) ∧ ∀ name ∈ flags, isName name = true := by
  induction tokens generalizing flags with
  | nil =>
    cases h
    exact ⟨rfl, by simp⟩
  | cons token rest ih =>
    unfold Header.takeFlags at h
    split at h
    · rename_i heq
      cases heq
    · rename_i name more heq
      cases heq
      split at h
      · rename_i hname
        split at h
        · rename_i flags' hflags
          cases h
          obtain ⟨rfl, hall⟩ := ih hflags
          exact ⟨rfl, List.forall_mem_cons.2 ⟨hname, hall⟩⟩
        · cases h
      · cases h
    · cases h

/-- A word that is no flag is the model, if there is one. -/
theorem takeModel_append {model : Option (List Char)} {flags : List (List Char)}
    (h : ∀ token ∈ model, token.head? ≠ some '+') :
    Header.takeModel (model.toList ++ flags.map ('+' :: ·)) = (model, flags.map ('+' :: ·)) := by
  cases model with
  | none => cases flags <;> rfl
  | some token =>
    have hhead := h token rfl
    rw [Option.toList_some, List.singleton_append]
    unfold Header.takeModel
    split
    · rename_i heq
      cases heq
      exact absurd rfl hhead
    · rename_i heq
      cases heq
      rfl
    · rename_i heq
      cases heq

theorem eq_append_of_takeModel {model : Option (List Char)}
    (h : Header.takeModel tokens = (model, rest)) :
    tokens = model.toList ++ rest ∧ ∀ token ∈ model, token.head? ≠ some '+' := by
  unfold Header.takeModel at h
  split at h
  · cases h
    exact ⟨rfl, by simp⟩
  · rename_i token more hnot
    cases h
    refine ⟨rfl, ?_⟩
    rintro token ⟨rfl⟩ hhead
    obtain ⟨name, rfl⟩ := List.head?_eq_some_iff.1 hhead
    exact hnot name rfl
  · cases h
    exact ⟨rfl, by simp⟩

/-- A word that begins like an id is one, if its rest is a name. -/
theorem takeId_append {id : Option (List Char)} (hid : ∀ name ∈ id, isName name = true)
    (h : id = none → ∀ token ∈ tokens.head?, token.head? ≠ some '#') :
    Header.takeId ((id.map ('#' :: ·)).toList ++ tokens) = .ok (id, tokens) := by
  cases id with
  | none =>
    rw [Option.map_none, Option.toList_none, List.nil_append]
    unfold Header.takeId
    split
    · exact absurd rfl (h rfl _ rfl)
    · rfl
  | some name =>
    simp only [Option.map_some, Option.toList_some, List.singleton_append, Header.takeId,
      hid name rfl, if_true]

theorem eq_append_of_takeId {id : Option (List Char)} (h : Header.takeId tokens = .ok (id, rest)) :
    tokens = (id.map ('#' :: ·)).toList ++ rest ∧ (∀ name ∈ id, isName name = true) ∧
      (id = none → ∀ token ∈ rest.head?, token.head? ≠ some '#') := by
  unfold Header.takeId at h
  split at h
  · split at h
    · rename_i hname
      cases h
      refine ⟨rfl, ?_, by simp⟩
      rintro name ⟨rfl⟩
      exact hname
    · cases h
  · rename_i hnot
    cases h
    refine ⟨rfl, by simp, fun _ token htoken hhead => ?_⟩
    obtain ⟨more, rfl⟩ := List.head?_eq_some_iff.1 htoken
    obtain ⟨name, rfl⟩ := List.head?_eq_some_iff.1 hhead
    exact hnot name more rfl

/-- **What can be said is read as it is said.** -/
theorem ofTokens_tokens {p : Parts} (h : p.Valid) (prompt : List Char) :
    Header.ofTokens p.tokens (String.ofList prompt) = .ok (p.header prompt) := by
  obtain ⟨id, model, flags⟩ := p
  have hid : Header.takeId (Parts.tokens ⟨id, model, flags⟩) =
      .ok (id, model.toList ++ flags.map ('+' :: ·)) := by
    rw [Parts.tokens, List.append_assoc]
    refine takeId_append h.id ?_
    rintro rfl
    -- without an id there is a model
    obtain ⟨token, rfl⟩ : ∃ token, model = some token :=
      Option.ne_none_iff_exists'.1 (h.named.resolve_left fun hne => hne rfl)
    rintro token ⟨rfl⟩
    exact (h.model token rfl).2 rfl
  have hmodel : Header.takeModel (model.toList ++ flags.map ('+' :: ·)) =
      (model, flags.map ('+' :: ·)) :=
    takeModel_append fun token htoken => (h.model token htoken).1
  have hnamed : (id.isNone && model.isNone) = false := by
    rw [Bool.and_eq_false_iff, Option.isNone_eq_false_iff, Option.isNone_eq_false_iff,
      Option.isSome_iff_ne_none, Option.isSome_iff_ne_none]
    exact h.named
  simp only [Header.ofTokens, hid, hmodel, takeFlags_map h.flags, hnamed]
  rfl

/-- **What is read can be said**, and in the words that were read. -/
theorem exists_parts {h : Header} (hread : Header.ofTokens tokens (String.ofList prompt) = .ok h) :
    ∃ p : Parts, p.Valid ∧ p.tokens = tokens ∧ p.header prompt = h := by
  simp only [Header.ofTokens] at hread
  split at hread
  · cases hread
  · rename_i id rest hid
    obtain ⟨rfl, hnames, hnone⟩ := eq_append_of_takeId hid
    rcases hmodel : Header.takeModel rest with ⟨model, more⟩
    obtain ⟨rfl, hplain⟩ := eq_append_of_takeModel hmodel
    rw [hmodel] at hread
    simp only at hread
    split at hread
    · cases hread
    · rename_i flags hflags
      obtain ⟨rfl, hall⟩ := eq_map_of_takeFlags hflags
      split at hread
      · cases hread
      · rename_i hnamed
        cases hread
        refine ⟨⟨id, model, flags⟩,
          ⟨hnames, fun token htoken => ⟨hplain token htoken, ?_⟩, hall, ?_⟩,
          List.append_assoc _ _ _, rfl⟩
        · intro hid
          obtain rfl : model = some token := htoken
          exact hnone hid token rfl
        · rwa [Bool.not_eq_true, Bool.and_eq_false_iff, Option.isNone_eq_false_iff,
            Option.isNone_eq_false_iff, Option.isSome_iff_ne_none, Option.isSome_iff_ne_none]
            at hnamed

/-- **Words are parts in one way.** -/
theorem Parts.eq_of_tokens_eq {p q : Parts} (hp : p.Valid) (hq : q.Valid)
    (h : p.tokens = q.tokens) : p = q := by
  have hread := (ofTokens_tokens hp []).symm.trans (h ▸ ofTokens_tokens hq [])
  obtain ⟨id, model, flags⟩ := p
  obtain ⟨id', model', flags'⟩ := q
  simp only [Except.ok.injEq, Parts.header, Header.mk.injEq, and_true] at hread
  obtain ⟨hid, hmodel, hflags⟩ := hread
  have hinj : Function.Injective String.ofList := fun _ _ => String.ofList_injective
  rw [Option.map_injective hinj hid, Option.map_injective hinj hmodel,
    List.map_inj_right (fun _ _ => String.ofList_injective) |>.1 hflags]

end Lines

/-! ## 5. Lines -/

/-- **What is read of a line.**  An assignment gives its name and its content.  Any other line is
divided in one way; it is read exactly when its words are the parts of a step, which they are in one
way at most, and then gives these and its prompt.  In every other case the fault names the line's
number and its text. -/
theorem read_grammar (line : Int) (text : String) :
    (∀ name content, Assignment text.toList name content →
      Header.read line text =
        .ok { id := some (String.ofList name), prompt := String.ofList content }) ∧
    ((∀ name content, ¬ Assignment text.toList name content) →
      ∃ tokens prompt, (∀ tokens' prompt', Divided text.toList tokens' prompt' ↔
          tokens' = tokens ∧ prompt' = prompt) ∧
        (∀ h, Header.read line text = .ok h ↔
          ∃ p : Parts, p.Valid ∧ p.tokens = tokens ∧ p.header prompt = h) ∧
        ∀ p q : Parts, p.Valid → q.Valid → p.tokens = tokens → q.tokens = tokens → p = q) ∧
    ((∀ h, Header.read line text ≠ .ok h) →
      ∃ rule, Header.read line text = .error ⟨line, text, rule⟩) := by
  have hread : ∀ h, Header.read line text = .ok h ↔ Header.ofLine text = .ok h := by
    intro h
    rw [Header.read]
    cases Header.ofLine text <;> simp
  refine ⟨fun name content hassign => ?_, fun hnone => ?_, fun hno => ?_⟩
  · rw [hread, Header.ofLine, assignment?_eq_some_iff.2 hassign]
  · have hstep : Header.assignment? text.toList = none := by
      rw [Option.eq_none_iff_forall_ne_some]
      rintro ⟨name, content⟩ hassign
      exact hnone name content (assignment?_eq_some_iff.1 hassign)
    have hline : Header.ofLine text = Header.ofTokens (words (Header.beforeColon text.toList))
        (String.ofList (trim (String.ofList (Header.afterColon text.toList))).toList) := by
      rw [Header.ofLine, hstep, String.ofList_toList]
    refine ⟨words (Header.beforeColon text.toList),
      (trim (String.ofList (Header.afterColon text.toList))).toList, fun tokens' prompt' => ?_,
      fun h => ?_, fun p q hp hq hptokens hqtokens =>
        Parts.eq_of_tokens_eq hp hq (hptokens.trans hqtokens.symm)⟩
    · rw [divided_iff, ← String.toList_inj, String.toList_ofList]
      exact ⟨fun hd => ⟨hd.1.symm, hd.2.symm⟩, fun hd => ⟨hd.1.symm, hd.2.symm⟩⟩
    · rw [hread, hline]
      constructor
      · exact exists_parts
      · rintro ⟨p, hp, htokens, rfl⟩
        rw [← htokens]
        exact ofTokens_tokens hp _
  · cases hline : Header.ofLine text with
    | ok h => exact absurd ((hread h).2 hline) (hno h)
    | error rule => exact ⟨rule, by rw [Header.read, hline]⟩

/-- An assignment of a text with a colon and another `=`, a step whose prompt holds both, and a step
with a word too many. -/
theorem read_grammar_lines :
    Header.read 1 "#a\t= b: c = d" = .ok { id := some "a", prompt := "b: c = d" } ∧
    Header.read 2 "#a flash +x : do = it: now " =
      .ok { id := some "a", model := some "flash", flags := ["x"], prompt := "do = it: now" } ∧
    ∃ rule, Header.read 3 "flash +x y" = .error ⟨3, "flash +x y", rule⟩ := by
  refine ⟨?_, ?_, (read_grammar 3 "flash +x y").2.2 ?_⟩
  · refine (read_grammar 1 "#a\t= b: c = d").1 ['a'] "b: c = d".toList ⟨['\t'], [' '], ?_⟩
    have htab : AllBlank ['\t'] := by
      intro c hc
      rw [List.mem_singleton.1 hc]
      decide
    have hspace : AllBlank [' '] := by
      intro c hc
      rw [List.mem_singleton.1 hc]
      decide
    exact ⟨by decide +kernel, by decide, htab, hspace, flush_cons.2 (by decide)⟩
  · obtain ⟨tokens, prompt, hdivided, hread, -⟩ :=
      (read_grammar 2 "#a flash +x : do = it: now ").2.1 fun name content hassign => by
        have hnone : Header.assignment? "#a flash +x : do = it: now ".toList = none := by
          decide +kernel
        rw [assignment?_eq_some_iff.2 hassign] at hnone
        cases hnone
    obtain ⟨rfl, rfl⟩ := (hdivided ["#a".toList, "flash".toList, "+x".toList]
      "do = it: now".toList).1 (divided_iff.2 ⟨by decide +kernel, by decide +kernel⟩)
    refine (hread _).2 ⟨⟨some ['a'], some "flash".toList, [['x']]⟩, ?_, rfl, rfl⟩
    refine ⟨?_, ?_, ?_, .inl (by simp)⟩
    · rintro name ⟨rfl⟩
      decide
    · rintro token ⟨rfl⟩
      exact ⟨by decide, by simp⟩
    · intro name hname
      rw [List.mem_singleton.1 hname]
      decide
  · intro h hok
    have hno : (Header.read 3 "flash +x y").toOption = none := by decide +kernel
    rw [hok] at hno
    cases hno

end PromptChain.Script
