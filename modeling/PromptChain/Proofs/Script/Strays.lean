/-
# Words that no step may hold

Before the colon of a step, a mark without a name is a stray, and so are two plain words.  The
reader takes the words in their order and asks something else of each place; what it lets through
is the words of some `Parts`, so a stray is looked for among those, wherever it stands.

A bare `+` and a second plain word are refused in every place.  A bare `#` is refused in all places
but one: right after an id it stands where a model may stand, and a model is any word that does not
begin with `+` (`stray_words_refused`).  There the line is read, with the mark as its model
(`read_mark_as_model`).
-/
import PromptChain.Proofs.Script.Grammar

namespace PromptChain.Script

open PromptChain.Text

/-! ## 1. Strays -/

/-- Whether a word begins like neither an id nor a flag. -/
def Plain (token : List Char) : Prop := token.head? ≠ some '#' ∧ token.head? ≠ some '+'

instance (token : List Char) : Decidable (Plain token) :=
  inferInstanceAs (Decidable (_ ∧ _))

/-- Whether some words hold a mark without a name, or two plain words. -/
inductive Stray (tokens : List (List Char)) : Prop where
  | id (h : ['#'] ∈ tokens)
  | flag (h : ['+'] ∈ tokens)
  | plain (h : 2 ≤ tokens.countP (Plain ·))

/-- Whether some words are an id, a bare `#` where the model may stand, and flags. -/
structure MarkAsModel (tokens : List (List Char)) (id : List Char) (flags : List (List Char)) :
    Prop where
  tokens : tokens = ('#' :: id) :: ['#'] :: flags.map ('+' :: ·)
  isName_id : isName id = true
  isName_flags : ∀ name ∈ flags, isName name = true

/-! ## 2. Strays among the words of a step -/

namespace Parts

variable {p : Parts}

/-- A word of a step is its id, its model or one of its flags. -/
theorem mem_tokens {token : List Char} : token ∈ p.tokens ↔
    (∃ name ∈ p.id, '#' :: name = token) ∨ token ∈ p.model ∨
      ∃ name ∈ p.flags, '+' :: name = token := by
  simp only [tokens, List.mem_append, Option.mem_toList, Option.mem_def, Option.map_eq_some_iff,
    List.mem_map, or_assoc]

/-- No word of a step is a bare `+`. -/
theorem Valid.flag_not_mem (hp : p.Valid) : ['+'] ∉ p.tokens := by
  rw [mem_tokens]
  rintro (⟨name, -, heq⟩ | hmodel | ⟨name, hname, heq⟩)
  · cases heq
  · exact (hp.model _ hmodel).1 rfl
  · cases heq
    exact absurd (hp.flags _ hname) (by decide)

/-- **At most one word of a step is plain**: its model. -/
theorem countP_plain_le (p : Parts) : p.tokens.countP (Plain ·) ≤ 1 := by
  have hid : (p.id.map ('#' :: ·)).toList.countP (Plain ·) = 0 := by
    rw [List.countP_eq_zero]
    intro token htoken
    obtain ⟨name, -, rfl⟩ := Option.map_eq_some_iff.1 (Option.mem_toList.1 htoken)
    simp [Plain]
  have hflags : (p.flags.map ('+' :: ·)).countP (Plain ·) = 0 := by
    rw [List.countP_eq_zero]
    intro token htoken
    obtain ⟨name, -, rfl⟩ := List.mem_map.1 htoken
    simp [Plain]
  have hmodel : p.model.toList.countP (Plain ·) ≤ 1 := by
    cases p.model with
    | none => exact Nat.zero_le 1
    | some token => exact List.countP_le_length
  rw [tokens, List.countP_append, List.countP_append, hid, hflags, Nat.zero_add, Nat.add_zero]
  exact hmodel

/-- **A bare `#` among the words of a step is its model**, and stands after an id. -/
theorem Valid.markAsModel (hp : p.Valid) (h : ['#'] ∈ p.tokens) :
    ∃ id, MarkAsModel p.tokens id p.flags := by
  rcases mem_tokens.1 h with ⟨name, hname, heq⟩ | hmodel | ⟨name, -, heq⟩
  · cases heq
    exact absurd (hp.id _ hname) (by decide)
  · cases hid : p.id with
    | none => exact absurd rfl ((hp.model _ hmodel).2 hid)
    | some id =>
      have hmark : p.model = some ['#'] := hmodel
      refine ⟨id, ?_, hp.id id hid, hp.flags⟩
      rw [tokens, hid, hmark]
      rfl
  · cases heq

end Parts

/-- A bare `#` after an id can be said as a model. -/
theorem MarkAsModel.valid {tokens flags : List (List Char)} {id : List Char}
    (h : MarkAsModel tokens id flags) : Parts.Valid ⟨some id, some ['#'], flags⟩ where
  id := by
    rintro name ⟨rfl⟩
    exact h.isName_id
  model := by
    rintro token ⟨rfl⟩
    exact ⟨by decide, by simp⟩
  flags := h.isName_flags
  named := .inl (by simp)

/-! ## 3. Lines with strays -/

section Lines

variable {cs : List Char} {text : String} {tokens : List (List Char)} {prompt : List Char}

/-- A line from which no assignment is read is none. -/
theorem assignment?_eq_none_iff :
    Header.assignment? cs = none ↔ ∀ name content, ¬ Assignment cs name content := by
  simp only [Option.eq_none_iff_forall_ne_some, Prod.forall, ne_eq, assignment?_eq_some_iff]

/-- A line that is no assignment is read by the words before its colon. -/
theorem ofLine_eq_ofTokens (hnone : ∀ name content, ¬ Assignment text.toList name content)
    (hdivided : Divided text.toList tokens prompt) :
    Header.ofLine text = Header.ofTokens tokens (String.ofList prompt) := by
  obtain ⟨htokens, hprompt⟩ := divided_iff.1 hdivided
  rw [Header.ofLine, assignment?_eq_none_iff.2 hnone, ← htokens, ← hprompt]

/-- A line whose words are those of no step is refused. -/
theorem read_refused (line : Int) (hnone : ∀ name content, ¬ Assignment text.toList name content)
    (hdivided : Divided text.toList tokens prompt) (h : ∀ p : Parts, p.Valid → p.tokens ≠ tokens) :
    ∃ rule, Header.read line text = .error ⟨line, text, rule⟩ := by
  rw [Header.read, ofLine_eq_ofTokens hnone hdivided]
  cases hread : Header.ofTokens tokens (String.ofList prompt) with
  | error rule => exact ⟨rule, rfl⟩
  | ok header =>
    obtain ⟨p, hp, htokens, -⟩ := exists_parts hread
    exact absurd htokens (h p hp)

/-- A line whose words are those of a step is read as it. -/
theorem read_tokens (line : Int) (hnone : ∀ name content, ¬ Assignment text.toList name content)
    {p : Parts} (hp : p.Valid) (hdivided : Divided text.toList p.tokens prompt) :
    Header.read line text = .ok (p.header prompt) := by
  rw [Header.read, ofLine_eq_ofTokens hnone hdivided, ofTokens_tokens hp]

/-- **A line with a stray is refused**, whatever else stands in it and wherever the stray does; the
fault names the line's number and its text.  There is one exception: a bare `#` that has only an id
before it and only flags behind it, and is then the one stray, is read as the model. -/
theorem stray_words_refused (line : Int)
    (hnone : ∀ name content, ¬ Assignment text.toList name content)
    (hdivided : Divided text.toList tokens prompt) (hstray : Stray tokens) :
    ((∀ id flags, ¬ MarkAsModel tokens id flags) →
      ∃ rule, Header.read line text = .error ⟨line, text, rule⟩) ∧
    ∀ id flags, MarkAsModel tokens id flags →
      ['+'] ∉ tokens ∧ tokens.countP (Plain ·) < 2 ∧
      Header.read line text = .ok {
        id := some (String.ofList id), model := some "#", flags := flags.map String.ofList,
        prompt := String.ofList prompt } := by
  constructor
  · intro hnot
    refine read_refused line hnone hdivided fun p hp htokens => ?_
    subst htokens
    cases hstray with
    | id h =>
      obtain ⟨id, hid⟩ := hp.markAsModel h
      exact hnot id _ hid
    | flag h => exact hp.flag_not_mem h
    | plain h => exact absurd (Nat.le_trans h p.countP_plain_le) (by decide)
  · intro id flags hmark
    have htokens : tokens = Parts.tokens ⟨some id, some ['#'], flags⟩ := hmark.tokens
    rw [htokens] at hdivided ⊢
    exact ⟨hmark.valid.flag_not_mem, Nat.lt_succ_of_le (Parts.countP_plain_le _),
      read_tokens line hnone hmark.valid hdivided⟩

end Lines

/-- A bare `+` before a model, two plain words behind a flag, and a bare `#` behind an id. -/
theorem stray_words_refused_lines :
    (∃ rule, Header.read 1 "#a + flash: go" = .error ⟨1, "#a + flash: go", rule⟩) ∧
    (∃ rule, Header.read 2 "+x flash #" = .error ⟨2, "+x flash #", rule⟩) ∧
    Header.read 3 "#a # +x: go" =
      .ok { id := some "a", model := some "#", flags := ["x"], prompt := "go" } := by
  have hflag : Divided "#a + flash: go".toList ["#a".toList, ['+'], "flash".toList] "go".toList :=
    divided_iff.2 ⟨by decide +kernel, by decide +kernel⟩
  have hmark : Divided "+x flash #".toList ["+x".toList, "flash".toList, ['#']] [] :=
    divided_iff.2 ⟨by decide +kernel, by decide +kernel⟩
  have hmodel : Divided "#a # +x: go".toList ["#a".toList, ['#'], "+x".toList] "go".toList :=
    divided_iff.2 ⟨by decide +kernel, by decide +kernel⟩
  refine ⟨?_, ?_, ?_⟩
  · refine (stray_words_refused 1 (assignment?_eq_none_iff.1 (by decide +kernel)) hflag
      (.flag (by decide))).1 fun id flags h => ?_
    cases h.tokens
  · refine (stray_words_refused 2 (assignment?_eq_none_iff.1 (by decide +kernel)) hmark
      (.id (by decide))).1 fun id flags h => ?_
    cases h.tokens
  · refine ((stray_words_refused 3 (assignment?_eq_none_iff.1 (by decide +kernel)) hmodel
      (.id (by decide))).2 ['a'] [['x']] ⟨rfl, by decide, ?_⟩).2.2
    intro name hname
    rw [List.mem_singleton.1 hname]
    decide

/-- A line that is no assignment and holds a bare `#`, and yet is read. -/
theorem read_mark_as_model :
    (∀ name content, ¬ Assignment "#a #".toList name content) ∧
    Divided "#a #".toList ["#a".toList, ['#']] [] ∧
    Header.read 1 "#a #" = .ok { id := some "a", model := some "#" } :=
  ⟨assignment?_eq_none_iff.1 (by decide +kernel),
    divided_iff.2 ⟨by decide +kernel, by decide +kernel⟩, by decide +kernel⟩

end PromptChain.Script
