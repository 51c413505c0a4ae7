/-
# What a text becomes

Substitution goes over the pieces of a text from the left.  What comes of it is said here without
any order, of each place of the text alone (`Contributes`): the first place of a placeholder that is
replaced gives the text that this stands for, its other places give nothing, and every other place
keeps its character.  A place contributes one thing at most (`Contributes.unique`), and nothing only
where an output is missing; so the text becomes one thing (`Becomes.unique`), or the first such
place is reported (`FirstLacking`).
-/
import PromptChain.Proofs.Template.Occurrences

namespace PromptChain

open PromptChain.Text PromptChain.Template

/-! ## 1. What a place contributes -/

namespace Context

/-- Whether a placeholder is replaced: that of the input is, and a reference to an allowed id. -/
def Replaces (allowed : List String) : Placeholder → Prop
  | .input => True
  | .output id => id ∈ allowed

/-- The text that a placeholder stands for, if there is one. -/
def standsFor? (c : Context) : Placeholder → Option String
  | .input => some c.input
  | .output id => c.outputs.get? id

/-- Whether a placeholder is a reference to an allowed id that has no output. -/
def Lacks (c : Context) (allowed : List String) (p : Placeholder) : Prop :=
  ∃ id ∈ allowed, p = .output id ∧ c.outputs.get? id = none

/-- What a place of a text contributes to what the text becomes. -/
inductive Contributes (c : Context) (allowed : List String) (cs : List Char) (place : Nat) :
    List Char → Prop where
  /-- Where a placeholder that is replaced begins, the text that it stands for. -/
  | replaced {p : Placeholder} {text : String} (hstands : (Occurrence.mk p place).StandsIn cs)
      (hreplaces : Replaces allowed p) (htext : c.standsFor? p = some text) :
      Contributes c allowed cs place text.toList
  /-- At the other places of such a placeholder, nothing. -/
  | passed {o : Occurrence} (hstands : o.StandsIn cs) (hreplaces : Replaces allowed o.placeholder)
      (hstart : o.start < place) (hstop : place < o.stop) : Contributes c allowed cs place []
  /-- At a place of no such placeholder, the character that is there. -/
  | kept {ch : Char} (hchar : cs[place]? = some ch)
      (hnone : ∀ o : Occurrence, o.StandsIn cs → Replaces allowed o.placeholder →
        o.start ≤ place → o.stop ≤ place) : Contributes c allowed cs place [ch]

/-- Whether a text is what the places of another contribute, in their order, from one place on. -/
inductive Becomes (c : Context) (allowed : List String) (cs : List Char) :
    Nat → List Char → Prop where
  | done : Becomes c allowed cs cs.length []
  | place {k : Nat} {part out : List Char} (hpart : Contributes c allowed cs k part)
      (more : Becomes c allowed cs (k + 1) out) : Becomes c allowed cs k (part ++ out)

/-- Whether a reference is the first one in a text that lacks its output. -/
structure FirstLacking (c : Context) (allowed : List String) (cs : List Char) (id : String)
    (place : Nat) : Prop where
  stands : (Occurrence.mk (.output id) place).StandsIn cs
  lacks : c.Lacks allowed (.output id)
  first : ∀ o : Occurrence, o.StandsIn cs → c.Lacks allowed o.placeholder → place ≤ o.start

section Places

variable {c : Context} {allowed : List String} {cs part part' out out' : List Char}
  {start place : Nat} {o : Occurrence} {p : Placeholder}

theorem Lacks.replaces (h : c.Lacks allowed p) : Replaces allowed p := by
  obtain ⟨id, hid, rfl, -⟩ := h
  exact hid

theorem Lacks.standsFor? (h : c.Lacks allowed p) : c.standsFor? p = none := by
  obtain ⟨id, -, rfl, hnone⟩ := h
  exact hnone

theorem Contributes.lt_length (h : Contributes c allowed cs place part) : place < cs.length := by
  cases h with
  | @replaced p _ hstands hreplaces htext =>
    exact Nat.lt_of_lt_of_le (Occurrence.mk p place).start_lt_stop hstands.stop_le
  | passed hstands hreplaces hstart hstop => exact Nat.lt_of_lt_of_le hstop hstands.stop_le
  | kept hchar hnone => exact (List.getElem?_eq_some_iff.1 hchar).1

/-- A place where a placeholder that is replaced begins contributes what that stands for. -/
theorem Contributes.of_start (h : Contributes c allowed cs o.start part) (ho : o.StandsIn cs)
    (hreplaces : Replaces allowed o.placeholder) :
    ∃ text, c.standsFor? o.placeholder = some text ∧ part = text.toList := by
  cases h with
  | replaced hstands _ htext =>
    rw [ho.eq_of_start_eq hstands rfl]
    exact ⟨_, htext, rfl⟩
  | passed hstands _ hstart hstop =>
    exact absurd (hstands.not_inside ho hstart) (Nat.not_le.2 hstop)
  | kept hchar hnone =>
    exact absurd (hnone o ho hreplaces (Nat.le_refl _)) (Nat.not_le.2 o.start_lt_stop)

/-- **A place contributes one thing.** -/
theorem Contributes.unique (h : Contributes c allowed cs place part)
    (h' : Contributes c allowed cs place part') : part = part' := by
  cases h with
  | replaced hstands hreplaces htext =>
    obtain ⟨text, htext', rfl⟩ := h'.of_start hstands hreplaces
    rw [htext, Option.some.injEq] at htext'
    rw [htext']
  | passed hstands hreplaces hstart hstop =>
    cases h' with
    | replaced hstands' =>
      exact absurd (hstands.not_inside hstands' hstart) (Nat.not_le.2 hstop)
    | passed => rfl
    | kept _ hnone =>
      exact absurd (hnone _ hstands hreplaces (Nat.le_of_lt hstart)) (Nat.not_le.2 hstop)
  | kept hchar hnone =>
    cases h' with
    | @replaced p _ hstands hreplaces =>
      exact absurd (hnone _ hstands hreplaces (Nat.le_refl _))
        (Nat.not_le.2 (Occurrence.mk p place).start_lt_stop)
    | passed hstands hreplaces hstart hstop =>
      exact absurd (hnone _ hstands hreplaces (Nat.le_of_lt hstart)) (Nat.not_le.2 hstop)
    | kept hchar' =>
      rw [hchar, Option.some.injEq] at hchar'
      rw [hchar']

/-- **A text becomes one thing.** -/
theorem Becomes.unique (h : Becomes c allowed cs place out) (h' : Becomes c allowed cs place out') :
    out = out' := by
  induction h generalizing out' with
  | done =>
    cases h' with
    | done => rfl
    | place hpart => exact absurd hpart.lt_length (Nat.lt_irrefl _)
  | place hpart more ih =>
    cases h' with
    | done => exact absurd hpart.lt_length (Nat.lt_irrefl _)
    | place hpart' more' => rw [hpart.unique hpart', ih more']

/-- In a text that becomes something, every place contributes. -/
theorem Becomes.exists_contributes (h : Becomes c allowed cs start out) (hstart : start ≤ place)
    (hplace : place < cs.length) : ∃ part, Contributes c allowed cs place part := by
  induction h with
  | done => exact absurd hstart (Nat.not_le.2 hplace)
  | place hpart more ih =>
    rcases Nat.eq_or_lt_of_le hstart with rfl | hlt
    · exact ⟨_, hpart⟩
    · exact ih hlt

/-- In a text that becomes something, no output is lacking. -/
theorem Becomes.not_lacks (h : Becomes c allowed cs 0 out) (ho : o.StandsIn cs) :
    ¬ c.Lacks allowed o.placeholder := by
  intro hlacks
  have hlt := Nat.lt_of_lt_of_le o.start_lt_stop ho.stop_le
  obtain ⟨part, hpart⟩ := h.exists_contributes (Nat.zero_le _) hlt
  obtain ⟨text, htext, -⟩ := hpart.of_start ho hlacks.replaces
  rw [hlacks.standsFor?] at htext
  cases htext

/-- The places of a placeholder after its first become nothing. -/
theorem Becomes.passed (ho : o.StandsIn cs) (hreplaces : Replaces allowed o.placeholder)
    (hstart : o.start < start) {count : Nat} (hstop : start + count = o.stop)
    (h : Becomes c allowed cs (start + count) out) : Becomes c allowed cs start out := by
  induction count generalizing start with
  | zero => exact h
  | succ count ih =>
    have hnext : start + 1 + count = o.stop := by omega
    have hnothing : Contributes c allowed cs start [] := .passed ho hreplaces hstart (by omega)
    refine .place hnothing (ih (Nat.lt_succ_of_lt hstart) hnext ?_)
    rwa [Nat.add_assoc, Nat.add_comm 1]

/-- The places of a placeholder that is replaced become the text that it stands for. -/
theorem Becomes.replaced {text : String} (ho : o.StandsIn cs)
    (hreplaces : Replaces allowed o.placeholder) (htext : c.standsFor? o.placeholder = some text)
    (h : Becomes c allowed cs o.stop out) : Becomes c allowed cs o.start (text.toList ++ out) := by
  have hstop : o.start + 1 + (o.placeholder.width - 1) = o.stop := by
    have hpos := o.placeholder.width_pos
    rw [Occurrence.stop]
    omega
  refine .place (.replaced ho hreplaces htext) ?_
  exact .passed ho hreplaces (Nat.lt_succ_self _) hstop (hstop ▸ h)

/-- Places that keep their characters become these. -/
theorem Becomes.kept {word : List Char} (hword : word <+: cs.drop start)
    (hkept : ∀ place, start ≤ place → place < start + word.length →
      ∀ ch, cs[place]? = some ch → Contributes c allowed cs place [ch])
    (h : Becomes c allowed cs (start + word.length) out) :
    Becomes c allowed cs start (word ++ out) := by
  induction word generalizing start with
  | nil => exact h
  | cons ch word ih =>
    obtain ⟨after, hafter⟩ := hword
    have hchar : cs[start]? = some ch := by
      rw [← List.head?_drop, ← hafter]
      rfl
    have hrest : word <+: cs.drop (start + 1) := by
      rw [← List.tail_drop, ← hafter]
      exact ⟨after, rfl⟩
    rw [List.length_cons] at h hkept
    have hfirst := hkept start (Nat.le_refl _) (by omega) ch hchar
    show Becomes c allowed cs start ([ch] ++ (word ++ out))
    refine .place hfirst (ih hrest (fun place hle hlt => hkept place (by omega) (by omega)) ?_)
    rwa [Nat.add_assoc, Nat.add_comm 1]

end Places

/-! ## 2. Filling -/

section Filling

variable {c : Context} {allowed : List String} {cs out : List Char} {start place : Nat}
  {ps : List (Piece Placeholder)} {p : Placeholder} {id template text : String}

theorem value_eq_error_iff :
    c.value allowed p = .error id ↔ p = .output id ∧ c.Lacks allowed p := by
  cases p with
  | input => simp [value, Lacks]
  | output key =>
    simp only [value, Lacks, Placeholder.output.injEq]
    by_cases hkey : key ∈ allowed
    · cases hget : c.outputs.get? key with
      | none =>
        simp only [hkey, if_true, Except.error.injEq]
        exact (and_iff_left ⟨key, hkey, rfl, hget⟩).symm
      | some text =>
        simp only [hkey, if_true]
        refine iff_of_false (by simp) ?_
        rintro ⟨-, id, -, rfl, hnone⟩
        rw [hget] at hnone
        cases hnone
    · simp only [hkey, if_false]
      refine iff_of_false (by simp) ?_
      rintro ⟨-, id, hid, rfl, -⟩
      exact absurd hid hkey

/-- A placeholder becomes the text that it stands for when it is replaced, and stays as it is when
it is not. -/
theorem value_eq_ok (h : c.value allowed p = .ok out) :
    (Replaces allowed p ∧ ∃ text, c.standsFor? p = some text ∧ out = text.toList) ∨
      ¬ Replaces allowed p ∧ out = p.written := by
  cases p with
  | input =>
    cases h
    exact .inl ⟨trivial, _, rfl, rfl⟩
  | output key =>
    by_cases hkey : key ∈ allowed
    · cases hget : c.outputs.get? key with
      | none => simp [value, hkey, hget] at h
      | some text =>
        simp only [value, hkey, hget, if_true, Except.ok.injEq] at h
        exact .inl ⟨hkey, text, hget, h.symm⟩
    · simp only [value, hkey, if_false, Except.ok.injEq] at h
      exact .inr ⟨hkey, h.symm⟩

/-- **Filling fails at the first reference that lacks its output.** -/
theorem fill_eq_error_iff (h : Cuts cs start ps)
    (hbefore : ∀ o : Occurrence, o.StandsIn cs → o.start < start →
      ¬ c.Lacks allowed o.placeholder) :
    c.fill allowed start ps = .error (id, place) ↔ c.FirstLacking allowed cs id place := by
  induction h with
  | done =>
    refine iff_of_false (by simp [fill]) fun hfirst => hbefore _ hfirst.stands ?_ hfirst.lacks
    exact Nat.lt_of_lt_of_le (Occurrence.start_lt_stop _) hfirst.stands.stop_le
  | @plain start ch ps hchar hnone more ih =>
    have hnext := ih fun o ho hlt => hbefore o ho
      (Nat.lt_of_le_of_ne (Nat.le_of_lt_succ hlt) (hnone o ho))
    rw [← hnext, fill]
    cases c.fill allowed (start + 1) ps with
    | ok text => simp
    | error fault => exact Iff.rfl
  | @mark start p ps hstands more ih =>
    rw [fill]
    cases hvalue : c.value allowed p with
    | error key =>
      obtain ⟨rfl, hlacks⟩ := value_eq_error_iff.1 hvalue
      constructor
      · rintro ⟨⟩
        exact ⟨hstands, hlacks, fun o ho hlacks' =>
          Nat.le_of_not_lt fun hlt => hbefore o ho hlt hlacks'⟩
      · rintro ⟨hstands', hlacks', hfirst⟩
        have hle := hfirst _ hstands hlacks
        obtain heq | hlt := hstands.eq_or_before hstands'
          (Nat.lt_of_le_of_lt hle (Occurrence.start_lt_stop _))
        · cases heq
          rfl
        · exact absurd hlacks' (hbefore _ hstands' hlt)
    | ok text =>
      have hhas : ¬ c.Lacks allowed p := by
        rintro ⟨key, hkey, rfl, hnone⟩
        rw [value_eq_error_iff.2 ⟨rfl, key, hkey, rfl, hnone⟩] at hvalue
        cases hvalue
      rw [← ih fun o ho hlt => ?_]
      · cases hmore : c.fill allowed (start + p.width) ps with
        | ok more => simp
        | error fault => exact Iff.rfl
      · obtain rfl | hlt := hstands.eq_or_before ho hlt
        · exact hhas
        · exact hbefore o ho hlt

/-- **Filling gives what the places of the text contribute.** -/
theorem Becomes.of_fill (h : Cuts cs start ps)
    (hbefore : ∀ o : Occurrence, o.StandsIn cs → o.start < start → o.stop ≤ start)
    (hfill : c.fill allowed start ps = .ok out) : Becomes c allowed cs start out := by
  induction h generalizing out with
  | done =>
    cases hfill
    exact .done
  | @plain start ch ps hchar hnone more ih =>
    have hbefore' : ∀ o : Occurrence, o.StandsIn cs → o.start ≤ start → o.stop ≤ start :=
      fun o ho hle => hbefore o ho (Nat.lt_of_le_of_ne hle (hnone o ho))
    rw [fill] at hfill
    split at hfill
    · rename_i text hrest
      cases hfill
      have hkept : Contributes c allowed cs start [ch] :=
        .kept hchar fun o ho _ hle => hbefore' o ho hle
      refine .place hkept (ih ?_ hrest)
      exact fun o ho hlt => Nat.le_succ_of_le (hbefore' o ho (Nat.le_of_lt_succ hlt))
    · cases hfill
  | @mark start p ps hstands more ih =>
    have hbefore' : ∀ o : Occurrence, o.StandsIn cs → o.start < start + p.width →
        o = ⟨p, start⟩ ∨ o.stop ≤ start := fun o ho hlt =>
      (hstands.eq_or_before ho hlt).imp_right (hbefore o ho)
    have hnext : ∀ o : Occurrence, o.StandsIn cs → o.start < start + p.width →
        o.stop ≤ start + p.width := by
      intro o ho hlt
      obtain rfl | hle := hbefore' o ho hlt
      · exact Nat.le_refl _
      · exact Nat.le_add_right_of_le hle
    rw [fill] at hfill
    split at hfill
    · cases hfill
    rename_i text hvalue
    split at hfill
    · rename_i rest hrest
      cases hfill
      have hmore := ih hnext hrest
      rcases value_eq_ok hvalue with ⟨hreplaces, value, htext, rfl⟩ | ⟨hstays, rfl⟩
      · exact .replaced hstands hreplaces htext hmore
      · have hword : p.written <+: cs.drop start :=
          (Placeholder.at?_eq_some_iff.1 (standsIn_iff.1 hstands)).1
        refine .kept hword (fun place hle hlt ch hchar => ?_) hmore
        refine .kept hchar fun o ho hreplaces hplace => ?_
        obtain rfl | hstop := hbefore' o ho (Nat.lt_of_le_of_lt hplace hlt)
        · exact absurd hreplaces hstays
        · exact Nat.le_trans hstop hle
    · cases hfill

/-- A text cannot be resolved exactly when some reference lacks its output; the first does. -/
theorem resolve_eq_error_iff {e : TemplateError} :
    c.resolve template allowed = .error e ↔ ∃ id place, e = .noOutput id template place ∧
      c.FirstLacking allowed template.toList id place := by
  have hfill : ∀ id place, c.fill allowed 0 (pieces template) = .error (id, place) ↔
      c.FirstLacking allowed template.toList id place := fun id place =>
    fill_eq_error_iff (cuts_pieces template) fun o _ hlt => absurd hlt (Nat.not_lt_zero _)
  simp only [← hfill, resolve]
  cases c.fill allowed 0 (pieces template) with
  | ok text => simp
  | error fault =>
    obtain ⟨id, place⟩ := fault
    simp [eq_comm]

/-- A text is resolved exactly to what its places contribute. -/
theorem resolve_eq_ok_iff :
    c.resolve template allowed = .ok text ↔ c.Becomes allowed template.toList 0 text.toList := by
  have hresolve : ∀ {text}, c.resolve template allowed = .ok text →
      c.Becomes allowed template.toList 0 text.toList := by
    intro text h
    rw [resolve] at h
    split at h
    · rename_i out hfill
      cases h
      rw [String.toList_ofList]
      exact .of_fill (cuts_pieces template) (fun o _ hlt => absurd hlt (Nat.not_lt_zero _)) hfill
    · cases h
  refine ⟨hresolve, fun h => ?_⟩
  cases hother : c.resolve template allowed with
  | ok other => rw [String.toList_inj.1 ((hresolve hother).unique h)]
  | error e =>
    obtain ⟨id, place, -, hfirst⟩ := resolve_eq_error_iff.1 hother
    exact absurd hfirst.lacks (h.not_lacks hfirst.stands)

end Filling

/-- **Substitution is simultaneous and exact.**  The occurrences of a text are the placeholders that
stand in it, from left to right, and no two of these overlap.  A text cannot be resolved exactly
when a reference to an allowed id lacks its output, and the fault is at the first such reference.
Otherwise it becomes what its places contribute, each on its own: so whatever the values are,
nothing in them is replaced. -/
theorem placeholders_replaced_at_once (c : Context) (template : String) (allowed : List String) :
    (∀ o, o ∈ occurrences template ↔ o.StandsIn template.toList) ∧
    (occurrences template).Pairwise (fun o o' => o.start < o'.start) ∧
    (∀ o o' : Occurrence, o.StandsIn template.toList → o'.StandsIn template.toList →
      o = o' ∨ o.stop ≤ o'.start ∨ o'.stop ≤ o.start) ∧
    ((∃ e, c.resolve template allowed = .error e) ↔
      ∃ o : Occurrence, o.StandsIn template.toList ∧ c.Lacks allowed o.placeholder) ∧
    (∀ e, c.resolve template allowed = .error e ↔ ∃ id place, e = .noOutput id template place ∧
      c.FirstLacking allowed template.toList id place) ∧
    ∀ text, c.resolve template allowed = .ok text ↔
      c.Becomes allowed template.toList 0 text.toList := by
  refine ⟨fun o => mem_occurrences_iff, occurrences_pairwise template,
    fun o o' ho ho' => ho.apart ho', ⟨?_, ?_⟩, fun e => resolve_eq_error_iff,
    fun text => resolve_eq_ok_iff⟩
  · rintro ⟨e, he⟩
    obtain ⟨id, place, -, hfirst⟩ := resolve_eq_error_iff.1 he
    exact ⟨_, hfirst.stands, hfirst.lacks⟩
  · rintro ⟨o, ho, hlacks⟩
    cases hresolve : c.resolve template allowed with
    | ok text => exact absurd hlacks ((resolve_eq_ok_iff.1 hresolve).not_lacks ho)
    | error e => exact ⟨e, rfl⟩

/-- A reference stands between further braces; with its output they write out the placeholder of the
input, and that is not replaced again. -/
theorem placeholders_replaced_at_once_nested :
    let c : Context := ⟨⟨[("a", "INPUT")]⟩, "rain"⟩
    let template := "\x7b\x7b\x7b\x7b#a\x7d\x7d\x7d\x7d, \x7b\x7bINPUT\x7d\x7d"
    occurrences template = [⟨.output "a", 2⟩, ⟨.input, 12⟩] ∧
      c.resolve template ["a"] = .ok "\x7b\x7bINPUT\x7d\x7d, rain" ∧
      c.Becomes ["a"] template.toList 0 "\x7b\x7bINPUT\x7d\x7d, rain".toList := by
  intro c template
  have hresolve : c.resolve template ["a"] = .ok "\x7b\x7bINPUT\x7d\x7d, rain" := by
    decide +kernel
  have hexact := placeholders_replaced_at_once c template ["a"]
  exact ⟨by decide +kernel, hresolve, (hexact.2.2.2.2.2 _).1 hresolve⟩

end Context
end PromptChain
