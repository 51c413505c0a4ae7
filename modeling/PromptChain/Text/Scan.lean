/-
# Scanning for marks

A scan goes through a text from the left.  Where a mark begins it records the mark and passes over
all of it; every other character is recorded as it is.  So marks do not overlap, the leftmost
counts, and what a mark is replaced by later is never looked at.

What a mark looks like is given by a recogniser, which sees the text from one place on, and by the
mark's width.  Writing every piece back gives the text (`written_scan`), provided the recogniser
only reports marks that stand there.
-/
namespace PromptChain.Text

/-- A part of a scanned text: one character, or one mark. -/
inductive Piece (α : Type) where
  | plain (c : Char)
  | mark (what : α)
  deriving DecidableEq, Repr

variable {α : Type}

/-- The pieces of a text; the number says how many characters still belong to the last mark. -/
def scanFrom (at? : List Char → Option α) (width : α → Nat) : Nat → List Char → List (Piece α)
  | _, [] => []
  | passed + 1, _ :: rest => scanFrom at? width passed rest
  | 0, c :: rest =>
    match at? (c :: rest) with
    | some what => .mark what :: scanFrom at? width (width what - 1) rest
    | none => .plain c :: scanFrom at? width 0 rest

/-- The pieces of a text. -/
def scan (at? : List Char → Option α) (width : α → Nat) (cs : List Char) : List (Piece α) :=
  scanFrom at? width 0 cs

/-- The marks among some pieces. -/
def marks (pieces : List (Piece α)) : List α :=
  pieces.filterMap fun
    | .plain _ => none
    | .mark what => some what

/-- Passing over characters is scanning what is left after them. -/
theorem scanFrom_eq_drop (at? : List Char → Option α) (width : α → Nat) (passed : Nat)
    (cs : List Char) : scanFrom at? width passed cs = scan at? width (cs.drop passed) := by
  induction cs generalizing passed with
  | nil => cases passed <;> rfl
  | cons c rest ih =>
    cases passed with
    | zero => rfl
    | succ passed => simpa [scanFrom] using ih passed

/-- A scan at a place where no mark begins. -/
theorem scan_cons_none {at? : List Char → Option α} {width : α → Nat} {c : Char} {rest : List Char}
    (h : at? (c :: rest) = none) :
    scan at? width (c :: rest) = .plain c :: scan at? width rest := by
  simp [scan, scanFrom, h]

/-- A scan at a place where a mark begins. -/
theorem scan_cons_some {at? : List Char → Option α} {width : α → Nat} {c : Char} {rest : List Char}
    {what : α} (h : at? (c :: rest) = some what) :
    scan at? width (c :: rest) = .mark what :: scan at? width (rest.drop (width what - 1)) := by
  rw [← scanFrom_eq_drop]
  simp [scan, scanFrom, h]

/-- A list of pieces as a text, each mark written out. -/
def written (write : α → List Char) (pieces : List (Piece α)) : List Char :=
  pieces.flatMap fun
    | .plain c => [c]
    | .mark what => write what

/-- **A scan loses nothing**: its pieces written out are the text. -/
theorem written_scan {at? : List Char → Option α} {write : α → List Char}
    (stands : ∀ cs what, at? cs = some what → write what ≠ [] ∧ write what <+: cs)
    (cs : List Char) : written write (scan at? (fun a => (write a).length) cs) = cs := by
  induction hn : cs.length using Nat.strongRecOn generalizing cs with
  | _ n ih =>
    cases cs with
    | nil => rfl
    | cons c rest =>
      cases h : at? (c :: rest) with
      | none =>
        rw [scan_cons_none h]
        have := ih rest.length (by simp at hn; omega) rest rfl
        simpa [written] using this
      | some what =>
        obtain ⟨hne, tail, htail⟩ := stands _ _ h
        rw [scan_cons_some h]
        have hdrop : rest.drop ((write what).length - 1) = tail := by
          cases hw : write what with
          | nil => exact absurd hw hne
          | cons d ds =>
            rw [hw] at htail
            simp only [List.cons_append, List.cons.injEq] at htail
            rw [← htail.2]
            simp
        rw [hdrop]
        have hlen : tail.length < n := by
          have hl := congrArg List.length htail
          have hp : 0 < (write what).length := List.length_pos_iff.2 hne
          rw [List.length_append, hn] at hl
          omega
        have := ih tail.length hlen tail rfl
        simp only [written, List.flatMap_cons] at this ⊢
        rw [this, htail]

end PromptChain.Text
