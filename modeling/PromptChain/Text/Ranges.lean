/-
# Character classes as sorted ranges

A character class is a list of closed ranges of code points in increasing order.  Looking a
character up walks the list and stops at the first range that begins beyond it, so a character
of the first ranges (all of ASCII, in practice) is decided after a few steps however long the
table is.

The statement to know: on a table in increasing order the early stop loses nothing
(`covers_eq_any`).
-/
namespace PromptChain.Text

/-- Closed ranges of code points, first and last, in increasing order. -/
abbrev Ranges := List (Nat × Nat)

namespace Ranges

/-- Whether a code point lies in one of the ranges. -/
def covers : Ranges → Nat → Bool
  | [], _ => false
  | (first, last) :: rest, n => if n < first then false else n ≤ last || covers rest n

/-- Whether a character lies in one of the ranges. -/
def has (table : Ranges) (c : Char) : Bool := table.covers c.toNat

/-- A later range begins after an earlier one. -/
def Increasing (table : Ranges) : Prop := table.Pairwise fun r s => r.1 ≤ s.1

/-- **The early stop loses nothing**: on an increasing table `covers` is plain membership. -/
theorem covers_eq_any {table : Ranges} (h : Increasing table) (n : Nat) :
    table.covers n = table.any fun r => decide (r.1 ≤ n) && decide (n ≤ r.2) := by
  induction table with
  | nil => rfl
  | cons r rest ih =>
    obtain ⟨first, last⟩ := r
    obtain ⟨hr, hrest⟩ := List.pairwise_cons.1 h
    by_cases hn : n < first
    · have hlater : rest.any (fun s => decide (s.1 ≤ n) && decide (n ≤ s.2)) = false := by
        refine List.any_eq_false.2 fun s hs => ?_
        have hle := hr s hs
        simp only [Bool.and_eq_true, decide_eq_true_eq, not_and]
        intro hs1
        simp only at hle
        omega
      simp only [covers, hn, if_true, List.any_cons, hlater]
      simp [Nat.not_le.2 hn]
    · have hle : first ≤ n := Nat.not_lt.1 hn
      simp [covers, hn, ih hrest, hle]

/-- A code point that is covered lies in a range. -/
theorem exists_of_covers {table : Ranges} {n : Nat} (h : table.covers n = true) :
    ∃ r ∈ table, r.1 ≤ n ∧ n ≤ r.2 := by
  induction table with
  | nil => cases h
  | cons r rest ih =>
    obtain ⟨first, last⟩ := r
    simp only [covers] at h
    split at h
    · cases h
    · rename_i hle
      rcases Bool.or_eq_true_iff.1 h with hlast | hrest
      · exact ⟨(first, last), List.mem_cons_self, Nat.le_of_not_lt hle, of_decide_eq_true hlast⟩
      · obtain ⟨r, hr, hin⟩ := ih hrest
        exact ⟨r, List.mem_cons_of_mem _ hr, hin⟩

/-- Whether no range of a table meets one of another. -/
def apart (a b : Ranges) : Bool := a.all fun r => b.all fun s => decide (r.2 < s.1 ∨ s.2 < r.1)

/-- What one of two tables that are apart covers, the other does not. -/
theorem not_covers_of_apart {a b : Ranges} (h : a.apart b = true) {n : Nat}
    (hn : a.covers n = true) : b.covers n = false := by
  rw [Bool.eq_false_iff]
  intro hn'
  obtain ⟨r, hr, hr1, hr2⟩ := exists_of_covers hn
  obtain ⟨s, hs, hs1, hs2⟩ := exists_of_covers hn'
  have hapart := of_decide_eq_true (List.all_eq_true.1 (List.all_eq_true.1 h r hr) s hs)
  omega

end Ranges
end PromptChain.Text
