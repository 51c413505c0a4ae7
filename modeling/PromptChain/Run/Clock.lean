/-
# The clock of a run

The clock of a run moves only when nothing can go on, and then straight to the earliest moment that
something waits for.  Everything due at that moment wakes, in the order in which it fell asleep;
moments less than a nanosecond apart count as one.

A run may have a limit.  When the limit is due at the moment the clock moves to, the run is
cancelled there: what sleeps never wakes, and every node stays where it is.  A run that never has
to wait is not cancelled.

The sleeper whose moment the clock moves to always wakes (`isDue_self`), whatever the arithmetic of
the clock does, so a run cannot be suspended for ever.
-/
import PromptChain.Run.Flow

namespace PromptChain

namespace RunState

/-- Moments that are no further apart count as one. -/
def tolerance : Float := 1e-9

/-- The earlier of two moments. -/
def earlier (t u : Float) : Float := if u < t then u else t

/-- The earliest moment that some sleepers wait for, none when nobody sleeps. -/
def earliest : List Sleeper → Option Float
  | [] => none
  | z :: rest =>
    match earliest rest with
    | none => some z.due
    | some t => some (earlier z.due t)

/-- The moment that a suspended run waits for. -/
def nextMoment (st : RunState) : Option Float :=
  match st.waiting with
  | .calls asleep _ => earliest asleep
  | .rest due => some due
  | .ended _ => none

/-- Whether a moment is due when the clock moves to another. -/
def isDueAt (moment due : Float) : Bool :=
  decide (due ≤ moment + tolerance) || due.toBits == moment.toBits

/-- **What the clock moves to is due.** -/
theorem isDueAt_self (moment : Float) : isDueAt moment moment = true := by simp [isDueAt]

/-- The earliest moment is one that a sleeper waits for. -/
theorem exists_due_of_earliest {asleep : List Sleeper} {t : Float} (h : earliest asleep = some t) :
    ∃ z ∈ asleep, z.due = t := by
  induction asleep generalizing t with
  | nil => simp [earliest] at h
  | cons z rest ih =>
    simp only [earliest] at h
    split at h
    · exact ⟨z, List.mem_cons_self, by simpa using h⟩
    · rename_i u hu
      simp only [Option.some.injEq, earlier] at h
      split at h
      · obtain ⟨y, hy, hdue⟩ := ih hu
        exact ⟨y, List.mem_cons_of_mem _ hy, hdue.trans h⟩
      · exact ⟨z, List.mem_cons_self, h⟩

/-- Leads a run on to its next suspension at the moment it waits for. -/
def tick (s : Setup) (moment : Float) (st : RunState) : RunState :=
  st.resume s (fun z => isDueAt moment z.due) moment

/-- Where a run ended: it came to its own end, or it was cancelled at its limit. -/
structure Ending where
  state : RunState
  cancelled : Bool

/-- Leads a run on until it is over or cancelled, for as many suspensions as the first argument
allows. -/
def driveFor (s : Setup) (limit : Option Float) : Nat → RunState → Ending
  | 0, st => ⟨st, false⟩
  | fuel + 1, st =>
    match st.nextMoment with
    | none => ⟨st, false⟩
    | some moment =>
      match limit with
      | none => driveFor s limit fuel (st.tick s moment)
      | some limit =>
        if isDueAt moment limit then
          ⟨{ st with execution := { st.execution with now := earlier moment limit } }, true⟩
        else driveFor s (some limit) fuel (st.tick s moment)

/-- A bound on the suspensions of a run.  Every node does at most four steps, every round ends with
a rest, and after the last of them there are no more idle ones than the run puts up with, and
one. -/
def suspensions (s : Setup) : Nat := (s.nodes.length + 1) * (s.config.grace + 8)

/-- Leads a run from its start to its end. -/
def drive (s : Setup) (limit : Option Float) : Ending :=
  driveFor s limit (suspensions s) (start s)

end RunState
end PromptChain
