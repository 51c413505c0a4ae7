/-
# How a run is scheduled

A run calls its models one after the other or all of a round at once, can wait before a call, rests
after every round, and puts up with a number of rounds in which nothing can run.
-/
import PromptChain.Form.Field

namespace PromptChain

/-- How a run is scheduled; durations are in seconds. -/
structure RunConfig where
  /-- One call at a time within a round. -/
  sequential : Bool := true
  /-- The wait before a call. -/
  delay : Float := 0.0
  /-- The rest after a round. -/
  pause : Float := 0.05
  /-- The rounds without anything to run that are put up with. -/
  grace : Nat := 5

namespace RunConfig

open PromptChain.Form

/-- Reads a run's schedule from named raw values; what is not there has its value from
`defaults`. -/
def ofFieldsOr (defaults : RunConfig) (fields : Fields) : Checked RunConfig :=
  let ok : Checked _ := .ok RunConfig.mk
  let ok := Checked.ap ok (field fields "sequential_requests" (some defaults.sequential) truth)
  let ok := Checked.ap ok (field fields "request_delay" (some defaults.delay) duration)
  let ok := Checked.ap ok (field fields "round_pause" (some defaults.pause) duration)
  Checked.ap ok (field fields "deadlock_grace_ticks" (some defaults.grace) (natFrom 0))

/-- Reads a run's schedule from named raw values. -/
def ofFields (fields : Fields) : Checked RunConfig := ofFieldsOr {} fields

end RunConfig
end PromptChain
