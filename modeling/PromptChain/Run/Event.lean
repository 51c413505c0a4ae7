/-
# Progress

While a chain runs it tells a listener what happens: that a node is being resolved, waits, calls
its model, is completed or has failed.  A listener may itself fail; what it answers is not looked
at, so it can watch a run but not change it.
-/
import PromptChain.Text.Seconds

namespace PromptChain

/-- Something that happens to a node. -/
inductive Event where
  | resolving (id : String)
  | waiting (seconds : Float) (id : String)
  | running (id model : String)
  | completed (id : String)
  | failed (id reason : String)

namespace Event

/-- The status line of an event. -/
def text : Event → String
  | resolving id => "Resolving: " ++ id
  | waiting seconds id => "Waiting " ++ Text.seconds seconds ++ "s before " ++ id
  | running id model => "Running: " ++ id ++ " (" ++ model ++ ")"
  | completed id => "Completed: " ++ id
  | failed id reason => "Failed: " ++ id ++ " - " ++ reason

/-- The node of an event. -/
def node : Event → String
  | resolving id => id
  | waiting _ id => id
  | running id _ => id
  | completed id => id
  | failed id _ => id

end Event

/-- Hears events; it is given the earlier ones and the new one, and may fail with a reason. -/
abbrev Listener := List Event → Event → Except String Unit

end PromptChain
