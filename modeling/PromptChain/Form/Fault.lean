/-
# Faults of a form

A form is a list of named raw values from which a record is built: the fields of a node, the
settings of a run, the body of a request.  Its fields are checked one by one, in the order of the
record, and every field that fails leaves one fault, so a reader learns of all of them at once.

A fault says where it is (the names and positions that lead to the value) and what is wrong;
`Problem.code` is its short name and `Problem.message` the sentence for it.  `Checked.ap` is the
rule that collects: a record with two faulty fields has both faults, in the order of its fields
(`ap_error_error`).
-/
namespace PromptChain.Form

/-! ## 1. Problems -/

/-- What can be wrong with one value. -/
inductive Problem where
  | missing
  | notText
  | tornText
  | tooShort (least : Nat)
  | tooLong (most : Nat)
  | notOneOf (first second : String)
  | notList
  | belowBound (bound : Nat)
  | rule (statement : String)
  | notBool
  | unclearBool
  | notNumber
  | unclearNumber
  | notInteger
  | unclearInteger
  | tooLarge
  | fractional
  | notFinite
  | notObject
  | notSettings
  | notAllowed
  | notJson
  deriving DecidableEq, Repr

namespace Problem

/-- The short name of a problem. -/
def code : Problem → String
  | missing => "missing"
  | notText => "string_type"
  | tornText => "string_unicode"
  | tooShort _ => "string_too_short"
  | tooLong _ => "string_too_long"
  | notOneOf _ _ => "enum"
  | notList => "list_type"
  | belowBound _ => "greater_than_equal"
  | rule _ => "value_error"
  | notBool => "bool_type"
  | unclearBool => "bool_parsing"
  | notNumber => "float_type"
  | unclearNumber => "float_parsing"
  | notInteger => "int_type"
  | unclearInteger => "int_parsing"
  | tooLarge => "int_parsing_size"
  | fractional => "int_from_float"
  | notFinite => "finite_number"
  | notObject => "model_attributes_type"
  | notSettings => "model_type"
  | notAllowed => "extra_forbidden"
  | notJson => "json_invalid"

/-- A number of characters in words. -/
def characters (n : Nat) : String :=
  toString n ++ if n = 1 then " character" else " characters"

/-- The sentence for a problem. -/
def message : Problem → String
  | missing => "Field required"
  | notText => "Input should be a valid string"
  | tornText =>
    "Input should be a valid string, unable to parse raw data as a unicode string"
  | tooShort least => "String should have at least " ++ characters least
  | tooLong most => "String should have at most " ++ characters most
  | notOneOf first second => "Input should be '" ++ first ++ "' or '" ++ second ++ "'"
  | notList => "Input should be a valid list"
  | belowBound bound => "Input should be greater than or equal to " ++ toString bound
  | rule statement => "Value error, " ++ statement
  | notBool => "Input should be a valid boolean"
  | unclearBool => "Input should be a valid boolean, unable to interpret input"
  | notNumber => "Input should be a valid number"
  | unclearNumber => "Input should be a valid number, unable to parse string as a number"
  | notInteger => "Input should be a valid integer"
  | unclearInteger => "Input should be a valid integer, unable to parse string as an integer"
  | tooLarge => "Unable to parse input string as an integer, exceeded maximum size"
  | fractional => "Input should be a valid integer, got a number with a fractional part"
  | notFinite => "Input should be a finite number"
  | notObject => "Input should be a valid dictionary or object to extract fields from"
  | notSettings => "Input should be a valid dictionary or instance of WorkflowSettings"
  | notAllowed => "Extra inputs are not permitted"
  | notJson => "JSON decode error"

end Problem

/-- A problem and the way to the value that has it. -/
structure Fault where
  place : List String
  problem : Problem
  deriving DecidableEq, Repr

/-! ## 2. Collecting faults -/

/-- A value, or every fault that was found on the way to it. -/
abbrev Checked (α : Type) := Except (List Fault) α

namespace Checked

variable {α β : Type}

/-- A single problem with the value itself. -/
def fail (problem : Problem) : Checked α := .error [⟨[], problem⟩]

/-- The faults of a part, as faults of the whole that has it under a name. -/
def under (name : String) : Checked α → Checked α
  | .ok a => .ok a
  | .error faults => .error (faults.map fun f => { f with place := name :: f.place })

/-- A value with further faults to be looked at. -/
def alsoFaults (more : List Fault) : Checked α → Checked α
  | .ok a => if more.isEmpty then .ok a else .error more
  | .error faults => .error (faults ++ more)

/-- Gives a checked argument to a checked function and keeps the faults of both. -/
def ap : Checked (α → β) → Checked α → Checked β
  | .ok f, .ok a => .ok (f a)
  | .ok _, .error faults => .error faults
  | .error faults, .ok _ => .error faults
  | .error faults, .error more => .error (faults ++ more)

@[simp] theorem ap_ok_ok (f : α → β) (a : α) : ap (.ok f) (.ok a) = .ok (f a) := rfl

/-- **No fault is lost.** -/
theorem ap_error_error (faults more : List Fault) :
    ap (.error faults : Checked (α → β)) (.error more) = .error (faults ++ more) := rfl

/-- A value comes out exactly when both parts are good. -/
theorem ap_eq_ok_iff {f : Checked (α → β)} {a : Checked α} {b : β} :
    ap f a = .ok b ↔ ∃ g x, f = .ok g ∧ a = .ok x ∧ g x = b := by
  cases f <;> cases a <;> simp [ap]

end Checked
end PromptChain.Form
