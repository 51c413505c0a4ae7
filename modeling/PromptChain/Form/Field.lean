/-
# Reading the fields of a form

A reader takes a raw value to a value of a type, or to its faults.  The readers here are lenient
where a value of another type has one obvious meaning: a text may write a number or a truth
value, a number without a fraction is an integer, zero and one are truth values.  Nothing but a
text is a text, and it must not be torn: a torn text writes nothing else either.

Values that do not fit a machine word are not converted: a floating-point number is an integer or a
truth value only within a word, an integer beyond it is no truth value.  An integer that no
floating-point number comes near is no number.

`field` looks a name up and reads what it finds; a name that is not there takes the field's
default, and is a fault when there is none.
-/
import PromptChain.Form.Fault
import PromptChain.Form.Numeral
import PromptChain.Text.Seconds

namespace PromptChain.Form

/-- The named raw values that a record is built from. -/
abbrev Fields := List (String × Json)

/-- Takes a raw value to a value of a type. -/
abbrev Reader (α : Type) := Json → Checked α

/-! ## 1. Readers for one value -/

/-- A result, or one problem in its place. -/
def orFail {α : Type} (problem : Problem) : Option α → Checked α
  | some a => .ok a
  | none => .fail problem

/-- Reads a text. -/
def text : Reader String
  | .str s => .ok s
  | .torn => .fail .tornText
  | _ => .fail .notText

/-- The integer that a floating-point number is, when it has no fraction. -/
def exactInt? (x : Float) : Option Int :=
  let (num, den) := Text.magnitude x
  if num % den = 0 then some (if x < 0 then -((num / den : Nat) : Int) else (num / den : Nat))
  else none

/-- The bound of a machine word: the least integer that is above every signed one of 64 bits. -/
def wordBound : Int := Int.ofNat (Nat.pow 2 63)

/-- Whether an integer is a signed one of 64 bits. -/
def isWord (n : Int) : Bool := -wordBound ≤ n && n < wordBound

/-- Reads an integer from a floating-point number, which has to lie strictly between the bounds of a
word. -/
def integerOfFloat (x : Float) : Checked Int :=
  if x.isNaN || x.isInf then .fail .notFinite
  else match exactInt? x with
    | none => .fail .fractional
    | some n => if -wordBound < n && n < wordBound then .ok n else .fail .tooLarge

/-- The problem that a text with such a fault is. -/
def IntegerFault.problem : IntegerFault → Problem
  | unclear => .unclearInteger
  | tooLarge => .tooLarge

/-- Reads an integer. -/
def integer : Reader Int
  | .int n => .ok n
  | .bool b => .ok (if b then 1 else 0)
  | .float x => integerOfFloat x
  | .str s => match integerOf s with
    | .ok n => .ok n
    | .error fault => .fail fault.problem
  | .torn => .fail .tornText
  | _ => .fail .notInteger

/-- Reads a number. -/
def number : Reader Float
  | .int n => if (Float.ofInt n).isInf then .fail .notNumber else .ok (Float.ofInt n)
  | .float x => .ok x
  | .bool b => .ok (if b then 1.0 else 0.0)
  | .str s => orFail .unclearNumber (number? s)
  | .torn => .fail .tornText
  | _ => .fail .notNumber

/-- Reads a truth value from an integer. -/
def truthOfInt (n : Int) : Checked Bool :=
  if !isWord n then .fail .notBool
  else if n = 0 then .ok false
  else if n = 1 then .ok true
  else .fail .unclearBool

/-- Reads a truth value. -/
def truth : Reader Bool
  | .bool b => .ok b
  | .int n => truthOfInt n
  | .float x => match integerOfFloat x with
    | .ok n => truthOfInt n
    | .error _ => .fail .notBool
  | .str s => orFail .unclearBool (truth? s)
  | .torn => .fail .tornText
  | _ => .fail .notBool

/-- Reads a value that may be null. -/
def nullable {α : Type} (read : Reader α) : Reader (Option α)
  | .null => .ok none
  | j => (read j).map some

/-- Reads the elements of a list from a position on. -/
def elementsFrom {α : Type} (read : Reader α) : Nat → List Json → Checked (List α)
  | _, [] => .ok []
  | i, j :: rest =>
    Checked.ap (Checked.under (toString i) ((read j).map List.cons))
      (elementsFrom read (i + 1) rest)

/-- Reads a list. -/
def list {α : Type} (read : Reader α) : Reader (List α)
  | .arr items => elementsFrom read 0 items
  | _ => .fail .notList

/-! ## 2. Bounds -/

/-- A reader whose result must pass a test as well. -/
def checking {α : Type} (read : Reader α) (problem? : α → Option Problem) : Reader α := fun j =>
  match read j with
  | .ok a => match problem? a with
    | some problem => .fail problem
    | none => .ok a
  | .error faults => .error faults

/-- Reads an integer that is not below a bound, as a natural number. -/
def natFrom (bound : Nat) : Reader Nat := fun j =>
  (checking integer (fun n => if n < bound then some (.belowBound bound) else none) j).map
    Int.toNat

/-- Reads a number that is at least zero, which a value that is no number is not. -/
def duration : Reader Float :=
  checking number fun x => if 0 ≤ x then none else some (.belowBound 0)

/-- Reads a text that is not empty. -/
def nonemptyText : Reader String :=
  checking text fun s => if s.isEmpty then some (.tooShort 1) else none

/-! ## 3. Fields -/

/-- The field under a name; without a default it has to be there. -/
def field {α : Type} (fields : Fields) (name : String) (default? : Option α) (read : Reader α) :
    Checked α :=
  match fields.lookup name with
  | some j => (read j).under name
  | none => match default? with
    | some a => .ok a
    | none => (Checked.fail .missing).under name

/-- A field that is there is read, whatever its default. -/
theorem field_eq_of_lookup {α : Type} {fields : Fields} {name : String} {j : Json}
    (h : fields.lookup name = some j) (default? : Option α) (read : Reader α) :
    field fields name default? read = (read j).under name := by
  simp [field, h]

end PromptChain.Form
