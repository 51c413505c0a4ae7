/-
# JSON values

Whole numbers are kept apart from numbers with a fraction or an exponent, because a whole number
is exact whatever its size.  An object holds each name once; where a text repeats a name, the
last value counts.

A text in which half of a pair of code units stands alone is torn.  The texts of this library hold
characters only, so a torn text is a value of its own, of which no more is kept than that it is one.

JSON has no written form for infinite values and for values that are no number, though texts that
hold them are read; and a torn text has no written form in bytes, though an escape reads as half of
a pair.  A value without any of these is one that can be written (`isWritable`).
-/
import PromptChain.Store

namespace PromptChain

/-- A JSON value. -/
inductive Json where
  | null
  | bool (b : Bool)
  | int (n : Int)
  | float (x : Float)
  | str (s : String)
  /-- A text that is torn. -/
  | torn
  | arr (items : List Json)
  | obj (fields : List (String × Json))
  deriving Inhabited

namespace Json

/-- The value of an object under a name. -/
def field? (j : Json) (name : String) : Option Json :=
  match j with
  | .obj fields => fields.lookup name
  | _ => none

mutual

/-- Whether a value can be written: every number in it is a finite one, and no text is torn. -/
def isWritable : Json → Bool
  | .float x => x.isFinite
  | .torn => false
  | .arr items => allWritable items
  | .obj fields => membersWritable fields
  | _ => true

/-- Whether some values can be written. -/
def allWritable : List Json → Bool
  | [] => true
  | j :: rest => j.isWritable && allWritable rest

/-- Whether the members of an object can be written. -/
def membersWritable : List (String × Json) → Bool
  | [] => true
  | (_, j) :: rest => j.isWritable && membersWritable rest

end

@[simp] theorem allWritable_eq_all (items : List Json) :
    allWritable items = items.all isWritable := by
  induction items with
  | nil => rfl
  | cons j rest ih => rw [allWritable, ih, List.all_cons]

@[simp] theorem membersWritable_eq_all (fields : List (String × Json)) :
    membersWritable fields = fields.all fun f => f.2.isWritable := by
  induction fields with
  | nil => rfl
  | cons f rest ih => rw [membersWritable, ih, List.all_cons]

end Json
end PromptChain
