/-
# Numbers and truth values written as text

Fields that come from the environment are texts, and a request may write a number as a text too.

* An integer: blanks around it do not count; an optional sign, then zeros that do not count, with
  any underscores among them, then the digits, with single underscores between them, and at last an
  optional point with zeros after it.  After zeros that do not count there may be a minus.
* A number: blanks around it do not count; an optional sign, then digits with at most one point
  among or beside them and an optional exponent, or one of the words `inf`, `infinity`, `nan`.
  Single underscores may stand inside it, but then nothing may stand around it.
* A truth value: one of six words for each side, in any case, with nothing around it.

The digits of an integer have a limit, and a text that is over it is told apart from one that writes
no integer at all (`IntegerFault`).
-/
import PromptChain.Json.Number
import PromptChain.Text.Blank
import PromptChain.Text.LetterCase

namespace PromptChain.Form

open PromptChain.Text

/-! ## 1. Around and between the digits -/

/-- The blanks that may stand around a number; the information separators may not. -/
def isSpace (c : Char) : Bool := isBlank c && !(0x1c ≤ c.toNat && c.toNat ≤ 0x1f)

/-- A list without the spaces at its two ends. -/
def trimSpaces (cs : List Char) : List Char :=
  ((cs.dropWhile isSpace).reverse.dropWhile isSpace).reverse

/-- Whether underscores stand singly and inside only. -/
def underscoresInside : List Char → Bool
  | [] => true
  | ['_'] => false
  | '_' :: '_' :: _ => false
  | _ :: rest => underscoresInside rest

/-- A list without its underscores, if they stand singly and inside only. -/
def dropUnderscores? (cs : List Char) : Option (List Char) :=
  match cs with
  | '_' :: _ => none
  | _ => if underscoresInside cs then some (cs.filter (· != '_')) else none

/-! ## 2. Integers -/

/-- Why a text gives no integer. -/
inductive IntegerFault where
  /-- It does not write one. -/
  | unclear
  /-- It has more digits than are read. -/
  | tooLarge
  deriving DecidableEq, Repr

/-- What is left of an integer's text after a zero or underscore and those that follow it: of these
alone the last one, before a point the last one with the point, otherwise what begins with another
digit or a minus. -/
def dropZerosAfter (last : Char) : List Char → Option (List Char)
  | [] => some [last]
  | c :: rest =>
    if c = '0' ∨ c = '_' then dropZerosAfter c rest
    else if c = '.' then some (last :: c :: rest)
    else if c.isDigit ∨ c = '-' then some (c :: rest)
    else none

/-- What is left of an integer's text, which begins with a digit, after the zeros at its front. -/
def dropZeros? : List Char → Option (List Char)
  | '0' :: rest => dropZerosAfter '0' rest
  | c :: rest => if c.isDigit then some (c :: rest) else none
  | [] => none

/-- An integer's text without a point and zeros at its end. -/
def dropPoint (cs : List Char) : List Char :=
  match cs.dropWhile (· != '.') with
  | _ :: '0' :: zeros => if zeros.all (· == '0') then cs.takeWhile (· != '.') else cs
  | _ => cs

/-- The integer that a minus and digits write, without zeros in front. -/
def plainInteger (cs : List Char) : Except IntegerFault Int :=
  let (sign, unsigned) : List Char × List Char := match cs with
    | '-' :: rest => (['-'], rest)
    | _ => ([], cs)
  let (digits, rest) := Json.spanDigits unsigned
  if digits.head? = some '0' then if unsigned = ['0'] then .ok 0 else .error .unclear
  else if Json.digitLimit < sign.length + digits.length then .error .tooLarge
  else if digits.isEmpty || !rest.isEmpty then .error .unclear
  else
    let n : Int := Json.digitsValue digits
    .ok (if sign.isEmpty then n else -n)

/-- The integer that a text with no blanks around it writes after its sign. -/
def signedInteger (sign unsigned : List Char) : Except IntegerFault Int :=
  match dropZeros? unsigned with
  | none => .error .unclear
  | some cs =>
    let cs := sign ++ dropPoint cs
    plainInteger ((dropUnderscores? cs).getD cs)

/-- The integer that a text writes. -/
def integerOf (s : String) : Except IntegerFault Int :=
  match trimSpaces s.toList with
  | '-' :: rest => signedInteger ['-'] rest
  | '+' :: rest => signedInteger [] rest
  | cs => signedInteger [] cs

/-! ## 3. Numbers -/

/-- The words for a value that no digits write. -/
def numberWords : List (String × Float) :=
  [("inf", 1.0 / 0.0), ("infinity", 1.0 / 0.0), ("nan", 0.0 / 0.0)]

/-- The value of an exponent with its letter, zero when there is none. -/
def exponent? (cs : List Char) : Option Int :=
  match cs with
  | [] => some 0
  | e :: rest =>
    if e = 'e' ∨ e = 'E' then
      let (sign, digits) : Int × List Char := match rest with
        | '-' :: digits => (-1, digits)
        | '+' :: digits => (1, digits)
        | digits => (1, digits)
      if !digits.isEmpty && digits.all Char.isDigit then some (sign * Json.digitsValue digits)
      else none
    else none

/-- The value of digits with an optional point and exponent. -/
def decimal? (cs : List Char) : Option Float := do
  let (whole, rest) := Json.spanDigits cs
  let (fraction, rest) := match rest with
    | '.' :: rest => Json.spanDigits rest
    | rest => ([], rest)
  let exponent ← exponent? rest
  if whole.isEmpty && fraction.isEmpty then none
  else some (Json.decimal (Json.digitsValue (whole ++ fraction)) (exponent - fraction.length))

/-- The value of a number without its sign. -/
def unsignedNumber? (cs : List Char) : Option Float :=
  (numberWords.lookup (lower (String.ofList cs))).or (decimal? cs)

/-- The value of a number with nothing around it. -/
def plainNumber? (cs : List Char) : Option Float :=
  match cs with
  | '-' :: rest => (unsignedNumber? rest).map fun x => -x
  | '+' :: rest => unsignedNumber? rest
  | rest => unsignedNumber? rest

/-- The number that a text writes. -/
def number? (s : String) : Option Float :=
  (plainNumber? (trimSpaces s.toList)).or do
    plainNumber? (← dropUnderscores? s.toList)

/-! ## 4. Truth values -/

/-- The truth value that a text names. -/
def truth? (s : String) : Option Bool :=
  let word := lower s
  if ["0", "off", "f", "false", "n", "no"].contains word then some false
  else if ["1", "on", "t", "true", "y", "yes"].contains word then some true
  else none

end PromptChain.Form
