/-
# Reading JSON text

`Json.read` reads a whole text as one value.  Where the text is not JSON it gives the offset, in
code points, of the fault:

* where a value was expected, its first character (the end of the text counts as one);
* where a name, a colon, a comma or a closing bracket was expected, the character found instead;
* for a text that is not closed, its opening quote; for an unknown escape, its backslash, and for
  a bad code unit the `u` before it; for a bare control character, that character;
* after a complete value, the first character that is not white.

Besides the standard's values the words `NaN`, `Infinity` and `-Infinity` are read.  An escape may
give half of a pair, and a text with such a half alone in it is a torn one.
-/
import PromptChain.Json.Number
import PromptChain.Text.Encoding
import PromptChain.Text.Lines

namespace PromptChain.Json

open PromptChain.Text

/-- The whitespace of JSON. -/
def isWhite (c : Char) : Bool := c == ' ' || c == '\t' || c == '\n' || c == '\r'

/-- What is left after whitespace. -/
def skip (cs : List Char) : List Char := cs.dropWhile isWhite

/-! ## 1. Texts -/

/-- The value of a hexadecimal digit. -/
def hexValue? (c : Char) : Option Nat :=
  if c.isDigit then some (c.toNat - '0'.toNat)
  else if 'a' ≤ c ∧ c ≤ 'f' then some (c.toNat - 'a'.toNat + 10)
  else if 'A' ≤ c ∧ c ≤ 'F' then some (c.toNat - 'A'.toNat + 10)
  else none

/-- The value of four hexadecimal digits. -/
def hex4? (a b c d : Char) : Option Nat := do
  return (((← hexValue? a) * 16 + (← hexValue? b)) * 16 + (← hexValue? c)) * 16 + (← hexValue? d)

/-- The character that a one-letter escape stands for. -/
def shortEscape? (c : Char) : Option Char :=
  [('"', '"'), ('\\', '\\'), ('/', '/'), ('b', '\x08'), ('f', '\x0c'), ('n', '\n'), ('r', '\r'),
    ('t', '\t')].lookup c

/-- Puts a character in front of those that were read, or nothing for half of a pair alone. -/
def consChar (c : Option Char) : Reading (List (Option Char)) → Reading (List (Option Char))
  | .ok (cs, rest) => .ok (c :: cs, rest)
  | .error fault => .error fault

/-- The characters of a text up to its closing quote; `opening` is what is left at its opening
quote. -/
def textBody (opening : List Char) : List Char → Reading (List (Option Char))
  | [] => unexpected opening
  | '"' :: rest => .ok ([], rest)
  | '\\' :: 'u' :: a :: b :: c :: d :: '\\' :: 'u' :: e :: f :: g :: h :: last :: rest =>
    match hex4? a b c d with
    | none =>
      unexpected ('u' :: a :: b :: c :: d :: '\\' :: 'u' :: e :: f :: g :: h :: last :: rest)
    | some high =>
      if isHighHalf high then
        match hex4? e f g h with
        | none => unexpected ('u' :: e :: f :: g :: h :: last :: rest)
        | some low =>
          if isLowHalf low then
            consChar (some (pairChar high low)) (textBody opening (last :: rest))
          else
            consChar (unitChar? high)
              (textBody opening ('\\' :: 'u' :: e :: f :: g :: h :: last :: rest))
      else
        consChar (unitChar? high)
          (textBody opening ('\\' :: 'u' :: e :: f :: g :: h :: last :: rest))
  | '\\' :: 'u' :: a :: b :: c :: d :: last :: rest =>
    match hex4? a b c d with
    | none => unexpected ('u' :: a :: b :: c :: d :: last :: rest)
    | some n => consChar (unitChar? n) (textBody opening (last :: rest))
  | '\\' :: 'u' :: rest => unexpected ('u' :: rest)
  | '\\' :: c :: rest =>
    match shortEscape? c with
    | none => unexpected ('\\' :: c :: rest)
    | some c => consChar (some c) (textBody opening rest)
  | ['\\'] => unexpected opening
  | c :: rest =>
    if c.toNat < 0x20 then unexpected (c :: rest) else consChar (some c) (textBody opening rest)

/-- The rest of a text after its opening quote; none is given when it is torn. -/
def text (rest : List Char) : Reading (Option String) :=
  match textBody ('"' :: rest) rest with
  | .ok (cs, rest) => .ok (whole? cs, rest)
  | .error fault => .error fault

/-! ## 2. Words and numbers -/

/-- The words that stand for a value. -/
def constants : List (List Char × Json) :=
  [("null".toList, .null), ("true".toList, .bool true), ("false".toList, .bool false),
    ("NaN".toList, .float (0.0 / 0.0)), ("Infinity".toList, .float (1.0 / 0.0)),
    ("-Infinity".toList, .float (-1.0 / 0.0))]

/-- A word or a number at the front of a list. -/
def scalar (cs : List Char) : Reading Json :=
  match constants.findSome? fun (word, value) => (strip? word cs).map (value, ·) with
  | some found => .ok found
  | none => number cs

/-! ## 3. Values -/

mutual

/-- A value at the front of a list; the first argument bounds how many brackets and members may
still be read, the second how many brackets may still be opened inside each other. -/
def value : Nat → Nat → List Char → Reading Json
  | _, _, '"' :: rest => (text rest).map fun (s, rest) => (s.elim .torn .str, rest)
  | 0, _, cs => unexpected cs
  | _, 0, '\x7b' :: _ => .error .deepObject
  | _, 0, '[' :: _ => .error .deepArray
  | fuel + 1, room + 1, '\x7b' :: rest =>
    match skip rest with
    | '\x7d' :: rest => .ok (.obj [], rest)
    | rest => members fuel room ⟨[]⟩ rest
  | fuel + 1, room + 1, '[' :: rest =>
    match skip rest with
    | ']' :: rest => .ok (.arr [], rest)
    | rest => elements fuel room [] rest
  | _, _, cs => scalar cs

/-- The members of an object up to its closing bracket, after those that were read already. -/
def members : Nat → Nat → Store Json → List Char → Reading Json
  | fuel + 1, room, done, '"' :: rest =>
    match text rest with
    | .error fault => .error fault
    | .ok (none, _) => .error .tornName
    | .ok (some name, rest) => match skip rest with
      | ':' :: rest => match value fuel room (skip rest) with
        | .error fault => .error fault
        | .ok (item, rest) => match skip rest with
          | '\x7d' :: rest => .ok (.obj (done.put name item).entries, rest)
          | ',' :: rest => members fuel room (done.put name item) (skip rest)
          | rest => unexpected rest
      | rest => unexpected rest
  | _, _, _, cs => unexpected cs

/-- The elements of an array up to its closing bracket, after those that were read already. -/
def elements : Nat → Nat → List Json → List Char → Reading Json
  | 0, _, _, cs => unexpected cs
  | fuel + 1, room, done, cs =>
    match value fuel room cs with
    | .error fault => .error fault
    | .ok (item, rest) => match skip rest with
      | ']' :: rest => .ok (.arr (done ++ [item]), rest)
      | ',' :: rest => elements fuel room (done ++ [item]) (skip rest)
      | rest => unexpected rest

end

/-! ## 4. Whole texts -/

/-- One value with nothing but whitespace around it. -/
def document (cs : List Char) : Except (ReadFault (List Char)) Json :=
  match value (2 * cs.length + 2) depthLimit (skip cs) with
  | .error fault => .error fault
  | .ok (found, rest) => match skip rest with
    | [] => .ok found
    | left => .error (.unexpected left)

/-- Reads a whole text as one value; a fault's place is its offset in code points. -/
def read (s : String) : Except (ReadFault Nat) Json :=
  (document s.toList).mapError fun fault => fault.map fun left => s.toList.length - left.length

end PromptChain.Json
