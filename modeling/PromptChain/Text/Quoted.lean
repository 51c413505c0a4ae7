/-
# Quoted texts inside messages

A message quotes a text between single quotes, or between double quotes when the text holds a
single quote and no double one.  The quote that is used and the backslash get a backslash; line
feed, carriage return and tab have their short forms; any other character without a visible form
is written by its code point, in two, four or eight hexadecimal digits.

A list of texts is written `['a', 'b']`.
-/
import PromptChain.Text.Printable
import PromptChain.Text.Lines

namespace PromptChain.Text

/-- The last `width` hexadecimal digits of a number. -/
def hexDigits : Nat → Nat → List Char
  | 0, _ => []
  | width + 1, n => hexDigits width (n / 16) ++ [Nat.digitChar (n % 16)]

/-- A character as it is written between two quotes `q`. -/
def quotedChar (q c : Char) : List Char :=
  if c = q ∨ c = '\\' then ['\\', c]
  else if c = '\n' then ['\\', 'n']
  else if c = '\r' then ['\\', 'r']
  else if c = '\t' then ['\\', 't']
  else if isPrintable c then [c]
  else if c.toNat < 0x100 then ['\\', 'x'] ++ hexDigits 2 c.toNat
  else if c.toNat < 0x10000 then ['\\', 'u'] ++ hexDigits 4 c.toNat
  else ['\\', 'U'] ++ hexDigits 8 c.toNat

/-- The quote a text is written with. -/
def quoteFor (cs : List Char) : Char :=
  if cs.contains '\'' && !cs.contains '"' then '"' else '\''

/-- A text between quotes. -/
def quoted (s : String) : String :=
  let q := quoteFor s.toList
  String.ofList (q :: s.toList.flatMap (quotedChar q) ++ [q])

/-- A list of texts between brackets. -/
def quotedList (texts : List String) : String := "[" ++ joined ", " (texts.map quoted) ++ "]"

end PromptChain.Text
