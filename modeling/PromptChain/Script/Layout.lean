/-
# The layout of a script

Blank lines and lines that begin with `//` are skipped.  The blanks before a line give its indent:
two of them are one level, a tab counts as two, and half a level does not count.

A prompt that is three double quotes opens a block.  The block is the lines that follow, as they
stand, up to the first that ends with three double quotes; of that line only the part before the
quotes, without blanks around the whole, belongs to it.  A block that is not closed runs to the
end of the script.  The text of a block is its lines joined, without blanks at its two ends.
-/
import PromptChain.Text.Lines

namespace PromptChain.Script

open PromptChain.Text

/-! ## 1. Skipped lines and indents -/

/-- Whether a line holds no node: it is blank or a comment. -/
def isSkipped (line : String) : Bool :=
  let text := (trim line).toList
  text.isEmpty || ['/', '/'].isPrefixOf text

/-- How many columns a blank takes. -/
def columns (c : Char) : Nat := if c = '\t' then 2 else 1

/-- The indent of a line, in levels of two columns. -/
def indentOf (line : String) : Nat :=
  (line.toList.takeWhile isBlank).foldr (fun c width => columns c + width) 0 / 2

/-! ## 2. Blocks -/

/-- The mark that opens and closes a block. -/
def fence : String := "\"\"\""

/-- The last line of a block without its closing mark, if this line closes one. -/
def closingLine? (line : String) : Option String :=
  let text := (trim line).toList
  if fence.toList.isSuffixOf text then some (String.ofList (text.take (text.length - 3))) else none

/-- The text of a block from its lines. -/
def blockText (lines : List String) : String := trim (joined "\n" lines)

end PromptChain.Script
