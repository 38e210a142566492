import Flowgraph.Regex.Pattern
import Flowgraph.Text.Blank
import Flowgraph.Text.Grapheme

/-!
# Labels of statements

A statement is labelled with the beginning of its first line, cut between characters as a reader
sees them, and is drawn as input or output if a pattern matches its text.
-/

namespace Flowgraph

structure LabelRules where
  width : Nat
  ioPatterns : List Pattern
deriving Inhabited

namespace LabelRules

/-- The first line of a text without the blanks at its end. -/
def firstLine (text : List Char) : List Char := Text.trimEnd (text.takeWhile (· ≠ '\n'))

/-- The first `width` grapheme clusters of the first line. -/
def snippetChars (width : Nat) (text : List Char) : List Char :=
  ((Grapheme.clusters (firstLine text)).take width).flatten

def snippet (rules : LabelRules) (text : String) : String :=
  String.ofList (snippetChars rules.width text.toList)

def isIo (rules : LabelRules) (text : String) : Bool := rules.ioPatterns.any (·.isMatch text)

end LabelRules

end Flowgraph
