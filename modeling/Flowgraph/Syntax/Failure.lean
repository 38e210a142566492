import Flowgraph.Syntax.Cursor
import Flowgraph.Text.Numeral

/-!
# Syntax errors in a tree

The first node of a tree that is an error or stands for a missing token, in the order in which nodes
begin. The search enters only nodes that are marked as holding an error.
-/

namespace Flowgraph

namespace SyntaxTree

def isFault (t : SyntaxTree) : Bool := t.info.isError || t.info.isMissing

/-- The first faulty node of a tree, as far as it is found in nodes that are marked. -/
def firstFault (t : SyntaxTree) : Option SyntaxTree :=
  (Cursor.on t).findWhere? (·.info.hasError) isFault

end SyntaxTree

inductive SyntaxFault where
  | missing (kind : String) (row column : Nat)
  | unexpected (row column : Nat)
  | somewhere
  | noTree
deriving DecidableEq, Inhabited

namespace SyntaxFault

/-- Rows and columns are written from 1. -/
def place (row column : Nat) : String :=
  " at line " ++ Numeral.render (row + 1) ++ ", column " ++ Numeral.render (column + 1)

def message : SyntaxFault → String
  | .missing kind row column => "missing \x60" ++ kind ++ "\x60" ++ place row column
  | .unexpected row column => "unexpected token" ++ place row column
  | .somewhere => "source contains syntax errors"
  | .noTree => "parser returned no tree"

/-- The line breaks before a byte offset, and the bytes from the last of them to the offset. -/
def rowAndColumn (row column offset : Nat) : List Char → Nat × Nat
  | [] => (row, column)
  | c :: rest =>
      if offset = 0 then (row, column)
      else if c = '\n' then rowAndColumn (row + 1) 0 (offset - c.utf8Size) rest
      else rowAndColumn row (column + c.utf8Size) (offset - c.utf8Size) rest

/-- The fault that a faulty node of a text is reported as. -/
def ofNode (text : String) (t : SyntaxTree) : SyntaxFault :=
  let (row, column) := rowAndColumn 0 0 t.span.start text.toList
  if t.info.isMissing then .missing t.kind row column else .unexpected row column

def ofTree? (text : String) (t : SyntaxTree) : Option SyntaxFault :=
  if t.info.hasError then
    some (match t.firstFault with
      | some node => ofNode text node
      | none => .somewhere)
  else none

end SyntaxFault

end Flowgraph
