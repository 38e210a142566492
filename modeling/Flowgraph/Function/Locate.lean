import Flowgraph.Function.Statement
import Flowgraph.Syntax.Cursor
import Flowgraph.Text.Slice

/-!
# Functions in a syntax tree

Which nodes define a function, what the function is called, and which of them a cursor is in.
Without a cursor the first function in the order in which nodes begin is taken. With one, the first
in the order in which nodes end, among the nodes that contain the cursor; that is the innermost one.
-/

namespace Flowgraph

namespace FunctionKind

def ofNodeKind? : String → Option FunctionKind
  | "function_declaration" => some .declaration
  | "function_expression" | "function" => some .expression
  | "arrow_function" => some .arrow
  | "generator_function_declaration" | "generator_function" => some .generator
  | _ => none

/-- What a function of this kind is called when it has no name. -/
def placeholder : FunctionKind → String
  | .arrow => "Arrow Fn"
  | _ => "anonymous"

end FunctionKind

namespace SyntaxTree

/-- The kind of function that a node defines, whether the node is named or not. -/
def functionKind? (t : SyntaxTree) : Option FunctionKind := FunctionKind.ofNodeKind? t.kind

/-- Tokens such as the keyword `function` define no function. -/
def isFunction (t : SyntaxTree) : Bool := t.named && t.functionKind?.isSome

/-- The byte range of the node contains the offset, ends included. -/
def covers (t : SyntaxTree) (offset : Nat) : Bool :=
  t.span.start ≤ offset && offset ≤ t.span.stop

/-- The first function in the order in which nodes begin. -/
def firstFunction (t : SyntaxTree) : Option SyntaxTree := (Cursor.on t).find? isFunction

/-- The first function in the order in which nodes end, among the nodes that cover an offset. The
walk starts at the innermost of the first such nodes, and passes over what lies beside the
offset. -/
def functionAt (offset : Nat) (t : SyntaxTree) : Option SyntaxTree :=
  let enter := fun u : SyntaxTree => u.covers offset
  if t.covers offset then ((Cursor.on t).deepest enter).findEnding? enter isFunction else none

/-- The function that an offset selects; offset zero stands for no cursor. -/
def locate (root : SyntaxTree) (offset : Nat) : Option SyntaxTree :=
  if offset = 0 then root.firstFunction else root.functionAt offset

def text (t : SyntaxTree) (source : String) : String := Text.slice source t.span

def functionName (t : SyntaxTree) (source : String) : String :=
  let given := ((t.childByField "name").map (·.text source)).getD ""
  if given ≠ "" then given
  else
    match t.functionKind? with
    | some kind => kind.placeholder
    | none => FunctionKind.expression.placeholder

end SyntaxTree

end Flowgraph
