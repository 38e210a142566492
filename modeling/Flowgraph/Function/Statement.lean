import Flowgraph.Text.Span

/-!
# Statements

The statements of a function body as far as control flow is concerned: branches, loops, returns and
blocks, and everything else as plain text.
-/

namespace Flowgraph

inductive LoopKind where
  | counted
  | each
  | while
  | doWhile
deriving DecidableEq, Inhabited, Repr

inductive Statement where
  /-- A branch; `test` is the condition without its parentheses. -/
  | branch (span : Span) (test : String) (consequent : Statement) (alternate : Option Statement)
  | loop (span : Span) (kind : LoopKind) (body : Statement)
  | return (span : Span)
  | block (span : Span) (body : List Statement)
  | plain (span : Span) (text : String)
deriving Inhabited, Repr

namespace Statement

def span : Statement → Span
  | .branch span .. | .loop span .. | .return span | .block span _ | .plain span _ => span

/-- A branch or loop without a body has an empty block in its place. -/
def emptyBlock (span : Span) : Statement := .block span []

end Statement

inductive Body where
  | block (statements : List Statement)
  /-- The value of an arrow function without braces, drawn as one statement. -/
  | expression (statement : Statement)
deriving Inhabited, Repr

def Body.statements : Body → List Statement
  | .block statements => statements
  | .expression statement => [statement]

inductive FunctionKind where
  | declaration
  | expression
  | arrow
  | generator
deriving DecidableEq, Inhabited, Repr

structure Function where
  name : String
  kind : FunctionKind
  span : Span
  body : Option Body
deriving Inhabited, Repr

def Function.statements (f : Function) : List Statement :=
  match f.body with
  | some body => body.statements
  | none => []

end Flowgraph
