import Flowgraph.Text.Span

/-!
# Syntax trees

A node has a kind, a span, the field of its parent that it fills, if any, and its children in order.
Tokens are leaves; fixed texts such as `function` are unnamed, everything else is named. A tree of
an erroneous text contains nodes that are an error or stand for a missing token.
-/

namespace Flowgraph

/-- What a node says of itself, apart from its children. -/
structure NodeInfo where
  kind : String
  named : Bool
  field : Option String
  span : Span
  isError : Bool
  isMissing : Bool
  /-- Set by the parser on every node that holds an error or a missing token, itself included. -/
  hasError : Bool
deriving DecidableEq, Inhabited

inductive SyntaxTree where
  | node (info : NodeInfo) (children : List SyntaxTree)
deriving Inhabited

namespace SyntaxTree

def info : SyntaxTree → NodeInfo
  | .node info _ => info

def children : SyntaxTree → List SyntaxTree
  | .node _ children => children

@[simp] theorem info_node (i : NodeInfo) (cs : List SyntaxTree) : (node i cs).info = i := rfl

@[simp] theorem children_node (i : NodeInfo) (cs : List SyntaxTree) :
    (node i cs).children = cs := rfl

def kind (t : SyntaxTree) : String := t.info.kind

def named (t : SyntaxTree) : Bool := t.info.named

def span (t : SyntaxTree) : Span := t.info.span

def childByField (t : SyntaxTree) (field : String) : Option SyntaxTree :=
  t.children.find? fun c => c.info.field == some field

def namedChildren (t : SyntaxTree) : List SyntaxTree := t.children.filter (·.named)

end SyntaxTree

end Flowgraph
