import Flowgraph.Function.Locate

/-!
# From syntax to statements

A statement node becomes a branch, a loop, a return or a block where it has that shape, and plain
text otherwise. Nodes nested `depthLimit` levels deep are kept whole.
-/

namespace Flowgraph

namespace SyntaxTree

/-- The number of levels of nested statements that are looked into. -/
def depthLimit : Nat := 256

def isCommentKind (kind : String) : Bool :=
  (List.range (kind.toList.length + 1)).any fun i => "comment".toList.isPrefixOf (kind.toList.drop i)

def isComment (t : SyntaxTree) : Bool := isCommentKind t.kind

def statementNodes (t : SyntaxTree) : List SyntaxTree := t.namedChildren.filter (!·.isComment)

/-- The text of a condition, without the parentheses around it. -/
def conditionText (t : SyntaxTree) (source : String) : String :=
  if t.kind = "parenthesized_expression" then
    match t.statementNodes.head? with
    | some inner => inner.text source
    | none => t.text source
  else t.text source

/-- What stands in the place of an `else`: its statement, or nothing if only the keyword is
there. -/
def elseNode (t : SyntaxTree) : Option SyntaxTree :=
  if t.kind = "else_clause" then t.statementNodes.head? else some t

def loopKind? : String → Option LoopKind
  | "for_statement" => some .counted
  | "for_in_statement" => some .each
  | "while_statement" => some .while
  | "do_statement" => some .doWhile
  | _ => none

def whole (t : SyntaxTree) (source : String) : Statement := .plain t.span (t.text source)

/-- The statement of a node, looking into the given number of levels. -/
def statement (source : String) : Nat → SyntaxTree → Statement
  | 0, t => t.whole source
  | levels + 1, t =>
      let part (node : Option SyntaxTree) (span : Span) : Statement :=
        match node with
        | some node => statement source levels node
        | none => Statement.emptyBlock span
      if t.kind = "statement_block" then
        .block t.span (t.statementNodes.map (statement source levels))
      else if t.kind = "if_statement" then
        .branch t.span (((t.childByField "condition").map (·.conditionText source)).getD "")
          (part (t.childByField "consequence") t.span)
          ((t.childByField "alternative").map fun clause => part clause.elseNode clause.span)
      else if t.kind = "return_statement" then .return t.span
      else
        match loopKind? t.kind with
        | some kind => .loop t.span kind (part (t.childByField "body") t.span)
        | none => t.whole source

def statements (t : SyntaxTree) (source : String) : List Statement :=
  t.statementNodes.map (statement source depthLimit)

def functionBody? (t : SyntaxTree) (source : String) : Option Body :=
  (t.childByField "body").map fun body =>
    if body.kind = "statement_block" then .block (body.statements source)
    else .expression (body.whole source)

def function? (t : SyntaxTree) (source : String) : Option Function :=
  t.functionKind?.map fun kind =>
    { name := t.functionName source, kind, span := t.span, body := t.functionBody? source }

end SyntaxTree

end Flowgraph
