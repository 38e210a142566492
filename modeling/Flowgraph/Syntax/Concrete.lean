import Flowgraph.Parsing.Parser
import Flowgraph.Syntax.Tree

/-!
# From parse trees to syntax trees

Hidden symbols leave their children in their place, aliases rename nodes, and a field given to a
hidden symbol passes to the first node in its place.
-/

namespace Flowgraph

namespace Subtree

def giveField (field : Option String) : List SyntaxTree → List SyntaxTree
  | .node info children :: rest =>
      match field with
      | some _ => .node { info with field } children :: rest
      | none => .node info children :: rest
  | [] => []

/-- The nodes that a subtree contributes to its parent, where it is shown under `shownAs` and fills
`field`. -/
def toSyntax (t : Tables) (src : Source) (shownAs : Option Alias) (field : Option String)
    (tree : Subtree) : List SyntaxTree :=
  let g := t.grammar
  let step (acc : List (List SyntaxTree) × Nat) (child : { c // c ∈ tree.children }) :
      List (List SyntaxTree) × Nat :=
    let (name, role) := match tree.form with
      | .derived p => if child.1.extra then (none, none)
          else (aliasAt t p acc.2, fieldAt t p acc.2)
      | _ => (none, none)
    (toSyntax t src name role child.1 :: acc.1, if child.1.extra then acc.2 else acc.2 + 1)
  let inner := (tree.children.attach.foldl step ([], 0)).1.reverse.flatten
  let span : Span := ⟨src.byteAt tree.start, src.byteAt tree.stop⟩
  let shown (kind : String) (named : Bool) : List SyntaxTree :=
    [.node { kind, named, field, span, isError := tree.isError, isMissing := tree.missing
             hasError := 0 < tree.cost || tree.isError } inner]
  match shownAs with
  | some a => shown a.name a.named
  | none =>
      match tree.form with
      | .error => shown "ERROR" true
      | .skipped => giveField field inner
      | _ =>
          match g.visibilityOf tree.symbol with
          | .named => shown (g.nameOf tree.symbol) true
          | .anonymous => shown (g.nameOf tree.symbol) false
          | _ => giveField field inner
termination_by sizeOf tree
decreasing_by
  have h := Array.sizeOf_lt_of_mem child.2
  cases tree
  simp_all
  omega

end Subtree

/-- Parses a text into its syntax tree, errors included. -/
def Dialect.parse (d : Dialect) (text : String) : Option SyntaxTree :=
  let src := Source.ofString text
  match Parser.run d src with
  | none => none
  | some tree => (tree.toSyntax d.tables src none none).head?

end Flowgraph
