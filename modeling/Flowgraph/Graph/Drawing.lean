import Flowgraph.Function.Statement
import Flowgraph.Graph.Basic
import Flowgraph.Graph.Labels

/-!
# The graph of a function

A statement is drawn as a fragment: the nodes and edges it adds, the next free counter, and the
place where control leaves it. A branch opens with a decision and closes with a merge; a loop opens
with a header, to which its body leads back, and closes with an exit. Blocks leave no trace.
-/

namespace Flowgraph

/-- The node from which the next edge starts, and the label that edge carries. -/
structure Place where
  tail : NodeId
  pending : Option Choice
deriving DecidableEq, Inhabited, Repr

namespace Place

/-- After a node, with nothing to be said of the next edge. -/
def after (tail : NodeId) : Place := ⟨tail, none⟩

/-- After a node, on the way that a choice takes. -/
def choosing (tail : NodeId) (choice : Choice) : Place := ⟨tail, some choice⟩

/-- The forward edge from a place to a node; it uses up the pending label. -/
def edgeTo (place : Place) (target : NodeId) : Edge := ⟨place.tail, target, .fallthrough, place.pending⟩

end Place

structure Fragment where
  nodes : List Node
  edges : List Edge
  /-- The last counter that has been used. -/
  counter : Nat
  place : Place
deriving DecidableEq, Inhabited, Repr

namespace Fragment

def nothing (counter : Nat) (place : Place) : Fragment := ⟨[], [], counter, place⟩

/-- One node for a piece of source, entered from the place before it. -/
def single (kind : NodeKind) (span : Span) (label : String) (counter : Nat) (place : Place) :
    Fragment :=
  let id := NodeId.source (counter + 1) span
  ⟨[⟨id, kind, label⟩], [place.edgeTo id], counter + 1, .after id⟩

/-- A branch: a decision, its two sides, and a merge of both. -/
def branch (span : Span) (label : String) (consequent alternate : Nat → Place → Fragment)
    (counter : Nat) (place : Place) : Fragment :=
  let decision := NodeId.source (counter + 1) span
  let yes := consequent (counter + 1) (.choosing decision .yes)
  let no := alternate yes.counter (.choosing decision .no)
  let merge := NodeId.synthetic (no.counter + 1)
  { nodes := ⟨decision, .decision, label⟩ :: (yes.nodes ++ no.nodes ++ [⟨merge, .merge, ""⟩])
    edges := place.edgeTo decision ::
      (yes.edges ++ no.edges ++ [yes.place.edgeTo merge, no.place.edgeTo merge])
    counter := no.counter + 1
    place := .after merge }

/-- A loop: a header, the body that leads back to it, and an exit. -/
def loop (span : Span) (body : Nat → Place → Fragment) (counter : Nat) (place : Place) : Fragment :=
  let header := NodeId.source (counter + 1) span
  let inner := body (counter + 1) (.choosing header .enter)
  let exit := NodeId.synthetic (inner.counter + 1)
  { nodes := ⟨header, .loop, "Loop"⟩ :: (inner.nodes ++ [⟨exit, .exit, ""⟩])
    edges := place.edgeTo header ::
      (inner.edges ++
        [⟨inner.place.tail, header, .loopBack, inner.place.pending⟩,
         ⟨header, exit, .fallthrough, some .leave⟩])
    counter := inner.counter + 1
    place := .after exit }

/-- One fragment followed by another that starts where the first ends. -/
def andThen (a : Fragment) (next : Nat → Place → Fragment) : Fragment :=
  let b := next a.counter a.place
  ⟨a.nodes ++ b.nodes, a.edges ++ b.edges, b.counter, b.place⟩

end Fragment

namespace Statement

mutual

def draw (rules : LabelRules) : Statement → Nat → Place → Fragment
  | .block _ body, counter, place => drawAll rules body counter place
  | .branch span test consequent (some alternate), counter, place =>
      Fragment.branch span (rules.snippet test ++ " ?") (draw rules consequent)
        (draw rules alternate) counter place
  | .branch span test consequent none, counter, place =>
      Fragment.branch span (rules.snippet test ++ " ?") (draw rules consequent)
        Fragment.nothing counter place
  | .loop span _ body, counter, place => Fragment.loop span (draw rules body) counter place
  | .return span, counter, place => Fragment.single .return span "Return" counter place
  | .plain span text, counter, place =>
      Fragment.single (if rules.isIo text then .io else .statement) span (rules.snippet text)
        counter place

def drawAll (rules : LabelRules) : List Statement → Nat → Place → Fragment
  | [], counter, place => Fragment.nothing counter place
  | s :: rest, counter, place => (draw rules s counter place).andThen (drawAll rules rest)

end

end Statement

namespace Function

def bodyFragment (f : Function) (rules : LabelRules) : Fragment :=
  Statement.drawAll rules f.statements 0 (.after .start)

def entryNode (f : Function) : Node := ⟨.start, .entry, f.name⟩

def terminalNode : Node := ⟨.finish, .terminal, "End"⟩

/-- The graph of a function. A return at the end of the body is not led on to the end. -/
def graph (f : Function) (rules : LabelRules) : Graph :=
  let body := f.bodyFragment rules
  let nodes := f.entryNode :: body.nodes ++ [terminalNode]
  let unfinished : Graph := { name := f.name, nodes, edges := body.edges }
  if unfinished.isReturn body.place.tail then unfinished
  else unfinished.addEdge (body.place.edgeTo .finish)

end Function

end Flowgraph
