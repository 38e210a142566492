import Flowgraph.Graph.NodeId
import Std.Data.HashSet

/-!
# Control flow graphs

A graph is its nodes and its edges in the order in which they were made. Nothing is asked of it: ids
may repeat, and edges may lead to ids that no node has.
-/

namespace Flowgraph

inductive NodeKind where
  | entry
  | decision
  | loop
  | return
  | statement
  | io
  | merge
  | exit
  | terminal
deriving DecidableEq, Inhabited, Repr

namespace NodeKind

def name : NodeKind → String
  | .entry => "entry"
  | .decision => "decision"
  | .loop => "loop"
  | .return => "return"
  | .statement => "statement"
  | .io => "io"
  | .merge => "merge"
  | .exit => "exit"
  | .terminal => "terminal"

def all : List NodeKind :=
  [.entry, .decision, .loop, .return, .statement, .io, .merge, .exit, .terminal]

def ofName? (name : String) : Option NodeKind := all.find? fun kind => kind.name = name

theorem ofName?_name (k : NodeKind) : ofName? k.name = some k := by cases k <;> decide

end NodeKind

/-- An edge goes forward, or from the end of a loop body back to the head of the loop. -/
inductive EdgeKind where
  | fallthrough
  | loopBack
deriving DecidableEq, Inhabited, Repr

namespace EdgeKind

def name : EdgeKind → String
  | .fallthrough => "fallthrough"
  | .loopBack => "loop-back"

def ofName? : String → Option EdgeKind
  | "fallthrough" => some .fallthrough
  | "loop-back" => some .loopBack
  | _ => none

theorem ofName?_name (k : EdgeKind) : ofName? k.name = some k := by cases k <;> rfl

end EdgeKind

inductive Choice where
  | yes
  | no
  | enter
  | leave
deriving DecidableEq, Inhabited, Repr

namespace Choice

def name : Choice → String
  | .yes => "Yes"
  | .no => "No"
  | .enter => "Do"
  | .leave => "Exit"

def ofName? : String → Option Choice
  | "Yes" => some .yes
  | "No" => some .no
  | "Do" => some .enter
  | "Exit" => some .leave
  | _ => none

theorem ofName?_name (c : Choice) : ofName? c.name = some c := by cases c <;> rfl

end Choice

structure Node where
  id : NodeId
  kind : NodeKind
  label : String
deriving DecidableEq, Inhabited, Repr

structure Edge where
  source : NodeId
  target : NodeId
  kind : EdgeKind
  label : Option Choice
deriving DecidableEq, Inhabited, Repr

structure Graph where
  name : String
  nodes : List Node
  edges : List Edge
deriving DecidableEq, Inhabited, Repr

namespace Graph

def empty (name : String) : Graph := { name, nodes := [], edges := [] }

def addNode (g : Graph) (node : Node) : Graph := { g with nodes := g.nodes ++ [node] }

def addEdge (g : Graph) (edge : Edge) : Graph := { g with edges := g.edges ++ [edge] }

def node? (g : Graph) (id : NodeId) : Option Node := g.nodes.find? fun n => n.id = id

def successors (g : Graph) (id : NodeId) : List NodeId :=
  (g.edges.filter fun e => e.source = id).map (·.target)

def predecessors (g : Graph) (id : NodeId) : List NodeId :=
  (g.edges.filter fun e => e.target = id).map (·.source)

def outDegree (g : Graph) (id : NodeId) : Nat := (g.edges.filter fun e => e.source = id).length

def isReturn (g : Graph) (id : NodeId) : Bool :=
  match g.node? id with
  | some n => n.kind = .return
  | none => false

/-- The ids that a walk leads on to; no walk leads on from a return. -/
def onward (g : Graph) (id : NodeId) : List NodeId := if g.isReturn id then [] else g.successors id

/-- Collects what can be reached from the ids in the queue. Every step takes one id off the queue,
and an edge puts its target there at most once, so one step per edge and per id queued at first
suffices. -/
def reachFrom (g : Graph) : Nat → Std.HashSet NodeId → List NodeId → Std.HashSet NodeId
  | 0, seen, _ => seen
  | _ + 1, seen, [] => seen
  | fuel + 1, seen, id :: queue =>
      if seen.contains id then reachFrom g fuel seen queue
      else reachFrom g fuel (seen.insert id) (queue ++ g.onward id)

def live (g : Graph) : Std.HashSet NodeId := g.reachFrom (g.edges.length + 1) ∅ [.start]

/-- The nodes that can be reached only past a return; the end is never among them. -/
def nodesAfterReturn (g : Graph) : List Node :=
  let live := g.live
  g.nodes.filter fun n => n.id ≠ .finish && !live.contains n.id

def count (g : Graph) (kind : NodeKind) : Nat := (g.nodes.filter fun n => n.kind = kind).length

structure Stats where
  nodes : Nat
  edges : Nat
  returns : Nat
  decisions : Nat
  loops : Nat
  nodesAfterReturn : Nat
deriving DecidableEq, Inhabited, Repr

def stats (g : Graph) : Stats :=
  { nodes := g.nodes.length
    edges := g.edges.length
    returns := g.count .return
    decisions := g.count .decision
    loops := g.count .loop
    nodesAfterReturn := g.nodesAfterReturn.length }

end Graph

end Flowgraph
