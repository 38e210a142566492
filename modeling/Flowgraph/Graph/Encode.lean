import Flowgraph.Graph.Basic
import Flowgraph.Json.Value

/-!
# Graphs as JSON

A graph is an object with its name, nodes and edges; ids are texts. When one is read, records may
also be arrays of their fields, ids may be written with plus signs and further zeros, and a single
id that is none rejects the whole graph.
-/

namespace Flowgraph

def NodeId.toJson (id : NodeId) : Json := .text id.render

def NodeId.ofJson? (value : Json) : Option NodeId := value.text?.bind NodeId.read?

def Node.toJson (n : Node) : Json :=
  .object [("id", n.id.toJson), ("kind", .text n.kind.name), ("label", .text n.label)]

def Node.ofJson? (value : Json) : Option Node := do
  match ← value.fields? ["id", "kind", "label"] with
  | [some id, some kind, some label] =>
      let id ← NodeId.ofJson? id
      let kind ← kind.variant?.bind NodeKind.ofName?
      let label ← label.text?
      return { id, kind, label }
  | _ => none

def Edge.toJson (e : Edge) : Json :=
  .object [
    ("from", e.source.toJson), ("to", e.target.toJson), ("kind", .text e.kind.name),
    ("label", Json.ofOption (fun c => .text c.name) e.label)]

/-- The label of an edge; null stands for none. -/
def Choice.ofJson? : Json → Option (Option Choice)
  | .null => some none
  | value => (value.variant?.bind Choice.ofName?).map some

/-- The label in the fields of an edge. An edge given as an object may leave out its label, one
given as an array may not. -/
def Edge.labelOf? (value : Json) : Option Json → Option (Option Choice)
  | some label => Choice.ofJson? label
  | none =>
      match value with
      | .object _ => some none
      | _ => none

def Edge.ofJson? (value : Json) : Option Edge := do
  match ← value.fields? ["from", "to", "kind", "label"] with
  | [some source, some target, some kind, label] =>
      let source ← NodeId.ofJson? source
      let target ← NodeId.ofJson? target
      let kind ← kind.variant?.bind EdgeKind.ofName?
      let label ← Edge.labelOf? value label
      return { source, target, kind, label }
  | _ => none

namespace Graph

def toJson (g : Graph) : Json :=
  .object [
    ("name", .text g.name), ("nodes", .array (g.nodes.map Node.toJson)),
    ("edges", .array (g.edges.map Edge.toJson))]

def ofJson? (value : Json) : Option Graph := do
  match ← value.fields? ["name", "nodes", "edges"] with
  | [some name, some nodes, some edges] =>
      let name ← name.text?
      let nodes ← (← nodes.array?).mapM Node.ofJson?
      let edges ← (← edges.array?).mapM Edge.ofJson?
      return { name, nodes, edges }
  | _ => none

def Stats.toJson (s : Stats) : Json :=
  .object [
    ("nodes", .nat s.nodes), ("edges", .nat s.edges), ("returns", .nat s.returns),
    ("decisions", .nat s.decisions), ("loops", .nat s.loops),
    ("nodes_after_return", .nat s.nodesAfterReturn)]

end Graph

end Flowgraph
