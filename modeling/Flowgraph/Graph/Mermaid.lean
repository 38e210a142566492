import Flowgraph.Graph.Basic

/-!
# Drawings in the Mermaid language

A graph is written as a flowchart: a header, a line per node and a line per edge. Nodes are called
by their places in the node list.
-/

namespace Flowgraph

namespace Mermaid

def substitute (c : Char) (entity : String) (text : List Char) : List Char :=
  text.flatMap fun d => if d = c then entity.toList else [d]

/-- A label as it stands in a drawing. A quote would end the label, and a number sign begins an
entity. The number signs come first, so that those of the entities for quotes are left alone. -/
def escape (label : String) : String :=
  String.ofList (substitute '"' "#quot;" (substitute '#' "#35;" label.toList))

/-- The brackets around the label of a node of a kind; merges and exits show no label. -/
def brackets : NodeKind → String × String
  | .decision => ("\x7b\"", "\"\x7d")
  | .loop => ("\x7b\x7b\"", "\"\x7d\x7d")
  | .return => ("([\"", "\"])")
  | .io => ("[/\"", "\"/]")
  | .merge | .exit => ("((", "))")
  | .entry | .terminal => ("((\"", "\"))")
  | .statement => ("[\"", "\"]")

def shownLabel (n : Node) : String :=
  match n.kind with
  | .merge | .exit => " "
  | _ => escape n.label

def nodeLine (n : Node) (place : Nat) : String :=
  let (opening, closing) := brackets n.kind
  "    N" ++ Numeral.render place ++ opening ++ shownLabel n ++ closing

def shaft : EdgeKind → String
  | .loopBack => " -.->"
  | .fallthrough => " -->"

/-- What is written at an arrow, with the blank behind it. -/
def inscription : Option Choice → String
  | some label => "|" ++ label.name ++ "| "
  | none => " "

def arrow (e : Edge) : String := shaft e.kind ++ inscription e.label

/-- The place of the first node with an id; an id that no node has counts as the first. -/
def place (g : Graph) (id : NodeId) : Nat := (g.nodes.findIdx? fun n => n.id = id).getD 0

def edgeLine (g : Graph) (e : Edge) : String :=
  "    N" ++ Numeral.render (place g e.source) ++ arrow e ++ "N" ++
    Numeral.render (place g e.target)

def lines (g : Graph) : List String :=
  "flowchart TD" :: (g.nodes.zipIdx.map fun (n, i) => nodeLine n i) ++ g.edges.map (edgeLine g)

end Mermaid

/-- The graph in the Mermaid language, a line feed between the lines. -/
def Graph.toMermaid (g : Graph) : String := "\n".intercalate (Mermaid.lines g)

end Flowgraph
