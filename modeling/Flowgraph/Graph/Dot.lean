import Flowgraph.Graph.Basic

/-!
# Drawings in the dot language

A graph is written as a digraph: a header, a line per node and a line per edge, in order. Labels are
quoted so that no label can end its quotes early.
-/

namespace Flowgraph

structure Layout where
  rankDir : String
  splines : String
  fontName : String
deriving DecidableEq, Inhabited, Repr

namespace NodeKind

def shape : NodeKind → String
  | .entry | .terminal => "ellipse"
  | .decision => "diamond"
  | .loop => "hexagon"
  | .return | .statement => "box"
  | .io => "parallelogram"
  | .merge | .exit => "point"

def style : NodeKind → String
  | .return => "rounded,filled"
  | _ => "filled"

def borderColor : NodeKind → String
  | .entry => "#2E7D32"
  | .decision => "#F0AD4E"
  | .loop => "#0288D1"
  | .return => "#DC3545"
  | .statement => "#6C757D"
  | .io => "#5E35B1"
  | .merge => "#6C757D"
  | .exit => "#0288D1"
  | .terminal => "#343A40"

def fillColor : NodeKind → String
  | .entry => "#C8E6C9"
  | .decision => "#FFF3CD"
  | .loop => "#E1F5FE"
  | .return => "#F8D7DA"
  | .statement => "#FFFFFF"
  | .io => "#EDE7F6"
  | .merge => "#6C757D"
  | .exit => "#0288D1"
  | .terminal => "#343A40"

def fontColor? : NodeKind → Option String
  | .terminal => some "#FFFFFF"
  | _ => none

def isPoint : NodeKind → Bool
  | .merge | .exit => true
  | _ => false

end NodeKind

namespace Dot

/-- A character as it stands between quotes. A line break would end the line and becomes a blank. -/
def escapeChar (c : Char) : List Char :=
  if c = '\\' then ['\\', '\\']
  else if c = '"' then ['\\', '"']
  else if c = '\n' ∨ c = '\r' then [' ']
  else [c]

def escape (text : String) : String := String.ofList (text.toList.flatMap escapeChar)

def quote (text : String) : String := "\"" ++ text ++ "\""

def nodeLine (n : Node) : String :=
  "  " ++ quote n.id.render ++ " [label=" ++ quote (escape n.label) ++ ", shape=" ++ n.kind.shape ++
    ", style=" ++ quote n.kind.style ++ ", fillcolor=" ++ quote n.kind.fillColor ++
    ", color=" ++ quote n.kind.borderColor ++
    (if n.kind.isPoint then ", width=0.15" else "") ++
    (match n.kind.fontColor? with
      | some color => ", fontcolor=" ++ quote color
      | none => "") ++ "];"

def edgeAttributes (e : Edge) : List String :=
  (match e.label with
    | some label => ["label=" ++ quote label.name]
    | none => []) ++
  (match e.kind with
    | .loopBack => ["style=dashed", "constraint=false"]
    | .fallthrough => [])

def edgeLine (e : Edge) : String :=
  "  " ++ quote e.source.render ++ " -> " ++ quote e.target.render ++
    (match edgeAttributes e with
      | [] => ""
      | attributes => " [" ++ ", ".intercalate attributes ++ "]") ++ ";"

def lines (g : Graph) (layout : Layout) : List String :=
  ["digraph CFG \x7b",
   "  rankdir=" ++ layout.rankDir ++ ";",
   "  splines=" ++ layout.splines ++ ";",
   "  node [fontname=" ++ quote (escape layout.fontName) ++ ", fontsize=10];",
   "  edge [fontname=" ++ quote (escape layout.fontName) ++ ", fontsize=9];"] ++
    g.nodes.map nodeLine ++ g.edges.map edgeLine ++ ["\x7d"]

end Dot

/-- The graph in the dot language, each line ended by a line feed. -/
def Graph.toDot (g : Graph) (layout : Layout) : String :=
  String.join ((Dot.lines g layout).map (· ++ "\n"))

end Flowgraph
