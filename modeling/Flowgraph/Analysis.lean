import Flowgraph.Function.Lower
import Flowgraph.Graph.Drawing
import Flowgraph.Json.Printer
import Flowgraph.Language.Dialect
import Flowgraph.Settings.Basic
import Flowgraph.Syntax.Failure

/-!
# Analyses

An analyzer holds settings that have been checked. From a source text and the place of a cursor it
finds the function, scores it, and draws its graph.
-/

namespace Flowgraph

def parseSource (source : String) (language : Language) : Except Failure SyntaxTree :=
  match language.dialect.parse source with
  | none => .error (.parse SyntaxFault.noTree.message)
  | some tree =>
      match SyntaxFault.ofTree? source tree with
      | some fault => .error (.parse fault.message)
      | none => .ok tree

def locateFunction (root : SyntaxTree) (offset : Nat) : Except Failure SyntaxTree :=
  match root.locate offset with
  | some node => .ok node
  | none => .error .noFunction

structure Analysis where
  function : Function
  complexity : Nat
  graph : Graph
deriving Inhabited

def analyzeTree (rules : LabelRules) (source : String) (root : SyntaxTree) (offset : Nat) :
    Except Failure Analysis :=
  match locateFunction root offset with
  | .error failure => .error failure
  | .ok node =>
      match node.function? source with
      | none => .error .noFunction
      | some function =>
          .ok { function, complexity := node.functionComplexity, graph := function.graph rules }

structure Request where
  sourceText : String
  /-- The byte offset of the cursor; zero stands for the first function. -/
  cursorOffset : Nat
  language : Language
deriving DecidableEq, Inhabited, Repr

structure Visualization where
  graphText : String
  complexityScore : Nat
  functionName : String
deriving DecidableEq, Inhabited, Repr

def Visualization.toJson (v : Visualization) : Json :=
  .object [
    ("graphText", .text v.graphText), ("complexityScore", .nat v.complexityScore),
    ("functionName", .text v.functionName)]

def Visualization.tier (v : Visualization) (thresholds : Thresholds) : Tier :=
  .ofScore v.complexityScore thresholds

def Analysis.visualization (a : Analysis) (graphText : String) : Visualization :=
  { graphText, complexityScore := a.complexity, functionName := a.function.name }

/-- Settings that have been checked, with their patterns read. -/
structure Analyzer where
  settings : Settings
  rules : LabelRules
deriving Inhabited

namespace Analyzer

def ofSettings (s : Settings) : Except Failure Analyzer :=
  match s.validate with
  | .error failure => .error failure
  | .ok () => (LabelRules.ofSettings s).map fun rules => { settings := s, rules }

def analyze (a : Analyzer) (source : String) (offset : Nat) (language : Language) :
    Except Failure Analysis :=
  match parseSource source language with
  | .error failure => .error failure
  | .ok root => analyzeTree a.rules source root offset

def render (a : Analyzer) (g : Graph) : String := g.toDot a.settings.layout

def visualize (a : Analyzer) (request : Request) : Except Failure Visualization :=
  (a.analyze request.sourceText request.cursorOffset request.language).map fun analysis =>
    analysis.visualization (a.render analysis.graph)

end Analyzer

end Flowgraph
