import Flowgraph.Analysis
import Flowgraph.CommandLine.Arguments
import Flowgraph.Graph.Mermaid
import Flowgraph.Text.Position
import Flowgraph.Yaml.Reading

/-!
# Running a call

What a call writes and how it ends, as a function of its arguments and of the files it can see.
Drawings go to the standard output; titles, statistics and failures to the standard error.
-/

namespace Flowgraph.CommandLine

inductive FileContent where
  | text (text : String)
  /-- The path leads nowhere. -/
  | absent (reason : String)
  /-- There is something, but no text. -/
  | unreadable (reason : String)
deriving DecidableEq, Inhabited

abbrev Files := String → FileContent

inductive Fault where
  | unreadable (path reason : String)
  | unreadableConfig (path reason : String)
  | badConfig (path : String)
  | override (fault : Settings.OverrideFault)
  | analysis (failure : Failure)
  | unknownLanguage (name : String)
  | position (fault : Location.Fault)
  | noRange (nodeId : String)
  | outside (span : Span) (file : String) (size : Nat)
  | notBoundary (span : Span)
deriving DecidableEq, Inhabited

def rangeText (span : Span) : String :=
  "range " ++ Numeral.render span.start ++ ".." ++ Numeral.render span.stop

def Fault.message : Fault → String
  | .unreadable path reason => "Failed to read " ++ path ++ ": " ++ reason
  | .unreadableConfig path reason => "Failed to read config " ++ path ++ ": " ++ reason
  | .badConfig path => "Invalid config structure in " ++ path
  | .override fault => fault.message
  | .analysis failure => failure.message
  | .unknownLanguage name =>
      "unknown language \x60" ++ name ++ "\x60 (expected js, ts or tsx)"
  | .position fault => fault.message
  | .noRange nodeId => "node \x60" ++ nodeId ++ "\x60 has no source range"
  | .outside span file size =>
      rangeText span ++ " is outside " ++ file ++ " (" ++ Numeral.render size ++ " bytes)"
  | .notBoundary span => rangeText span ++ " is not on a character boundary"

/-- Failures outside of the analyzer are the user's to mend too. -/
def Fault.isUserFacing : Fault → Bool
  | .analysis failure => failure.isUserFacing
  | _ => true

structure Outcome where
  exit : Nat
  stdout : String
  stderr : String
deriving DecidableEq, Inhabited, Repr

structure Output where
  stdout : String
  stderr : String
deriving DecidableEq, Inhabited

/-- The settings in a file; without a file, the standard ones. -/
def loadSettings (files : Files) (path : String) : Except Fault Settings :=
  match files path with
  | .absent _ => .ok .standard
  | .unreadable reason => .error (.unreadableConfig path reason)
  | .text text =>
      match Settings.ofYaml? text with
      | some settings => .ok settings
      | none => .error (.badConfig path)

def readSource (files : Files) (path : String) : Except Fault String :=
  match files path with
  | .text text => .ok text
  | .absent reason | .unreadable reason => .error (.unreadable path reason)

/-- The language that is asked for, or else the one of the file, or else JavaScript. -/
def resolveLanguage (file : String) (name : Option String) : Except Fault Language :=
  match name with
  | some name =>
      match Language.ofName? name with
      | some language => .ok language
      | none => .error (.unknownLanguage name)
  | none => .ok ((Language.ofPath? file).getD .javaScript)

def cursorOffset (source : String) : Cursor → Except Fault Nat
  | .none => .ok 0
  | .offset offset => .ok offset
  | .position text =>
      match Location.resolve source text with
      | .ok offset => .ok offset
      | .error fault => .error (.position fault)

def title (v : Visualization) (settings : Settings) : String :=
  v.functionName ++ " " ++ Numeral.render v.complexityScore ++ " (Complexity) [" ++
    (v.tier settings.thresholds).name ++ "]\n"

def statsLine (s : Graph.Stats) : String :=
  Numeral.render s.nodes ++ " nodes, " ++ Numeral.render s.edges ++ " edges, " ++
    Numeral.render s.decisions ++ " decisions, " ++ Numeral.render s.loops ++ " loops, " ++
    Numeral.render s.returns ++ " returns, " ++ Numeral.render s.nodesAfterReturn ++
    " after return\n"

def graphText (analyzer : Analyzer) (format : OutputFormat) (analysis : Analysis) : String :=
  match format with
  | .mermaid => analysis.graph.toMermaid
  | .dot | .json => analyzer.render analysis.graph

def output (analyzer : Analyzer) (format : OutputFormat) (stats : Bool) (analysis : Analysis) :
    Output :=
  let v := analysis.visualization (graphText analyzer format analysis)
  let tail := if stats then statsLine analysis.graph.stats else ""
  match format with
  | .json => { stdout := v.toJson.pretty 0 ++ "\n", stderr := tail }
  | .dot | .mermaid =>
      { stdout := String.ofList (Text.trimEnd v.graphText.toList) ++ "\n"
        stderr := title v analyzer.settings ++ tail }

def visualize (files : Files) (analyzer : Analyzer) (file : String) (cursor : Cursor)
    (language : Option String) (format : OutputFormat) (stats : Bool) : Except Fault Output := do
  let source ← readSource files file
  let language ← resolveLanguage file language
  let offset ← cursorOffset source cursor
  match analyzer.analyze source offset language with
  | .ok analysis => return output analyzer format stats analysis
  | .error failure => throw (.analysis failure)

def placeText (place : Location) : String :=
  Numeral.render place.line ++ ":" ++ Numeral.render place.column

/-- Shows the source range that a node id stands for. -/
def reveal (files : Files) (file nodeId : String) : Except Fault Output := do
  let source ← readSource files file
  match NodeId.revealedSpan? nodeId with
  | none => throw (.noRange nodeId)
  | some span =>
      let size := Text.byteSize source.toList
      if span.stop < span.start ∨ size < span.stop then throw (.outside span file size)
      match Text.slice? source.toList span with
      | none => throw (.notBoundary span)
      | some text =>
          return { stdout := file ++ ":" ++ placeText (.ofOffset source span.start) ++ "-" ++
                     placeText (.ofOffset source span.stop) ++ "\n" ++ String.ofList text ++ "\n"
                   stderr := "" }

def execute (files : Files) (call : Invocation) : Except Fault Output := do
  let settings ← loadSettings files call.config
  match settings.overrideAll call.sets with
  | (_, some fault) => throw (.override fault)
  | (settings, none) =>
      match call.command with
      | .reveal file nodeId => reveal files file nodeId
      | .visualize file cursor language format stats =>
          match Analyzer.ofSettings settings with
          | .error failure => throw (.analysis failure)
          | .ok analyzer => visualize files analyzer file cursor language format stats

def report (fault : Fault) : String :=
  if fault.isUserFacing then "error: " ++ fault.message ++ "\n"
  else
    "internal error: " ++ fault.message ++
      "\nThis is a bug in codeviz. Re-run with --verbose and report it.\n"

def usage : String :=
  "Draw the control flow of the function under the cursor.\n\n" ++
    "Usage: codeviz [OPTIONS] <COMMAND>\n\nCommands:\n" ++
    "  visualize <FILE> [--offset <N> | --at <LINE:COL>] [--language <js|ts|tsx>]\n" ++
    "            [--format <dot|json|mermaid>] [--stats]\n" ++
    "  reveal <FILE> --node-id <ID>\n\nOptions:\n" ++
    "  --config <CONFIG>     --set [<KEY=VALUE>...]     -v, --verbose\n"

def run (files : Files) (args : List String) : Outcome :=
  match Invocation.read args with
  | .error .usage => { exit := 2, stdout := "", stderr := usage }
  | .error .help => { exit := 0, stdout := usage, stderr := "" }
  | .error .version => { exit := 0, stdout := "codeviz 0.1.0\n", stderr := "" }
  | .ok call =>
      match execute files call with
      | .ok out => { exit := 0, stdout := out.stdout, stderr := out.stderr }
      | .error fault => { exit := 1, stdout := "", stderr := report fault }

end Flowgraph.CommandLine
