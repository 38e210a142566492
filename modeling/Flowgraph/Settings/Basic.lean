import Flowgraph.Failure
import Flowgraph.Function.Complexity
import Flowgraph.Graph.Dot
import Flowgraph.Graph.Labels
import Flowgraph.Regex.Compile

/-!
# Settings

How wide labels are, which statements perform input or output, from which scores a function counts
as complex, and how a drawing is laid out. Settings can be written down that cannot be used;
`validate` finds the first reason why.
-/

namespace Flowgraph

structure Settings where
  snippetWidth : Nat
  ioPatterns : List String
  thresholds : Thresholds
  layout : Layout
deriving DecidableEq, Inhabited, Repr

namespace Settings

/-- The settings of somebody who has given none. Calls of methods of `console` are output. -/
def standard : Settings :=
  { snippetWidth := 20
    ioPatterns := ["\\bconsole\\s*\\.\\s*[A-Za-z_$][\\w$]*\\s*\\("]
    thresholds := { medium := 5, high := 10 }
    layout := { rankDir := "TB", splines := "polyline", fontName := "Helvetica" } }

def rankDirs : List String := ["TB", "LR", "BT", "RL"]

def splinesModes : List String :=
  ["none", "line", "false", "polyline", "curved", "ortho", "spline", "true"]

inductive Fault where
  | zeroWidth
  | reversedThresholds (thresholds : Thresholds)
  | unknownRankDir (name : String)
  | unknownSplines (name : String)
  | badPattern (pattern : String) (fault : Pattern.Fault)
deriving DecidableEq, Inhabited

namespace Fault

def oneOf (what : String) (words : List String) (got : String) : String :=
  what ++ " must be one of " ++ "|".intercalate words ++ ", got \x60" ++ got ++ "\x60"

def message : Fault → String
  | .zeroWidth => "snippet_width must be at least 1"
  | .reversedThresholds t =>
      "complexity.medium (" ++ Numeral.render t.medium ++ ") must not exceed complexity.high (" ++
        Numeral.render t.high ++ ")"
  | .unknownRankDir name => oneOf "layout.rank_dir" rankDirs name
  | .unknownSplines name => oneOf "layout.splines" splinesModes name
  | .badPattern pattern _ => "invalid io pattern \x60" ++ pattern ++ "\x60"

def failure (fault : Fault) : Failure :=
  match fault with
  | .badPattern pattern cause => .config fault.message (some (cause.report pattern))
  | _ => .config fault.message none

end Fault

/-- The first fault of a layout. Both words are written without quotes, so they must be known. -/
def layoutFault? (layout : Layout) : Option Fault :=
  if !rankDirs.contains layout.rankDir then some (.unknownRankDir layout.rankDir)
  else if !splinesModes.contains layout.splines then some (.unknownSplines layout.splines)
  else none

def fault? (s : Settings) : Option Fault :=
  if s.snippetWidth = 0 then some .zeroWidth
  else if s.thresholds.high < s.thresholds.medium then some (.reversedThresholds s.thresholds)
  else layoutFault? s.layout

def validate (s : Settings) : Except Failure Unit :=
  match s.fault? with
  | some fault => .error fault.failure
  | none => .ok ()

def readPatterns : List String → Except Failure (List Pattern)
  | [] => .ok []
  | text :: rest =>
      match Pattern.read text with
      | .error cause => .error (Fault.badPattern text cause).failure
      | .ok p => (readPatterns rest).map (p :: ·)

end Settings

/-- The label rules of settings, which need not be valid otherwise. -/
def LabelRules.ofSettings (s : Settings) : Except Failure LabelRules :=
  (Settings.readPatterns s.ioPatterns).map fun patterns =>
    { width := s.snippetWidth, ioPatterns := patterns }

end Flowgraph
