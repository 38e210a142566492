import Flowgraph.Settings.Basic
import Flowgraph.Text.Blank

/-!
# Overriding settings

An override `KEY=VALUE` replaces one setting. Overrides are applied from left to right, up to the
first one whose value is refused. Empty and unknown keys change nothing.
-/

namespace Flowgraph.Settings

/-- The value of an override is not a number, or is too large a one. -/
structure OverrideFault where
  key : String
  value : String
  cause : Numeral.Fault
deriving DecidableEq, Inhabited

/-- What is said of the value, without the reason. -/
def OverrideFault.context (fault : OverrideFault) : String :=
  fault.key ++ " expects a number, got \x60" ++ fault.value ++ "\x60"

def OverrideFault.message (fault : OverrideFault) : String :=
  fault.context ++ ": " ++ fault.cause.message

/-- The key and the value of an override, without the blanks around them. Without an equals sign the
value is empty. -/
def splitOverride (text : String) : String × String :=
  let (key, value) := (Text.splitOnce '=' text.toList).getD (text.toList, [])
  (String.ofList (Text.trim key), String.ofList (Text.trim value))

/-- The pieces of a text between commas that are not blank. -/
def splitPatterns (value : String) : List String :=
  (((Text.fields ',' value.toList).map Text.trim).filter (!·.isEmpty)).map String.ofList

def overrideNumber (bound : Nat) (key value : String) : Except OverrideFault Nat :=
  match Numeral.read bound value.toList with
  | .ok n => .ok n
  | .error cause => .error { key, value, cause }

def setKey (s : Settings) (key value : String) : Except OverrideFault Settings :=
  match key with
  | "snippet_width" =>
      (overrideNumber Numeral.max64 key value).map fun n => { s with snippetWidth := n }
  | "complexity.medium" =>
      (overrideNumber Numeral.max32 key value).map fun n =>
        { s with thresholds := { s.thresholds with medium := n } }
  | "complexity.high" =>
      (overrideNumber Numeral.max32 key value).map fun n =>
        { s with thresholds := { s.thresholds with high := n } }
  | "io_patterns" => .ok { s with ioPatterns := splitPatterns value }
  | "layout.rank_dir" => .ok { s with layout := { s.layout with rankDir := value } }
  | "layout.splines" => .ok { s with layout := { s.layout with splines := value } }
  | "layout.font_name" => .ok { s with layout := { s.layout with fontName := value } }
  | _ => .ok s

def override (s : Settings) (text : String) : Except OverrideFault Settings :=
  let (key, value) := splitOverride text
  s.setKey key value

/-- Applies overrides in turn; the settings are those before the first one that is refused. -/
def overrideAll (s : Settings) : List String → Settings × Option OverrideFault
  | [] => (s, none)
  | text :: rest =>
      match s.override text with
      | .ok s => overrideAll s rest
      | .error fault => (s, some fault)

end Flowgraph.Settings
