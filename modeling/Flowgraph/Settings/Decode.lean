import Flowgraph.Json.Value
import Flowgraph.Settings.Basic

/-!
# Reading and writing settings

Settings are read from a document of one of several formats. What is not given has its standard
value, at each level on its own; what is given must have the right type and range.
-/

namespace Flowgraph

/-- How the values of a document format are looked at. -/
structure Reading (Value : Type) where
  /-- A natural number of at most the given bound. -/
  nat? : Nat → Value → Option Nat
  text? : Value → Option String
  list? : Value → Option (List Value)
  /-- The fields of a record in the order of their names, where they are given. -/
  fields? : List String → Value → Option (List (Option Value))

def Json.reading : Reading Json :=
  { nat? := Json.nat?, text? := Json.text?, list? := Json.array?, fields? := Json.fields? }

namespace Settings

/-- A field that is given is decoded, and one that is not has its standard value. -/
def filled {Value α : Type} (decode : Value → Option α) (standard : α) :
    Option Value → Option α
  | some value => decode value
  | none => some standard

section
variable {Value : Type} (r : Reading Value)

def thresholdsOf? (value : Value) : Option Thresholds := do
  match ← r.fields? ["medium", "high"] value with
  | [medium, high] =>
      let medium ← filled (r.nat? Numeral.max32) standard.thresholds.medium medium
      let high ← filled (r.nat? Numeral.max32) standard.thresholds.high high
      return { medium, high }
  | _ => none

def layoutOf? (value : Value) : Option Layout := do
  match ← r.fields? ["rank_dir", "splines", "font_name"] value with
  | [rankDir, splines, fontName] =>
      let rankDir ← filled r.text? standard.layout.rankDir rankDir
      let splines ← filled r.text? standard.layout.splines splines
      let fontName ← filled r.text? standard.layout.fontName fontName
      return { rankDir, splines, fontName }
  | _ => none

def textsOf? (value : Value) : Option (List String) := do
  (← r.list? value).mapM r.text?

def of? (value : Value) : Option Settings := do
  match ← r.fields? ["snippet_width", "io_patterns", "complexity", "layout"] value with
  | [width, patterns, complexity, layout] =>
      let snippetWidth ← filled (r.nat? Numeral.max64) standard.snippetWidth width
      let ioPatterns ← filled (textsOf? r) standard.ioPatterns patterns
      let thresholds ← filled (thresholdsOf? r) standard.thresholds complexity
      let layout ← filled (layoutOf? r) standard.layout layout
      return { snippetWidth, ioPatterns, thresholds, layout }
  | _ => none

end

def ofJson? (value : Json) : Option Settings := of? Json.reading value

def toJson (s : Settings) : Json :=
  .object [
    ("snippet_width", .nat s.snippetWidth),
    ("io_patterns", .array (s.ioPatterns.map .text)),
    ("complexity",
      .object [("medium", .nat s.thresholds.medium), ("high", .nat s.thresholds.high)]),
    ("layout",
      .object [
        ("rank_dir", .text s.layout.rankDir),
        ("splines", .text s.layout.splines),
        ("font_name", .text s.layout.fontName)])]

end Settings

end Flowgraph
