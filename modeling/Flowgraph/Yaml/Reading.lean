import Flowgraph.Settings.Decode
import Flowgraph.Yaml.Node

/-!
# Settings in YAML

What the nodes of a YAML document stand for where numbers, texts, lists and records are expected.
Any scalar is a text, as it is written. An empty plain scalar is also the empty list and the record
without fields; a list is never a record.
-/

namespace Flowgraph.Yaml

def digitsValue? (radix : Nat) (digits : List Char) : Option Nat :=
  if digits.isEmpty then none
  else
    digits.foldlM (fun n c =>
      match Scanner.hexValue? c with
      | some d => if d < radix then some (radix * n + d) else none
      | none => none) 0

/-- Digits with a superfluous zero in front are a text, not a number. -/
def isPadded (digits : List Char) : Bool :=
  match digits with
  | '0' :: _ :: _ => digits.all Char.isDigit
  | _ => false

/-- The value of a number without its sign: decimal, or with `0x`, `0o` or `0b` in front. -/
def unsigned? : List Char → Option Nat
  | '0' :: 'x' :: rest => digitsValue? 16 rest
  | '0' :: 'o' :: rest => digitsValue? 8 rest
  | '0' :: 'b' :: rest => digitsValue? 2 rest
  | text => if isPadded text then none else digitsValue? 10 text

/-- The natural number that a scalar is written as. A plus sign may stand in front, but no minus
sign, not even before zero. -/
def natural? : List Char → Option Nat
  | '+' :: rest => unsigned? rest
  | text => unsigned? text

def intTag : String := "tag:yaml.org,2002:int"

/-- A plain scalar can be a number whatever its tag, and a literal one if its tag says so. -/
def mayBeNumber (style : ScalarStyle) (tag : Option String) : Bool :=
  style = .plain || (style = .literal && tag = some intTag)

def Node.nat? (bound : Nat) : Node → Option Nat
  | .scalar text style tag =>
      if mayBeNumber style tag then (natural? text.toList).filter (· ≤ bound) else none
  | _ => none

def Node.text? : Node → Option String
  | .scalar text _ _ => some text
  | _ => none

def Node.isAbsent : Node → Bool
  | .scalar text style _ => style = .plain && text.isEmpty
  | _ => false

def Node.list? (n : Node) : Option (List Node) :=
  match n with
  | .sequence items => some items
  | n => if n.isAbsent then some [] else none

/-- The value of a name in a mapping, which may hold it once. -/
def single? (entries : List (String × Node)) (name : String) : Option (Option Node) :=
  match (entries.filter fun e => e.1 = name).map (·.2) with
  | [] => some none
  | [value] => some (some value)
  | _ => none

/-- The fields of a mapping, whose keys must all be scalars. -/
def Node.fields? (names : List String) (n : Node) : Option (List (Option Node)) :=
  match n with
  | .mapping entries => do
      let entries ← entries.mapM fun (key, value) => key.text?.map fun name => (name, value)
      names.mapM (single? entries)
  | n => if n.isAbsent then some (names.map fun _ => none) else none

def reading : Reading Node :=
  { nat? := Node.nat?, text? := Node.text?, list? := Node.list?, fields? := Node.fields? }

end Flowgraph.Yaml

namespace Flowgraph.Settings

/-- The settings that a YAML text stands for; an empty text stands for the standard ones. -/
def ofYaml? (text : String) : Option Settings :=
  match Yaml.read text with
  | some (some root) => of? Yaml.reading root
  | some none => some standard
  | none => none

end Flowgraph.Settings
