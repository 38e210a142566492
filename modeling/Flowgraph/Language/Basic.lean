import Flowgraph.Text.Path

/-!
# Source languages

The languages that can be parsed, and how one is chosen: by the extension of a file, by a name that
a person gives, or by its tag in a request.
-/

namespace Flowgraph

inductive Language where
  | javaScript
  | typeScript
  | tsx
deriving DecidableEq, Inhabited, Repr

namespace Language

def name : Language → String
  | .javaScript => "javascript"
  | .typeScript => "typescript"
  | .tsx => "tsx"

def tag : Language → String
  | .javaScript => "java-script"
  | .typeScript => "type-script"
  | .tsx => "tsx"

def ofTag? : String → Option Language
  | "java-script" => some .javaScript
  | "type-script" => some .typeScript
  | "tsx" => some .tsx
  | _ => none

theorem ofTag?_tag (l : Language) : ofTag? l.tag = some l := by cases l <;> rfl

/-- The language that a name stands for, blanks around it and case aside. -/
def ofName? (name : String) : Option Language :=
  match String.ofList ((Text.trim name.toList).map Char.toLower) with
  | "js" | "javascript" | "jsx" => some .javaScript
  | "ts" | "typescript" => some .typeScript
  | "tsx" => some .tsx
  | _ => none

/-- The language of files with a given extension, case aside. -/
def ofExtension? (extension : List Char) : Option Language :=
  match String.ofList (extension.map Char.toLower) with
  | "js" | "mjs" | "cjs" | "jsx" => some .javaScript
  | "ts" | "mts" | "cts" => some .typeScript
  | "tsx" => some .tsx
  | _ => none

def ofPath? (path : String) : Option Language :=
  (Path.extension? path.toList).bind ofExtension?

end Language

end Flowgraph
