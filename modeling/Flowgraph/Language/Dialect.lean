import Flowgraph.Language.Basic
import Flowgraph.Language.Scanner
import Flowgraph.Language.TypeScript
import Flowgraph.Syntax.Concrete

/-!
# The dialects

The parsing tables of each language, built once.
-/

namespace Flowgraph

namespace Dialect

def javaScript : Dialect :=
  { tables := Tables.build (Grammar.compile JavaScript.source), scan := Scanner.javaScript }

def typeScript : Dialect :=
  { tables := Tables.build (Grammar.compile (TypeScript.source false)), scan := Scanner.typeScript }

def tsx : Dialect :=
  { tables := Tables.build (Grammar.compile (TypeScript.source true)), scan := Scanner.typeScript }

end Dialect

def Language.dialect : Language → Dialect
  | .javaScript => .javaScript
  | .typeScript => .typeScript
  | .tsx => .tsx

end Flowgraph
