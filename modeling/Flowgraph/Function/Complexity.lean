import Flowgraph.Syntax.Cursor

/-!
# Complexity

One more than the number of places in a piece of syntax where the path through it divides, nested
functions included, and the tier that a score belongs to.
-/

namespace Flowgraph

namespace SyntaxTree

/-- The operators that evaluate their right side only sometimes. -/
def isLogical (operator : String) : Bool := operator = "&&" || operator = "||" || operator = "??"

def dividingKinds : List String :=
  ["if_statement", "for_statement", "for_in_statement", "while_statement", "do_statement",
   "switch_case", "switch_default", "catch_clause", "ternary_expression"]

def isDecision (t : SyntaxTree) : Bool :=
  dividingKinds.contains t.kind ||
    (t.kind = "binary_expression" &&
      (match t.childByField "operator" with
        | some operator => isLogical operator.kind
        | none => false))

mutual

def decisions : SyntaxTree → Nat
  | .node info children =>
      (if (node info children).isDecision then 1 else 0) + decisionsAmong children

def decisionsAmong : List SyntaxTree → Nat
  | [] => 0
  | t :: rest => decisions t + decisionsAmong rest

end

def baseComplexity : Nat := 1

/-- The score of a tree, counted by a cursor that walks through it. -/
def complexity (t : SyntaxTree) : Nat := (Cursor.on t).countFrom isDecision baseComplexity

/-- The score of a function node: that of its body, if it has one. -/
def functionComplexity (t : SyntaxTree) : Nat :=
  match t.childByField "body" with
  | some body => body.complexity
  | none => baseComplexity

end SyntaxTree

/-- The scores from which a function counts as of medium and of high complexity. -/
structure Thresholds where
  medium : Nat
  high : Nat
deriving DecidableEq, Inhabited, Repr

inductive Tier where
  | low
  | medium
  | high
deriving DecidableEq, Inhabited, Repr

namespace Tier

def ofScore (score : Nat) (thresholds : Thresholds) : Tier :=
  if score < thresholds.medium then .low
  else if score < thresholds.high then .medium
  else .high

def name : Tier → String
  | .low => "low"
  | .medium => "medium"
  | .high => "high"

def color : Tier → String
  | .low => "green"
  | .medium => "orange"
  | .high => "red"

end Tier

end Flowgraph
