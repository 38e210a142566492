import Flowgraph.Grammar.Automaton
import Flowgraph.Parsing.Source

/-!
# Parse trees under construction

A subtree covers the text from `lead` to `stop`; the part before `start` is blank. It carries what
competing readings are compared by: the cost of the errors in it and the weight of its productions.
-/

namespace Flowgraph

/-- What a subtree stands for: a token, a production's result, or text that fits nowhere. -/
inductive SubtreeForm where
  | token
  | derived (production : Nat)
  | error
  | skipped
deriving DecidableEq, Inhabited

structure Subtree where
  form : SubtreeForm
  symbol : Sym
  lead : Nat
  start : Nat
  stop : Nat
  extra : Bool
  missing : Bool
  keyword : Bool
  cost : Nat
  weight : Int
  /-- The nodes below that appear in the tree, and those among the children. -/
  visibleBelow : Nat
  visibleChildren : Nat
  children : Array Subtree
deriving Inhabited

namespace Subtree

/-! ## Costs of errors -/

def recoveryCost : Nat := 500
def missingCost : Nat := 110
def skippedTreeCost : Nat := 100
def skippedCharCost : Nat := 1
def skippedLineCost : Nat := 30

/-- The symbols of text that fits nowhere; they lie above all symbols of a grammar. -/
def errorSymbol : Sym := 65535
def skippedSymbol : Sym := 65534

def isError (t : Subtree) : Bool := t.form = .error

def isEnd (t : Subtree) : Bool := t.form = .token && t.symbol = 0

def visible (g : Grammar) (t : Subtree) : Bool :=
  match t.form with
  | .error => true
  | .skipped => false
  | _ => match g.visibilityOf t.symbol with
    | .named | .anonymous => true
    | _ => false

def nodeCount (g : Grammar) (t : Subtree) : Nat :=
  t.visibleBelow + (if t.visible g then 1 else 0) + (if t.form = .skipped then 1 else 0)

def leaf (symbol : Sym) (lead start stop : Nat) (keyword : Bool) : Subtree :=
  { form := .token, symbol, lead, start, stop, extra := symbol = 0, missing := false, keyword
    cost := 0, weight := 0, visibleBelow := 0, visibleChildren := 0, children := #[] }

def missingLeaf (symbol : Sym) (pos : Nat) : Subtree :=
  { leaf symbol pos pos pos false with
    extra := false, missing := true, cost := missingCost + recoveryCost }

def errorLeaf (lead start stop : Nat) : Subtree :=
  { leaf errorSymbol lead start stop false with form := .error, extra := false }

def aliasAt (t : Tables) (production index : Nat) : Option Alias :=
  ((t.productions[production]?).bind (·.steps[index]?)).bind (·.shownAs)

def fieldAt (t : Tables) (production index : Nat) : Option String :=
  ((t.productions[production]?).bind (·.steps[index]?)).bind (·.field)

def node (t : Tables) (source : Source) (form : SubtreeForm) (symbol : Sym) (pos : Nat)
    (children : Array Subtree) : Subtree :=
  let g := t.grammar
  let erroneous := form = .error || form = .skipped
  let lead := ((children[0]?).map (·.lead)).getD pos
  let start := ((children[0]?).map (·.start)).getD pos
  let stop := ((children.back?).map (·.stop)).getD pos
  let init : Nat × Int × Nat × Nat × Nat := (0, 0, 0, 0, 0)
  let (cost, weight, below, shown, _) := children.foldl
    (fun (acc : Nat × Int × Nat × Nat × Nat) child =>
      let (cost, weight, below, shown, index) := acc
      let cost := if child.form = .skipped then cost else cost + child.cost
      let cost :=
        if erroneous && !child.extra && !(child.isError && child.children.isEmpty) then
          if child.visible g then cost + skippedTreeCost
          else if !child.children.isEmpty then cost + skippedTreeCost * child.visibleChildren
          else cost
        else cost
      let aliased := match form with
        | .derived p => !child.extra && (aliasAt t p index).isSome
        | _ => false
      let seen := aliased || child.visible g
      let below := below + child.visibleBelow + (if seen then 1 else 0)
      let shown := shown + (if seen then 1 else child.visibleChildren)
      (cost, weight + child.weight, below, shown, if child.extra then index else index + 1))
    init
  let cost := if erroneous then
      cost + recoveryCost + skippedCharCost * (source.byteAt stop - source.byteAt start)
        + skippedLineCost * (source.rowAt stop - source.rowAt start)
    else cost
  { form, symbol, lead, start, stop, extra := false, missing := false, keyword := false
    cost, weight, visibleBelow := below, visibleChildren := shown, children }

def errorNode (t : Tables) (source : Source) (pos : Nat) (children : Array Subtree)
    (extra : Bool) : Subtree :=
  { node t source .error errorSymbol pos children with extra }

/-- Whether two subtrees between the same places may be taken for each other. -/
def equivalent (a b : Subtree) : Bool :=
  a.symbol = b.symbol && ((0 < a.cost && 0 < b.cost) ||
    (a.lead = b.lead && a.start = b.start && a.stop = b.stop
      && a.children.size = b.children.size && a.extra = b.extra))

/-- Orders subtrees by their symbols, from the root down and from left to right. -/
def compareShape : Nat → List (Subtree × Subtree) → Ordering
  | 0, _ => .eq
  | _, [] => .eq
  | fuel + 1, (a, b) :: rest =>
      if a.symbol < b.symbol then .lt
      else if b.symbol < a.symbol then .gt
      else if a.children.size < b.children.size then .lt
      else if b.children.size < a.children.size then .gt
      else compareShape fuel ((a.children.zip b.children).toList ++ rest)

/-- Whether `right` is taken rather than `left` as the reading of the same text. -/
def prefersRight (left right : Subtree) : Bool :=
  if right.cost < left.cost then true
  else if left.cost < right.cost then false
  else if left.weight < right.weight then true
  else if right.weight < left.weight then false
  else if 0 < left.cost then true
  else compareShape 1000000 [(left, right)] = .gt

def splitTrailingExtras (trees : Array Subtree) : Array Subtree × Array Subtree :=
  let kept := (trees.toList.reverse.dropWhile (·.extra)).length
  (trees.extract 0 kept, trees.extract kept trees.size)

end Subtree

end Flowgraph
