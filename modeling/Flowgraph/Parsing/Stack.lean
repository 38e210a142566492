import Flowgraph.Parsing.Subtree

/-!
# The stack of a parser with several readings

All readings of a text share one graph of stack nodes; a head is one reading. Two heads in the same
state at the same place with the same cost are joined, and popping through a joined node gives one
result per path.
-/

namespace Flowgraph

structure StackLink where
  node : Nat
  /-- Nothing where the reading was broken off by an error. -/
  tree : Option Subtree
deriving Inhabited

structure StackNode where
  state : Nat
  position : Nat
  links : Array StackLink
  cost : Nat
  count : Nat
  weight : Int
deriving Inhabited

inductive HeadStatus where
  | active
  | paused (lookahead : Subtree)
  | halted
deriving Inhabited

structure SummaryEntry where
  position : Nat
  depth : Nat
  state : Nat
deriving DecidableEq, Inhabited

structure Head where
  node : Nat
  status : HeadStatus
  countAtError : Nat
  summary : Array SummaryEntry
deriving Inhabited

structure Stack where
  nodes : Array StackNode
  heads : Array Head
deriving Inhabited

structure Slice where
  version : Nat
  trees : Array Subtree
deriving Inhabited

namespace Stack

def maxLinks : Nat := 8
def maxIterators : Nat := 64

def initial : Stack :=
  { nodes := #[{ state := Automaton.startState, position := 0, links := #[], cost := 0, count := 0,
                 weight := 0 }]
    heads := #[{ node := 0, status := .active, countAtError := 0, summary := #[] }] }

def size (s : Stack) : Nat := s.heads.size

def head (s : Stack) (v : Nat) : Head := s.heads.getD v default

def nodeAt (s : Stack) (n : Nat) : StackNode := s.nodes.getD n default

def top (s : Stack) (v : Nat) : StackNode := s.nodeAt (s.head v).node

def state (s : Stack) (v : Nat) : Nat := (s.top v).state

def position (s : Stack) (v : Nat) : Nat := (s.top v).position

def isActive (s : Stack) (v : Nat) : Bool :=
  match (s.head v).status with
  | .active => v < s.size
  | _ => false

def isPaused (s : Stack) (v : Nat) : Bool :=
  match (s.head v).status with
  | .paused _ => true
  | _ => false

def isHalted (s : Stack) (v : Nat) : Bool :=
  match (s.head v).status with
  | .halted => true
  | _ => false

/-- The cost of a head, with a surcharge while it is stuck. -/
def cost (s : Stack) (v : Nat) : Nat :=
  let node := s.top v
  let broken := node.state = Automaton.errorState &&
    match node.links[0]? with
    | some link => link.tree.isNone
    | none => false
  node.cost + if s.isPaused v || broken then Subtree.recoveryCost else 0

def countSinceError (s : Stack) (v : Nat) : Nat := (s.top v).count - (s.head v).countAtError

def settleCount (s : Stack) (v : Nat) : Stack :=
  let count := (s.top v).count
  if count < (s.head v).countAtError then
    { s with heads := s.heads.modify v fun h => { h with countAtError := count } }
  else s

/-- Whether a head has got past some text since its last error. -/
def advancedSinceErrorFrom (s : Stack) (mark : Nat) : Nat → Nat → Bool
  | 0, _ => false
  | fuel + 1, n =>
      let node := s.nodeAt n
      match (node.links[0]? : Option StackLink) with
      | some ⟨below, some tree⟩ =>
          if tree.lead < tree.stop then true
          else if mark < node.count && tree.cost = 0 then advancedSinceErrorFrom s mark fuel below
          else false
      | _ => false

def advancedSinceError (s : Stack) (v : Nat) : Bool :=
  (s.top v).cost = 0 ||
    advancedSinceErrorFrom s (s.head v).countAtError s.nodes.size (s.head v).node

def push (g : Grammar) (s : Stack) (v : Nat) (tree : Option Subtree) (state : Nat) : Stack :=
  let below := (s.head v).node
  let old := s.nodeAt below
  let node : StackNode := match tree with
    | some t =>
        { state, position := t.stop, links := #[{ node := below, tree }], cost := old.cost + t.cost
          count := old.count + t.nodeCount g, weight := old.weight + t.weight }
    | none =>
        { state, position := old.position, links := #[{ node := below, tree }], cost := old.cost
          count := old.count, weight := old.weight }
  let n := s.nodes.size
  { nodes := s.nodes.push node
    heads := s.heads.modify v fun h =>
      { h with node := n, countAtError := if tree.isNone then node.count else h.countAtError } }

def removeVersion (s : Stack) (v : Nat) : Stack :=
  { s with heads := s.heads.eraseIdxIfInBounds v }

def renumber (s : Stack) (source target : Nat) : Stack :=
  if source = target then s
  else
    let moved := s.head source
    let old := s.head target
    let moved := if moved.summary.isEmpty then { moved with summary := old.summary } else moved
    { s with heads := (s.heads.setIfInBounds target moved).eraseIdxIfInBounds source }

def swap (s : Stack) (v w : Nat) : Stack :=
  let a := s.head v
  let b := s.head w
  { s with heads := (s.heads.setIfInBounds v b).setIfInBounds w a }

def copyVersion (s : Stack) (v : Nat) : Nat × Stack :=
  (s.size, { s with heads := s.heads.push { s.head v with summary := #[] } })

def halt (s : Stack) (v : Nat) : Stack :=
  { s with heads := s.heads.modify v fun h => { h with status := .halted } }

def pause (s : Stack) (v : Nat) (lookahead : Subtree) : Stack :=
  let count := (s.top v).count
  { s with heads := s.heads.modify v fun h =>
      { h with status := .paused lookahead, countAtError := count } }

/-- Sets a paused head going again and returns the token it waited with. -/
def resume (s : Stack) (v : Nat) : Option Subtree × Stack :=
  match (s.head v).status with
  | .paused lookahead =>
      (some lookahead, { s with heads := s.heads.modify v fun h => { h with status := .active } })
  | _ => (none, s)

/-! ## Joining heads -/

/-- Adds a link to a node. A link to the same node with an equivalent tree keeps the tree of greater
weight; links to alike nodes join those nodes. -/
def addLink (g : Grammar) : Nat → Stack → Nat → StackLink → Stack
  | 0, s, _, _ => s
  | fuel + 1, s, n, link =>
      if link.node = n then s
      else
        let node := s.nodeAt n
        let other := s.nodeAt link.node
        let same (a b : Option Subtree) : Bool :=
          match a, b with
          | some x, some y => x.equivalent y
          | none, none => true
          | _, _ => false
        let found := (List.range node.links.size).find? fun i =>
          let existing := node.links.getD i default
          same existing.tree link.tree &&
            (existing.node = link.node ||
              (let e := s.nodeAt existing.node
               e.state = other.state && e.position = other.position && e.cost = other.cost))
        let treeWeight := ((link.tree).map (·.weight)).getD 0
        match found with
        | some i =>
            let existing := node.links.getD i default
            if existing.node = link.node then
              let oldWeight := ((existing.tree).map (·.weight)).getD 0
              if link.tree.isSome && oldWeight < treeWeight then
                { s with nodes := s.nodes.modify n fun node =>
                    { node with
                      links := node.links.modify i fun l => { l with tree := link.tree }
                      weight := other.weight + treeWeight } }
              else s
            else
              let s := other.links.foldl (fun s l => addLink g fuel s existing.node l) s
              let weight := other.weight + treeWeight
              { s with nodes := s.nodes.modify n fun node =>
                  { node with weight := max node.weight weight } }
        | none =>
            if maxLinks ≤ node.links.size then s
            else
              let count := other.count + ((link.tree).map (·.nodeCount g)).getD 0
              let weight := other.weight + treeWeight
              { s with nodes := s.nodes.modify n fun node =>
                  { node with
                    links := node.links.push link
                    count := max node.count count
                    weight := max node.weight weight } }

def canMerge (s : Stack) (v w : Nat) : Bool :=
  s.isActive v && s.isActive w &&
    (let a := s.top v
     let b := s.top w
     a.state = b.state && a.position = b.position && a.cost = b.cost)

/-- Joins head `w` into head `v` if they are alike, and tells whether it did. -/
def merge (g : Grammar) (s : Stack) (v w : Nat) : Bool × Stack :=
  if s.canMerge v w then
    let target := (s.head v).node
    let s := (s.top w).links.foldl (fun s l => addLink g (s.nodes.size + 1) s target l) s
    let s := if (s.nodeAt target).state = Automaton.errorState then
        let count := (s.nodeAt target).count
        { s with heads := s.heads.modify v fun h => { h with countAtError := count } }
      else s
    (true, s.removeVersion w)
  else (false, s)

/-! ## Popping -/

structure Walker where
  node : Nat
  trees : List Subtree
  count : Nat
deriving Inhabited

structure Verdict where
  pop : Bool
  stop : Bool

/-- Records the trees of a path that ends at `node`; paths that end at one node share a head. -/
def addSlice (s : Stack) (slices : Array Slice) (origin node : Nat) (trees : Array Subtree) :
    Array Slice × Stack :=
  let shared := (List.range slices.size).reverse.find? fun i =>
    (s.head (slices.getD i default).version).node = node
  match shared with
  | some i =>
      let slice := { version := (slices.getD i default).version, trees : Slice }
      (slices.insertIdxIfInBounds (i + 1) slice, s)
  | none =>
      let v := s.size
      let head : Head :=
        { node, status := .active, countAtError := (s.head origin).countAtError, summary := #[] }
      (slices.push { version := v, trees }, { s with heads := s.heads.push head })

def Walker.over (w : Walker) (link : StackLink) : Walker :=
  match link.tree with
  | some tree =>
      { node := link.node, trees := tree :: w.trees
        count := if tree.extra then w.count else w.count + 1 }
  | none => { node := link.node, trees := w.trees, count := w.count + 1 }

/-- Moves every path one node down, until all have stopped. A path over a joined node divides; the
first link continues the path, the others join the end of the queue. -/
def walkDown {σ : Type} (decide : σ → StackNode → Walker → Verdict × σ) (origin : Nat) :
    Nat → List Walker → Array Slice → σ → Stack → Array Slice × σ × Stack
  | 0, _, slices, st, s => (slices, st, s)
  | _, [], slices, st, s => (slices, st, s)
  | fuel + 1, walkers, slices, st, s =>
      let start : List Walker × List Walker × Nat × Array Slice × σ × Stack :=
        ([], [], walkers.length, slices, st, s)
      let (kept, added, _, slices, st, s) := walkers.foldl
        (fun (acc : List Walker × List Walker × Nat × Array Slice × σ × Stack) w =>
          let (kept, added, total, slices, st, s) := acc
          let node := s.nodeAt w.node
          let (verdict, st) := decide st node w
          let stop := verdict.stop || node.links.isEmpty
          let (slices, s) :=
            if verdict.pop then s.addSlice slices origin w.node w.trees.toArray else (slices, s)
          if stop then (kept, added, total - 1, slices, st, s)
          else
            let (added, total) := (node.links.extract 1 node.links.size).foldl
              (fun (acc : List Walker × Nat) link =>
                if maxIterators ≤ acc.2 then acc else (w.over link :: acc.1, acc.2 + 1))
              (added, total)
            let next := w.over (node.links.getD 0 default)
            (next :: kept, added, total, slices, st, s)) start
      walkDown decide origin fuel (kept.reverse ++ added.reverse) slices st s

/-- The way down a stack without branches; `none` where it branches or ends too early. -/
def popStraight (s : Stack) : Nat → Nat → Nat → List Subtree → Option (Nat × List Subtree)
  | 0, _, _, _ => none
  | fuel + 1, n, goal, trees =>
      if goal = 0 then some (n, trees)
      else
        let node := s.nodeAt n
        if node.links.size = 1 then
          match node.links.getD 0 default with
          | ⟨below, some tree⟩ =>
              popStraight s fuel below (if tree.extra then goal else goal - 1) (tree :: trees)
          | ⟨below, none⟩ => popStraight s fuel below (goal - 1) trees
        else none

def popCount (s : Stack) (v goal : Nat) : Array Slice × Stack :=
  match s.popStraight (s.nodes.size + 1) (s.head v).node goal [] with
  | some (n, trees) => s.addSlice #[] v n trees.toArray
  | none =>
      let (slices, _, s) := walkDown
        (fun (st : Unit) _ w =>
          if w.count = goal then (⟨true, true⟩, st) else (⟨false, false⟩, st))
        v (s.nodes.size + 1) [{ node := (s.head v).node, trees := [], count := 0 }] #[] () s
      (slices, s)

def popAll (s : Stack) (v : Nat) : Array Slice × Stack :=
  let (slices, _, s) := walkDown
    (fun (st : Unit) node _ => (⟨node.links.isEmpty, false⟩, st))
    v (s.nodes.size + 1) [{ node := (s.head v).node, trees := [], count := 0 }] #[] () s
  (slices, s)

def popError (s : Stack) (v : Nat) : Array Subtree × Stack :=
  let isErrorLink (l : StackLink) : Bool := ((l.tree).map (·.isError)).getD false
  if (s.top v).links.any isErrorLink then
    let (slices, _, s) := walkDown
      (fun (found : Bool) _ w =>
        match w.trees with
        | [] => (⟨false, false⟩, found)
        | tree :: _ => if !found && tree.isError then (⟨true, true⟩, true) else (⟨false, true⟩, found))
      v (s.nodes.size + 1) [{ node := (s.head v).node, trees := [], count := 0 }] #[] false s
    match slices[0]? with
    | some slice => (slice.trees, s.renumber slice.version v)
    | none => (#[], s)
  else (#[], s)

def recordSummary (s : Stack) (v maxDepth : Nat) : Stack :=
  let (_, entries, s) := walkDown
    (fun (entries : Array SummaryEntry) node w =>
      if maxDepth < w.count then (⟨false, true⟩, entries)
      else if entries.any fun e => e.depth = w.count && e.state = node.state then
        (⟨false, false⟩, entries)
      else
        (⟨false, false⟩,
          entries.push { position := node.position, depth := w.count, state := node.state }))
    v (s.nodes.size + 1) [{ node := (s.head v).node, trees := [], count := 0 }] #[] #[] s
  { s with heads := s.heads.modify v fun h => { h with summary := entries } }

end Stack

end Flowgraph
