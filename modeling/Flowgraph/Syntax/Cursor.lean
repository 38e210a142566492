import Flowgraph.Syntax.Tree

/-!
# Cursors in a syntax tree

A cursor stands at a node of a tree. It goes to the first child, to the next sibling and to the
parent, but not out of the tree that it was set on. Three searches walk with it: one tests nodes in
the order in which they begin, the next does so too but enters only nodes with a property, and the
last tests nodes in the order in which they end and enters only nodes with a property. A count goes
the way of the first search to the last node. Each step takes at least one node off the list of
those that are still to come, which is why the walks end.
-/

namespace Flowgraph

namespace SyntaxTree

mutual

/-- The nodes of a tree in the order in which they begin. -/
def preorder : SyntaxTree → List SyntaxTree
  | .node info children => .node info children :: preorderAll children

def preorderAll : List SyntaxTree → List SyntaxTree
  | [] => []
  | t :: rest => t.preorder ++ preorderAll rest

end

mutual

/-- The nodes of a tree in the order in which they end. Below the tree only the nodes with a
property are entered; the others are left out with all that is in them. -/
def postorderWhere (enter : SyntaxTree → Bool) : SyntaxTree → List SyntaxTree
  | .node info children => postorderAmong enter children ++ [.node info children]

def postorderAmong (enter : SyntaxTree → Bool) : List SyntaxTree → List SyntaxTree
  | [] => []
  | t :: rest => (if enter t then postorderWhere enter t else []) ++ postorderAmong enter rest

end

theorem sizeOf_lt_of_mem_children {t u : SyntaxTree} (member : u ∈ t.children) :
    sizeOf u < sizeOf t := by
  obtain ⟨info, children⟩ := t
  have inside := List.sizeOf_lt_of_mem member
  simp only [children_node, node.sizeOf_spec] at inside ⊢
  omega

/-- A place in a tree, with what the moves from it need. -/
structure Cursor where
  node : SyntaxTree
  /-- The siblings behind the node. -/
  later : List SyntaxTree
  /-- The nodes above, the nearest first, each with the siblings behind it. -/
  above : List (SyntaxTree × List SyntaxTree)

namespace Cursor

/-- A cursor on a whole tree; the siblings of the tree are out of its reach. -/
def on (t : SyntaxTree) : Cursor := ⟨t, [], []⟩

section Moves

variable (c : Cursor)

def firstChild? : Option Cursor :=
  match c.node.children with
  | [] => none
  | child :: rest => some ⟨child, rest, (c.node, c.later) :: c.above⟩

def nextSibling? : Option Cursor :=
  match c.later with
  | [] => none
  | next :: rest => some ⟨next, rest, c.above⟩

def parent? : Option Cursor :=
  match c.above with
  | [] => none
  | (node, later) :: above => some ⟨node, later, above⟩

end Moves

variable {c child next parent : Cursor}

theorem later_of_nextSibling? (move : c.nextSibling? = some next) :
    c.later = next.node :: next.later := by
  obtain ⟨node, _ | ⟨first, rest⟩, above⟩ := c
  · cases move
  · cases move
    rfl

theorem length_later_nextSibling? (move : c.nextSibling? = some next) :
    next.later.length < c.later.length := by
  rw [later_of_nextSibling? move]
  exact Nat.lt_succ_self _

theorem length_above_parent? (move : c.parent? = some parent) :
    parent.above.length < c.above.length := by
  obtain ⟨node, later, _ | ⟨x, above⟩⟩ := c
  · cases move
  · cases move
    exact Nat.lt_succ_self _

/-! ## The search in the order in which nodes begin -/

/-- The nodes that begin behind all that is in this one. -/
def behind (c : Cursor) : List SyntaxTree :=
  preorderAll c.later ++ c.above.flatMap fun x => preorderAll x.2

/-- The nodes that begin from this one on. -/
def ahead (c : Cursor) : List SyntaxTree := c.node.preorder ++ c.behind

theorem ahead_of_firstChild? (move : c.firstChild? = some child) :
    c.ahead = c.node :: child.ahead := by
  obtain ⟨⟨info, _ | ⟨first, rest⟩⟩, later, above⟩ := c
  · cases move
  · cases move
    simp [ahead, behind, preorder, preorderAll]

theorem ahead_of_leaf (leaf : c.firstChild? = none) : c.ahead = c.node :: c.behind := by
  obtain ⟨⟨info, _ | ⟨first, rest⟩⟩, later, above⟩ := c
  · rfl
  · cases leaf

theorem behind_of_nextSibling? (move : c.nextSibling? = some next) : c.behind = next.ahead := by
  obtain ⟨node, _ | ⟨first, rest⟩, above⟩ := c
  · cases move
  · cases move
    simp [ahead, behind, preorderAll]

theorem behind_of_parent? (last : c.nextSibling? = none) (move : c.parent? = some parent) :
    c.behind = parent.behind := by
  obtain ⟨node, _ | ⟨first, rest⟩, _ | ⟨x, above⟩⟩ := c
  · cases move
  · cases move
    simp [behind, preorderAll]
  · cases move
  · cases last

theorem behind_of_top (last : c.nextSibling? = none) (top : c.parent? = none) : c.behind = [] := by
  obtain ⟨node, _ | ⟨first, rest⟩, _ | ⟨x, above⟩⟩ := c
  · rfl
  · cases top
  · cases last
  · cases last

/-- The next node that is not in this one: the next sibling of the node, or of the nearest node
above that has one. -/
def past? (c : Cursor) : Option Cursor :=
  match c.nextSibling? with
  | some next => some next
  | none =>
      match _move : c.parent? with
      | some parent => past? parent
      | none => none
termination_by c.above.length
decreasing_by exact length_above_parent? _move

def next? (c : Cursor) : Option Cursor :=
  match c.firstChild? with
  | some child => some child
  | none => c.past?

theorem past?_of_last (last : c.nextSibling? = none) : c.past? = c.parent?.bind past? := by
  rw [past?.eq_def]
  simp only [last]
  split <;> simp_all

theorem behind_eq (c : Cursor) : c.behind = (c.past?.map ahead).getD [] := by
  induction c using past?.induct with
  | case1 c next move =>
      rw [past?, move]
      exact behind_of_nextSibling? move
  | case2 c last parent move ih =>
      rw [behind_of_parent? last move, ih, past?_of_last last, move]
      rfl
  | case3 c last top =>
      rw [behind_of_top last top, past?_of_last last, top]
      rfl

/-- A step takes one node off those that are to come. -/
theorem ahead_eq (c : Cursor) : c.ahead = c.node :: (c.next?.map ahead).getD [] := by
  unfold next?
  cases move : c.firstChild? with
  | some child => exact ahead_of_firstChild? move
  | none => rw [ahead_of_leaf move, behind_eq]

def find? (p : SyntaxTree → Bool) (c : Cursor) : Option SyntaxTree :=
  if p c.node then some c.node
  else
    match _move : c.next? with
    | some next => find? p next
    | none => none
termination_by c.ahead.length
decreasing_by
  rw [c.ahead_eq, _move]
  exact Nat.lt_succ_self _

/-- The next node when a node is entered only if it has a property. -/
def nextWhere? (enter : SyntaxTree → Bool) (c : Cursor) : Option Cursor :=
  if enter c.node then c.next? else c.past?

/-- What such a step leaves behind: the node, with all that is in it if it is not entered. -/
def passed (enter : SyntaxTree → Bool) (c : Cursor) : List SyntaxTree :=
  if enter c.node then [c.node] else c.node.preorder

theorem ahead_eq_passed (enter : SyntaxTree → Bool) (c : Cursor) :
    c.ahead = c.passed enter ++ ((c.nextWhere? enter).map ahead).getD [] := by
  unfold passed nextWhere?
  split
  · exact c.ahead_eq
  · rw [ahead, behind_eq]

theorem length_passed_pos (enter : SyntaxTree → Bool) (c : Cursor) :
    0 < (c.passed enter).length := by
  obtain ⟨⟨info, children⟩, later, above⟩ := c
  unfold passed
  split <;> exact Nat.succ_pos _

theorem length_ahead_nextWhere? {enter : SyntaxTree → Bool} (move : c.nextWhere? enter = some next) :
    next.ahead.length < c.ahead.length := by
  have passed := c.length_passed_pos enter
  rw [c.ahead_eq_passed enter, move, List.length_append, Option.map_some, Option.getD_some]
  omega

/-- The first node with a property, from this one on, where only nodes with another are entered. -/
def findWhere? (enter p : SyntaxTree → Bool) (c : Cursor) : Option SyntaxTree :=
  if p c.node then some c.node
  else
    match _move : c.nextWhere? enter with
    | some next => findWhere? enter p next
    | none => none
termination_by c.ahead.length
decreasing_by exact length_ahead_nextWhere? _move

/-- Counts the nodes with a property on from `count`, from this one to the last. -/
def countFrom (p : SyntaxTree → Bool) (count : Nat) (c : Cursor) : Nat :=
  let count := if p c.node then count + 1 else count
  match _move : c.next? with
  | some next => countFrom p count next
  | none => count
termination_by c.ahead.length
decreasing_by
  rw [c.ahead_eq, _move]
  exact Nat.lt_succ_self _

/-! ## The search in the order in which nodes end -/

section Ending

variable (enter : SyntaxTree → Bool)

/-- The next sibling with a property; the siblings before it are passed over. -/
def siblingWhere? (c : Cursor) : Option Cursor :=
  match _move : c.nextSibling? with
  | some next => if enter next.node then some next else siblingWhere? next
  | none => none
termination_by c.later.length
decreasing_by exact length_later_nextSibling? _move

def childWhere? (c : Cursor) : Option Cursor :=
  match c.firstChild? with
  | some first => if enter first.node then some first else first.siblingWhere? enter
  | none => none

/-- The nodes that end behind this one. -/
def endingBehind (c : Cursor) : List SyntaxTree :=
  postorderAmong enter c.later ++ c.above.flatMap fun x => x.1 :: postorderAmong enter x.2

/-- The nodes that end from this one on, when all that is in it has ended. -/
def ending (c : Cursor) : List SyntaxTree := c.node :: c.endingBehind enter

/-- The nodes that end when the cursor has come to this one and nothing in it has ended. -/
def endingFrom (c : Cursor) : List SyntaxTree := postorderWhere enter c.node ++ c.endingBehind enter

theorem endingBehind_of_nextSibling? (move : c.nextSibling? = some next) :
    c.endingBehind enter =
      (if enter next.node then postorderWhere enter next.node else []) ++ next.endingBehind enter := by
  obtain ⟨node, _ | ⟨first, rest⟩, above⟩ := c
  · cases move
  · cases move
    simp [endingBehind, postorderAmong]

theorem endingBehind_of_last (last : c.nextSibling? = none) :
    c.endingBehind enter = (c.parent?.map (ending enter)).getD [] := by
  obtain ⟨node, _ | ⟨first, rest⟩, _ | ⟨x, above⟩⟩ := c
  · rfl
  · simp [endingBehind, ending, parent?, postorderAmong]
  · cases last
  · cases last

theorem parent?_nextSibling? (move : c.nextSibling? = some next) : next.parent? = c.parent? := by
  obtain ⟨node, _ | ⟨first, rest⟩, above⟩ := c
  · cases move
  · cases move
    rfl

theorem siblingWhere?_of_nextSibling? (move : c.nextSibling? = some next) :
    c.siblingWhere? enter = if enter next.node then some next else next.siblingWhere? enter := by
  rw [siblingWhere?.eq_def]
  split <;> simp_all

theorem siblingWhere?_of_last (last : c.nextSibling? = none) : c.siblingWhere? enter = none := by
  rw [siblingWhere?.eq_def]
  split <;> simp_all

/-- When no sibling with the property is left, the parent ends next. -/
theorem endingBehind_eq (c : Cursor) :
    c.endingBehind enter =
      match c.siblingWhere? enter with
      | some next => next.endingFrom enter
      | none => (c.parent?.map (ending enter)).getD [] := by
  induction c using siblingWhere?.induct enter with
  | case1 c next move enters =>
      rw [endingBehind_of_nextSibling? enter move, siblingWhere?_of_nextSibling? enter move]
      simp only [enters, if_true, endingFrom]
  | case2 c next move passed ih =>
      rw [endingBehind_of_nextSibling? enter move, siblingWhere?_of_nextSibling? enter move,
        if_neg passed, if_neg passed, ← parent?_nextSibling? move]
      exact ih
  | case3 c last =>
      rw [endingBehind_of_last enter last, siblingWhere?_of_last enter last]

theorem endingFrom_eq (c : Cursor) :
    c.endingFrom enter =
      match c.childWhere? enter with
      | some child => child.endingFrom enter
      | none => c.ending enter := by
  obtain ⟨⟨info, _ | ⟨first, rest⟩⟩, later, above⟩ := c
  · rfl
  · have inside : endingFrom enter ⟨.node info (first :: rest), later, above⟩ =
        (if enter first then postorderWhere enter first else []) ++
          endingBehind enter ⟨first, rest, (.node info (first :: rest), later) :: above⟩ := by
      simp [endingFrom, endingBehind, postorderWhere, postorderAmong]
    rw [inside, childWhere?]
    simp only [firstChild?, children_node]
    split
    · simp [endingFrom]
    · rw [endingBehind_eq]
      rfl

theorem node_siblingWhere?_mem (move : c.siblingWhere? enter = some next) :
    next.node ∈ c.later := by
  induction c using siblingWhere?.induct enter with
  | case1 c first step enters =>
      rw [siblingWhere?_of_nextSibling? enter step, if_pos enters] at move
      cases move
      rw [later_of_nextSibling? step]
      exact List.mem_cons_self
  | case2 c first step passed ih =>
      rw [siblingWhere?_of_nextSibling? enter step, if_neg passed] at move
      rw [later_of_nextSibling? step]
      exact List.mem_cons_of_mem _ (ih move)
  | case3 c last =>
      rw [siblingWhere?_of_last enter last] at move
      cases move

theorem node_childWhere?_mem (move : c.childWhere? enter = some child) :
    child.node ∈ c.node.children := by
  obtain ⟨⟨info, _ | ⟨first, rest⟩⟩, later, above⟩ := c
  · cases move
  · simp only [childWhere?, firstChild?, children_node] at move
    split at move
    · cases move
      exact List.mem_cons_self
    · exact List.mem_cons_of_mem _ (node_siblingWhere?_mem enter move)

/-- Down through first children with the property, as far as there is one. -/
def deepest (c : Cursor) : Cursor :=
  match _move : c.childWhere? enter with
  | some child => deepest child
  | none => c
termination_by sizeOf c.node
decreasing_by exact sizeOf_lt_of_mem_children (node_childWhere?_mem enter _move)

theorem ending_deepest (c : Cursor) : (c.deepest enter).ending enter = c.endingFrom enter := by
  induction c using deepest.induct enter with
  | case1 c child move ih =>
      rw [endingFrom_eq, deepest.eq_def]
      split <;> simp_all
  | case2 c leaf =>
      rw [endingFrom_eq, deepest.eq_def]
      split <;> simp_all

def findEnding? (p : SyntaxTree → Bool) (c : Cursor) : Option SyntaxTree :=
  if p c.node then some c.node
  else
    match _move : c.siblingWhere? enter with
    | some next => findEnding? p (next.deepest enter)
    | none =>
        match _up : c.parent? with
        | some parent => findEnding? p parent
        | none => none
termination_by (c.ending enter).length
decreasing_by
  · change _ < (c.endingBehind enter).length + 1
    rw [ending_deepest, endingBehind_eq, _move]
    exact Nat.lt_succ_self _
  · change _ < (c.endingBehind enter).length + 1
    rw [endingBehind_eq enter c, _move, _up]
    exact Nat.lt_succ_self _

end Ending

end Cursor

end SyntaxTree

end Flowgraph
