import Flowgraph.Function.Locate

/-!
# Walks of a cursor

What a search with a cursor finds is what is found first in a list of nodes: those that are to come
where the cursor stands. In a tree whose nodes lie within one another the nodes that a pruned walk
leaves out are those that do not cover the offset, so that it lists the same nodes as a walk of the
whole tree does, less those.
-/

namespace Flowgraph

namespace SyntaxTree

namespace Cursor

variable (p enter : SyntaxTree → Bool)

theorem find?_step (c : Cursor) :
    c.find? p = if p c.node then some c.node else c.next?.bind (find? p) := by
  rw [find?.eq_def]
  split
  · rfl
  · split <;> simp_all

theorem findEnding?_step (c : Cursor) :
    c.findEnding? enter p =
      if p c.node then some c.node
      else
        match c.siblingWhere? enter with
        | some next => (next.deepest enter).findEnding? enter p
        | none => c.parent?.bind (findEnding? enter p) := by
  rw [findEnding?.eq_def]
  split
  · rfl
  · split
    · simp_all
    · split <;> simp_all

theorem find?_eq (c : Cursor) : c.find? p = c.ahead.find? p := by
  induction c using find?.induct p with
  | case1 c holds => rw [find?_step, if_pos holds, ahead_eq, List.find?_cons_of_pos holds]
  | case2 c fails next move ih =>
      rw [find?_step, if_neg fails, ahead_eq, List.find?_cons_of_neg fails, move]
      exact ih
  | case3 c fails last =>
      rw [find?_step, if_neg fails, ahead_eq, List.find?_cons_of_neg fails, last]
      rfl

theorem findEnding?_eq (c : Cursor) : c.findEnding? enter p = (c.ending enter).find? p := by
  induction c using findEnding?.induct enter p with
  | case1 c holds =>
      rw [findEnding?_step, if_pos holds, ending, List.find?_cons_of_pos holds]
  | case2 c fails next move ih =>
      rw [findEnding?_step, if_neg fails, ending, List.find?_cons_of_neg fails, endingBehind_eq]
      simp only [move]
      rw [ih, ending_deepest]
  | case3 c fails alone parent up ih =>
      rw [findEnding?_step, if_neg fails, ending, List.find?_cons_of_neg fails, endingBehind_eq]
      simp only [alone, up]
      exact ih
  | case4 c fails alone top =>
      rw [findEnding?_step, if_neg fails, ending, List.find?_cons_of_neg fails, endingBehind_eq]
      simp only [alone, top]
      rfl

@[simp] theorem ahead_on (t : SyntaxTree) : (on t).ahead = t.preorder := by
  simp [ahead, behind, on, preorderAll]

@[simp] theorem endingFrom_on (t : SyntaxTree) :
    (on t).endingFrom enter = t.postorderWhere enter := by
  simp [endingFrom, endingBehind, on, postorderAmong]

end Cursor

theorem firstFunction_eq (t : SyntaxTree) : t.firstFunction = t.preorder.find? isFunction := by
  rw [firstFunction, Cursor.find?_eq, Cursor.ahead_on]

theorem functionAt_eq (offset : Nat) (t : SyntaxTree) :
    t.functionAt offset =
      if t.covers offset then (t.postorderWhere (·.covers offset)).find? isFunction else none := by
  rw [functionAt, Cursor.findEnding?_eq, Cursor.ending_deepest, Cursor.endingFrom_on]

mutual

def postorder : SyntaxTree → List SyntaxTree
  | .node info children => postorderAll children ++ [.node info children]

def postorderAll : List SyntaxTree → List SyntaxTree
  | [] => []
  | t :: rest => t.postorder ++ postorderAll rest

end

mutual

theorem mem_postorder_iff (t : SyntaxTree) {u : SyntaxTree} : u ∈ t.postorder ↔ u ∈ t.preorder :=
  match t with
  | .node info children => by
      rw [postorder, preorder, List.mem_append, mem_postorderAll_iff children, List.mem_singleton,
        List.mem_cons, or_comm]

theorem mem_postorderAll_iff (trees : List SyntaxTree) {u : SyntaxTree} :
    u ∈ postorderAll trees ↔ u ∈ preorderAll trees :=
  match trees with
  | [] => Iff.rfl
  | t :: rest => by
      rw [postorderAll, preorderAll, List.mem_append, List.mem_append, mem_postorder_iff t,
        mem_postorderAll_iff rest]

end

theorem mem_preorder_self (t : SyntaxTree) : t ∈ t.preorder := by
  obtain ⟨info, children⟩ := t
  exact List.mem_cons_self

theorem mem_preorderAll {trees : List SyntaxTree} {u : SyntaxTree} :
    u ∈ preorderAll trees ↔ ∃ t ∈ trees, u ∈ t.preorder := by
  induction trees with
  | nil => simp [preorderAll]
  | cons t rest ih => simp [preorderAll, ih]

mutual

theorem mem_preorder_trans (root : SyntaxTree) {t u : SyntaxTree} (member : t ∈ root.preorder)
    (inside : u ∈ t.preorder) : u ∈ root.preorder :=
  match root, member with
  | .node _ children, member => by
      rcases List.mem_cons.1 member with rfl | below
      · exact inside
      · exact List.mem_cons_of_mem _ (mem_preorderAll_trans children below inside)

theorem mem_preorderAll_trans (trees : List SyntaxTree) {t u : SyntaxTree}
    (member : t ∈ preorderAll trees) (inside : u ∈ t.preorder) : u ∈ preorderAll trees :=
  match trees, member with
  | [], member => absurd member List.not_mem_nil
  | first :: rest, member => by
      rcases List.mem_append.1 member with inFirst | inRest
      · exact List.mem_append_left _ (mem_preorder_trans first inFirst inside)
      · exact List.mem_append_right _ (mem_preorderAll_trans rest inRest inside)

end

theorem covers_iff {t : SyntaxTree} {offset : Nat} :
    t.covers offset = true ↔ t.span.start ≤ offset ∧ offset ≤ t.span.stop := by
  simp [covers]

/-- The spans of the children of a node lie within its own. -/
def Nested (root : SyntaxTree) : Prop :=
  ∀ t ∈ root.preorder, ∀ child ∈ t.children,
    t.span.start ≤ child.span.start ∧ child.span.stop ≤ t.span.stop

instance (root : SyntaxTree) : Decidable root.Nested :=
  inferInstanceAs (Decidable (∀ t ∈ root.preorder, ∀ child ∈ t.children,
    t.span.start ≤ child.span.start ∧ child.span.stop ≤ t.span.stop))

section Nested

variable {t child : SyntaxTree} {offset : Nat}

theorem Nested.of_child (nested : t.Nested) (member : child ∈ t.children) : child.Nested := by
  obtain ⟨info, children⟩ := t
  intro u inChild
  exact nested u (List.mem_cons_of_mem _ (mem_preorderAll.2 ⟨child, member, inChild⟩))

theorem Nested.covers_of_child (nested : t.Nested) (member : child ∈ t.children)
    (covers : child.covers offset = true) : t.covers offset = true := by
  have within := nested t (mem_preorder_self t) child member
  have inside := covers_iff.1 covers
  exact covers_iff.2 ⟨Nat.le_trans within.1 inside.1, Nat.le_trans inside.2 within.2⟩

end Nested

mutual

/-- Nothing in a node covers an offset that the node does not. -/
theorem Nested.not_covers_of_mem (t : SyntaxTree) {offset : Nat} (nested : t.Nested)
    (outside : t.covers offset = false) : ∀ u ∈ t.postorder, u.covers offset = false :=
  match t, nested, outside with
  | .node info children, nested, outside => by
      have below := Nested.not_covers_among children (fun child member => nested.of_child member)
        fun child member => Bool.eq_false_iff.2 fun covers =>
          Bool.eq_false_iff.1 outside (nested.covers_of_child member covers)
      intro u member
      rcases List.mem_append.1 member with inside | here
      · exact below u inside
      · rw [List.mem_singleton.1 here]
        exact outside

theorem Nested.not_covers_among (trees : List SyntaxTree) {offset : Nat}
    (nested : ∀ t ∈ trees, t.Nested) (outside : ∀ t ∈ trees, t.covers offset = false) :
    ∀ u ∈ postorderAll trees, u.covers offset = false :=
  match trees, nested, outside with
  | [], _, _ => fun _ member => absurd member List.not_mem_nil
  | t :: rest, nested, outside => by
      intro u member
      rcases List.mem_append.1 member with inFirst | inRest
      · exact Nested.not_covers_of_mem t (nested t List.mem_cons_self) (outside t List.mem_cons_self)
          u inFirst
      · exact Nested.not_covers_among rest (fun t later => nested t (List.mem_cons_of_mem _ later))
          (fun t later => outside t (List.mem_cons_of_mem _ later)) u inRest

end

mutual

/-- A walk that enters only what covers an offset leaves out what does not. -/
theorem Nested.postorderWhere_covers (t : SyntaxTree) {offset : Nat} (nested : t.Nested)
    (covers : t.covers offset = true) :
    t.postorderWhere (·.covers offset) = t.postorder.filter (·.covers offset) :=
  match t, nested, covers with
  | .node info children, nested, covers => by
      have here : [node info children].filter (·.covers offset) = [node info children] := by
        simp [covers]
      rw [postorderWhere, postorder, List.filter_append, here,
        Nested.postorderAmong_covers children fun child member => nested.of_child member]

theorem Nested.postorderAmong_covers (trees : List SyntaxTree) {offset : Nat}
    (nested : ∀ t ∈ trees, t.Nested) :
    postorderAmong (·.covers offset) trees = (postorderAll trees).filter (·.covers offset) :=
  match trees, nested with
  | [], _ => rfl
  | t :: rest, nested => by
      have first := nested t List.mem_cons_self
      rw [postorderAmong, postorderAll, List.filter_append,
        Nested.postorderAmong_covers rest fun t later => nested t (List.mem_cons_of_mem _ later)]
      congr 1
      split
      next covers => exact Nested.postorderWhere_covers t first covers
      next outside =>
        have none := Nested.not_covers_of_mem t first (Bool.eq_false_iff.2 outside)
        exact (List.filter_eq_nil_iff.2 fun u member => by simp [none u member]).symm

end

mutual

/-- Of what is found first in the order in which nodes end, nothing below it would do. -/
theorem not_below_of_find?_postorder (t : SyntaxTree) {p : SyntaxTree → Bool} {found : SyntaxTree}
    (first : t.postorder.find? p = some found) :
    ∀ u ∈ preorderAll found.children, p u = false :=
  match t, first with
  | .node info children, first => by
      rw [postorder, List.find?_append] at first
      cases inside : (postorderAll children).find? p with
      | some other =>
          rw [inside] at first
          obtain rfl : other = found := Option.some.inj first
          exact not_below_of_find?_postorderAll children inside
      | none =>
          rw [inside, Option.none_or] at first
          obtain rfl : node info children = found :=
            (List.mem_singleton.1 (List.mem_of_find?_eq_some first)).symm
          intro u member
          have fails := List.find?_eq_none.1 inside u ((mem_postorderAll_iff children).2 member)
          exact Bool.eq_false_iff.2 fails

theorem not_below_of_find?_postorderAll (trees : List SyntaxTree) {p : SyntaxTree → Bool}
    {found : SyntaxTree} (first : (postorderAll trees).find? p = some found) :
    ∀ u ∈ preorderAll found.children, p u = false :=
  match trees, first with
  | [], first => nomatch first
  | t :: rest, first => by
      rw [postorderAll, List.find?_append] at first
      cases inside : t.postorder.find? p with
      | some other =>
          rw [inside] at first
          obtain rfl : other = found := Option.some.inj first
          exact not_below_of_find?_postorder t inside
      | none =>
          rw [inside, Option.none_or] at first
          exact not_below_of_find?_postorderAll rest first

end

end SyntaxTree

end Flowgraph
