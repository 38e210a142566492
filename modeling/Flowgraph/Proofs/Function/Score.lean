import Flowgraph.Proofs.Syntax.Address
import Flowgraph.Proofs.Syntax.Traversal
import Flowgraph.Text.Numeral
import Mathlib.Algebra.GroupWithZero.Nat
import Mathlib.Algebra.Order.BigOperators.Group.List
import Mathlib.Algebra.Order.Group.Nat

/-!
# The walk that scores a tree

The cursor that counts the places where the path divides stands at every node of the tree once, in
the order in which the nodes begin, and ends behind the last of them. It was set on the tree, so it
comes to nothing that is outside. The score is therefore the same as the sum over the tree, and a
piece of code scores at least as much as anything within it.
-/

namespace Flowgraph

namespace SyntaxTree

namespace Cursor

/-- Where a walk stands after some steps from node to node, unless it has ended. -/
def place? (c : Cursor) : Nat → Option Cursor
  | 0 => some c
  | steps + 1 => c.next?.bind fun next => next.place? steps

/-- The walk takes the nodes that are to come one after the other and then ends. -/
theorem map_node_place? (c : Cursor) (steps : Nat) :
    (c.place? steps).map node = c.ahead[steps]? := by
  induction steps generalizing c with
  | zero =>
      rw [place?, ahead_eq]
      rfl
  | succ steps ih =>
      rw [place?, ahead_eq, List.getElem?_cons_succ]
      cases c.next? with
      | none => rfl
      | some next => exact ih next

variable (p : SyntaxTree → Bool)

theorem countFrom_step (count : Nat) (c : Cursor) :
    c.countFrom p count =
      match c.next? with
      | some next => next.countFrom p (if p c.node then count + 1 else count)
      | none => if p c.node then count + 1 else count := by
  rw [countFrom.eq_def]
  generalize (if p c.node then count + 1 else count) = counted
  split
  · next next move => simp only [move]
  · next last => simp only [last]

/-- The nodes with a property are counted one by one as they come. -/
theorem countFrom_eq (count : Nat) (c : Cursor) :
    c.countFrom p count = count + c.ahead.countP p := by
  have counted (count : Nat) (c : Cursor) :
      (if p c.node then count + 1 else count) = count + if p c.node then 1 else 0 := by
    split <;> rfl
  induction count, c using countFrom.induct p with
  | case1 count c _ next move ih =>
      have rest : c.ahead = c.node :: next.ahead := by
        rw [ahead_eq, move]
        rfl
      have later : next.countFrom p (if p c.node then count + 1 else count) =
          (if p c.node then count + 1 else count) + next.ahead.countP p := ih
      rw [countFrom_step]
      simp only [move]
      rw [later, counted, rest, List.countP_cons]
      omega
  | case2 count c last =>
      have alone : c.ahead = [c.node] := by
        rw [ahead_eq, last]
        rfl
      rw [countFrom_step]
      simp only [last]
      rw [counted, alone, List.countP_singleton]

end Cursor

/-- The score is one more than the number of nodes that divide the path. -/
theorem complexity_eq (t : SyntaxTree) : t.complexity = 1 + t.decisions := by
  rw [complexity, Cursor.countFrom_eq, Cursor.ahead_on, countP_preorder]
  rfl

theorem functionComplexity_eq (t : SyntaxTree) :
    t.functionComplexity = 1 + ((t.childByField "body").map decisions).getD 0 := by
  unfold functionComplexity
  cases t.childByField "body" with
  | none => rfl
  | some body => exact body.complexity_eq

/-! ## Parts of a tree -/

theorem decisionsAmong_eq_sum (trees : List SyntaxTree) :
    decisionsAmong trees = (trees.map decisions).sum := by
  induction trees with
  | nil => rfl
  | cons t rest ih => rw [decisionsAmong, ih, List.map_cons, List.sum_cons]

theorem decisions_eq (t : SyntaxTree) :
    t.decisions = (if t.isDecision then 1 else 0) + (t.children.map decisions).sum := by
  obtain ⟨info, children⟩ := t
  rw [decisions, decisionsAmong_eq_sum]
  rfl

theorem decisions_le_of_mem {t child : SyntaxTree} (member : child ∈ t.children) :
    child.decisions ≤ t.decisions := by
  have part : child.decisions ≤ (t.children.map decisions).sum :=
    List.le_sum_of_mem (List.mem_map_of_mem member)
  have whole := t.decisions_eq
  omega

theorem decisions_le_of_at? {t u : SyntaxTree} {address : List Nat}
    (found : t.at? address = some u) : u.decisions ≤ t.decisions := by
  induction address generalizing t with
  | nil =>
      obtain rfl : t = u := Option.some.inj found
      exact Nat.le_refl _
  | cons i rest ih =>
      obtain ⟨child, atChild, found⟩ := Option.bind_eq_some_iff.1 found
      have below := ih found
      have here := decisions_le_of_mem (List.mem_of_getElem? atChild)
      omega

/-- A function scores at most what its node would as a piece of code. -/
theorem functionComplexity_le (t : SyntaxTree) : t.functionComplexity ≤ t.complexity := by
  rw [functionComplexity_eq, complexity_eq]
  cases found : t.childByField "body" with
  | none => simp
  | some body =>
      have below := decisions_le_of_mem (List.mem_of_find?_eq_some found)
      simp only [Option.map_some, Option.getD_some]
      omega

/-- The places that divide the path in a part of a tree are those of the tree that lie there. -/
theorem mem_map_decisionSites {root t : SyntaxTree} {address site : List Nat}
    (here : root.at? address = some t) :
    site ∈ t.decisionSites.map (address ++ ·) ↔
      address <+: site ∧ ∃ u, root.at? site = some u ∧ u.isDecision = true := by
  have under (rest : List Nat) : root.at? (address ++ rest) = t.at? rest := by
    rw [at?_append, here, Option.bind_some]
  rw [List.mem_map]
  constructor
  · rintro ⟨rest, member, rfl⟩
    rw [under]
    exact ⟨List.prefix_append address rest, mem_decisionSites.1 member⟩
  · rintro ⟨⟨rest, rfl⟩, divides⟩
    rw [under] at divides
    exact ⟨rest, mem_decisionSites.2 divides, rfl⟩

/-- The walk through a part of a tree stands at each node of the part once. The score is one more
than the number of places in the tree that divide the path and lie in the part, so it is a number of
32 bits when there are few enough of them; it adds up over the children, no part of the part scores
more, and neither does a function within the body of another. -/
theorem complexity_eq_sites {root t : SyntaxTree} {address : List Nat}
    (here : root.at? address = some t) :
    (∃ visited : List (List Nat), visited.Nodup ∧
      (∀ a, a ∈ visited ↔ (t.at? a).isSome = true) ∧
      ∀ steps, ((Cursor.on t).place? steps).map Cursor.node = visited[steps]?.bind t.at?) ∧
    (∃ sites : List (List Nat), sites.Nodup ∧
      (∀ site, site ∈ sites ↔
        address <+: site ∧ ∃ u, root.at? site = some u ∧ u.isDecision = true) ∧
      t.complexity = 1 + sites.length ∧
      (t.complexity ≤ Numeral.max32 ↔ sites.length < Numeral.max32)) ∧
    t.complexity - 1 =
      (if t.isDecision then 1 else 0) + (t.children.map fun child => child.complexity - 1).sum ∧
    (∀ below u, t.at? below = some u → u.complexity ≤ t.complexity) ∧
    ∀ f : SyntaxTree, f.childByField "body" = some t →
      ∀ below g, t.at? below = some g → g.functionComplexity ≤ f.functionComplexity := by
  refine ⟨⟨t.addressed.map Prod.fst, nodup_addressed t, fun a => ?_, fun steps => ?_⟩,
    ⟨t.decisionSites.map (address ++ ·), ?_, fun site => mem_map_decisionSites here, ?_⟩, ?_, ?_, ?_⟩
  · simp [mem_addressed, Option.isSome_iff_exists]
  · rw [Cursor.map_node_place?, Cursor.ahead_on, ← map_snd_addressed, List.getElem?_map,
      List.getElem?_map]
    cases found : t.addressed[steps]? with
    | none => rfl
    | some x => exact (mem_addressed.1 (List.mem_of_getElem? found)).symm
  · exact (nodup_decisionSites t).map fun _ _ same => List.append_cancel_left same
  · have score := t.complexity_eq
    rw [List.length_map, length_decisionSites]
    omega
  · have parts : (fun child : SyntaxTree => child.complexity - 1) = decisions := by
      funext child
      have score := child.complexity_eq
      omega
    have score := t.complexity_eq
    have whole := t.decisions_eq
    rw [parts]
    omega
  · intro below u found
    have part := decisions_le_of_at? found
    rw [complexity_eq, complexity_eq]
    omega
  · intro f body below g found
    have part := decisions_le_of_at? found
    have inner := g.functionComplexity_le
    have outer : f.functionComplexity = t.complexity := by rw [functionComplexity, body]
    rw [complexity_eq] at inner outer
    omega

def bare (kind : String) (field : Option String) (children : List SyntaxTree) : SyntaxTree :=
  .node { kind, named := true, field, span := ⟨0, 0⟩, isError := false, isMissing := false,
          hasError := false } children

/-- The shape of `() => { while (a) {} }`. -/
def loopingClosure : SyntaxTree :=
  bare "arrow_function" none [
    bare "statement_block" (some "body") [bare "while_statement" none []]]

/-- The shape of the body `{ if (a) {} return () => { while (a) {} } }`. -/
def enclosingBody : SyntaxTree :=
  bare "statement_block" (some "body") [
    bare "if_statement" none [], bare "return_statement" none [loopingClosure]]

/-- The shape of a program with a function that has this body behind a choice of its own. -/
def enclosingProgram : SyntaxTree :=
  bare "program" none [
    bare "if_statement" none [], bare "function_declaration" none [enclosingBody]]

/-- The choice before the function does not count for its body, the loop in the closure does. -/
theorem complexity_enclosing :
    enclosingProgram.at? [1, 0] = some enclosingBody ∧ enclosingBody.complexity = 3 ∧
    enclosingBody.at? [1, 0] = some loopingClosure ∧
    loopingClosure.functionComplexity ≤
      (bare "function_declaration" none [enclosingBody]).functionComplexity := by
  have here : enclosingProgram.at? [1, 0] = some enclosingBody := rfl
  have inside : enclosingBody.at? [1, 0] = some loopingClosure := rfl
  obtain ⟨-, -, -, -, closures⟩ := complexity_eq_sites here
  refine ⟨here, ?_, inside, closures _ rfl [1, 0] loopingClosure inside⟩
  rw [complexity_eq]
  decide

end SyntaxTree

end Flowgraph
