import Flowgraph.Proofs.Drawing.Census
import Flowgraph.Proofs.Function.Lowering
import Flowgraph.Proofs.Function.Score

/-!
# Scores and graphs

The score of a function counts the places in its syntax where the path divides, and its graph draws
the branches and loops that lowering makes. The score is never less than one more than the number of
branches and loops drawn, nor than what the numbers of edges and nodes give.
-/

namespace Flowgraph

/-! ## Counting the nodes of a graph -/

theorem Statement.countP_isChoice (list : List Statement) :
    list.countP isChoice = number .branch list + number .loop list := by
  induction list with
  | nil => rfl
  | cons s rest ih =>
      rw [List.countP_cons, number_cons, number_cons, ih]
      cases s <;> simp [isChoice, shape] <;> omega

namespace Function

variable (f : Function) (rules : LabelRules)

/-- A graph shows the branches and loops of its function. -/
theorem count_choices :
    (f.graph rules).count .decision + (f.graph rules).count .loop =
      f.preorder.countP Statement.isChoice := by
  have decisions : (f.graph rules).count .decision = f.number .branch := f.count_graph rules rfl
  have loops : (f.graph rules).count .loop = f.number .loop := f.count_graph rules rfl
  rw [decisions, loops, Statement.countP_isChoice]
  rfl

theorem length_edges_le :
    (f.graph rules).edges.length + 1 ≤
      (f.graph rules).nodes.length +
        ((f.graph rules).count .decision + (f.graph rules).count .loop) := by
  have edges := f.length_edges rules
  have oneEnd : f.waysToEnd ≤ 1 := by
    unfold waysToEnd
    split <;> omega
  omega

end Function

/-! ## The body of a function node -/

namespace SyntaxTree

/-- The number of levels of a function body that are looked into: those of the statements in braces,
and none of an expression. -/
def bodyLevels (body : SyntaxTree) : Nat :=
  if body.kind = "statement_block" then depthLimit + 1 else 0

/-- The statements of a function are those that lowering makes of its body, if it has one. -/
theorem preorder_of_function? {t : SyntaxTree} {source : String} {f : Function}
    (made : t.function? source = some f) :
    f.preorder = ((t.childByField "body").map fun body =>
      (body.statement source body.bodyLevels).preorder).getD [] := by
  obtain ⟨kind, -, rfl⟩ := Option.map_eq_some_iff.1 made
  unfold Function.preorder Function.bodyStatements functionBody?
  cases t.childByField "body" with
  | none => rfl
  | some body =>
      by_cases block : body.kind = "statement_block"
      · simp [block, bodyLevels, statement_succ, lowerWith_block source _ block, statements,
          Statement.preorder]
      · simp [block, bodyLevels, statement, Statement.preorderAll]

/-- The score of a function is at least one more than the number of decisions and loops in its
graph, and that much exactly when every node of the body that divides the path has become a branch
or a loop. So the score is at least what the numbers of edges and nodes of the graph give. -/
theorem functionComplexity_ge_choices {t : SyntaxTree} {source : String} {f : Function}
    (made : t.function? source = some f) (rules : LabelRules) :
    1 + ((f.graph rules).count .decision + (f.graph rules).count .loop) ≤ t.functionComplexity ∧
    (t.functionComplexity =
        1 + ((f.graph rules).count .decision + (f.graph rules).count .loop) ↔
      ∀ body, t.childByField "body" = some body →
        ∀ address u, body.at? address = some u → u.isDecision = true →
          ∃ s, Lowers source body.bodyLevels body address s ∧ s.isChoice = true) ∧
    ((f.graph rules).edges.length : Int) - (f.graph rules).nodes.length + 2 ≤
      t.functionComplexity := by
  have drawn := f.count_choices rules
  have bound := f.length_edges_le rules
  rw [preorder_of_function? made] at drawn
  cases found : t.childByField "body" with
  | none =>
      have score : t.functionComplexity = 1 := by
        rw [functionComplexity, found]
        rfl
      rw [found] at drawn
      simp only [Option.map_none, Option.getD_none, List.countP_nil] at drawn
      refine ⟨by omega, ?_, by omega⟩
      simp [drawn, score]
  | some body =>
      have score : t.functionComplexity = 1 + body.decisions := by
        rw [functionComplexity, found]
        exact body.complexity_eq
      have counted := choiceCount_le source body.bodyLevels body
      rw [found] at drawn
      simp only [Option.map_some, Option.getD_some] at drawn
      rw [Statement.choiceCount, ← drawn] at counted
      refine ⟨by omega, ?_, by omega⟩
      simp only [Option.some.injEq, forall_eq', ← counted.2]
      omega

/-- The shape of `a => { if (a) { while (a) {} } else { a ? 1 : 2 } }`. -/
def branching : SyntaxTree :=
  bare "arrow_function" none [
    bare "statement_block" (some "body") [
      bare "if_statement" none [
        bare "statement_block" (some "consequence") [
          bare "while_statement" none [bare "statement_block" (some "body") []]],
        bare "else_clause" (some "alternative") [
          bare "statement_block" none [
            bare "expression_statement" none [bare "ternary_expression" none []]]]]]]

/-- What lowering makes of that shape; the conditional expression is not looked into. -/
def branchingFunction : Function :=
  { name := "Arrow Fn"
    kind := .arrow
    span := ⟨0, 0⟩
    body := some (.block [
      .branch ⟨0, 0⟩ "" (.block ⟨0, 0⟩ [.loop ⟨0, 0⟩ .while (.block ⟨0, 0⟩ [])])
        (some (.block ⟨0, 0⟩ [.plain ⟨0, 0⟩ ""]))]) }

theorem branching_complexity :
    branching.function? "" = some branchingFunction ∧ branching.functionComplexity = 4 ∧
    1 + ((branchingFunction.graph ⟨20, []⟩).count .decision +
      (branchingFunction.graph ⟨20, []⟩).count .loop) ≤ branching.functionComplexity ∧
    ((branchingFunction.graph ⟨20, []⟩).edges.length : Int) -
      (branchingFunction.graph ⟨20, []⟩).nodes.length + 2 ≤ branching.functionComplexity := by
  have made : branching.function? "" = some branchingFunction := rfl
  have score : branching.functionComplexity = 4 := by
    rw [functionComplexity_eq]
    decide
  have bounds := functionComplexity_ge_choices made ⟨20, []⟩
  exact ⟨made, score, bounds.1, bounds.2.2⟩

end SyntaxTree

end Flowgraph
