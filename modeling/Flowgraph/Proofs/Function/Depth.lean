import Flowgraph.Proofs.Function.Origin
import Mathlib.Data.List.Infix

/-!
# The depth limit

Lowering with a limit agrees with lowering without one down to the limit. The nodes that lie at the
limit are kept whole, and nothing lies below them. Above the limit every block has one statement for
each of its statement nodes.
-/

namespace Flowgraph

namespace Statement

mutual

def nesting : Statement → Nat
  | .block _ body => levels body
  | .branch _ _ consequent (some alternate) => max consequent.nesting alternate.nesting + 1
  | .branch _ _ consequent none => consequent.nesting + 1
  | .loop _ _ body => body.nesting + 1
  | .return _ | .plain _ _ => 0

def levels : List Statement → Nat
  | [] => 0
  | s :: rest => max (s.nesting + 1) (levels rest)

end

theorem levels_le_succ {body : List Statement} {n : Nat} :
    levels body ≤ n + 1 ↔ ∀ s ∈ body, s.nesting ≤ n := by
  induction body with
  | nil => simp [levels]
  | cons s rest ih =>
      rw [levels, Nat.max_le, Nat.add_le_add_iff_right, ih, List.forall_mem_cons]

theorem nesting_branch_le {span : Span} {test : String} {consequent : Statement}
    {alternate : Option Statement} {n : Nat} (first : consequent.nesting ≤ n)
    (second : ∀ s ∈ alternate, s.nesting ≤ n) :
    (branch span test consequent alternate).nesting ≤ n + 1 := by
  cases alternate with
  | none => exact Nat.succ_le_succ first
  | some s => exact Nat.succ_le_succ (Nat.max_le.2 ⟨first, second s rfl⟩)

end Statement

namespace SyntaxTree

/-! ## The nodes that statements are made of -/

/-- The named children of a node, without those whose kind has "comment" in its name. -/
def statementChildren (t : SyntaxTree) : List SyntaxTree :=
  t.children.filter fun c => c.named ∧ ¬ "comment".toList <:+: c.kind.toList

/-- An `else` clause stands for the statement in it; without a clause the node stands for itself. -/
def elseChild (t : SyntaxTree) : Option SyntaxTree :=
  if t.kind = "else_clause" then t.statementChildren.head? else some t

/-- A condition in parentheses is what they hold, unless that is nothing but comments. -/
def conditionChild (t : SyntaxTree) : SyntaxTree :=
  if t.kind = "parenthesized_expression" then t.statementChildren.head?.getD t else t

def loops : List (String × LoopKind) :=
  [("for_statement", .counted), ("for_in_statement", .each), ("while_statement", .while),
    ("do_statement", .doWhile)]

theorem isCommentKind_iff {kind : String} :
    isCommentKind kind = true ↔ "comment".toList <:+: kind.toList := by
  rw [isCommentKind, List.any_eq_true, List.infix_iff_prefix_suffix]
  constructor
  · rintro ⟨i, -, begins⟩
    exact ⟨_, List.isPrefixOf_iff_prefix.1 begins, List.drop_suffix i _⟩
  · rintro ⟨rest, begins, front, parts⟩
    have size := congrArg List.length parts
    rw [List.length_append] at size
    refine ⟨front.length, List.mem_range.2 (by omega), ?_⟩
    rw [← parts, List.drop_left]
    exact List.isPrefixOf_iff_prefix.2 begins

theorem statementNodes_eq_statementChildren (t : SyntaxTree) :
    t.statementNodes = t.statementChildren := by
  rw [statementNodes_eq]
  refine List.filter_congr fun child _ => ?_
  rw [Bool.eq_iff_iff, isStatement, Bool.and_eq_true, Bool.not_eq_true', decide_eq_true_iff,
    ← isCommentKind_iff, Bool.not_eq_true]
  rfl

theorem elseNode_eq_elseChild (t : SyntaxTree) : t.elseNode = t.elseChild := by
  rw [elseNode, elseChild, statementNodes_eq_statementChildren]

theorem conditionText_eq (t : SyntaxTree) (source : String) :
    t.conditionText source = t.conditionChild.text source := by
  unfold conditionText conditionChild
  rw [statementNodes_eq_statementChildren]
  split
  · cases t.statementChildren.head? <;> rfl
  · rfl

theorem loopKind?_eq_lookup (kind : String) : loopKind? kind = loops.lookup kind := by
  unfold loopKind?
  split
  iterate 4 · rfl
  · next counted each whilst doWhile =>
      simp [loops, List.lookup_cons, beq_eq_false_iff_ne.2 counted, beq_eq_false_iff_ne.2 each,
        beq_eq_false_iff_ne.2 whilst, beq_eq_false_iff_ne.2 doWhile]

theorem sizeOf_lt_of_statementChild {t u : SyntaxTree} (member : u ∈ t.statementChildren) :
    sizeOf u < sizeOf t :=
  sizeOf_lt_of_mem_children (List.mem_of_mem_filter member)

theorem sizeOf_lt_of_childByField {t u : SyntaxTree} {field : String}
    (found : t.childByField field = some u) : sizeOf u < sizeOf t :=
  sizeOf_lt_of_mem_children (List.mem_of_find?_eq_some found)

theorem sizeOf_le_of_elseChild {t u : SyntaxTree} (found : t.elseChild = some u) :
    sizeOf u ≤ sizeOf t := by
  unfold elseChild at found
  split at found
  · exact Nat.le_of_lt (sizeOf_lt_of_statementChild (List.mem_of_head? found))
  · obtain rfl := Option.some.inj found
    exact Nat.le_refl _

/-! ## Lowering without a limit -/

/-- The statement of a node, looking into all levels. -/
def fullStatement (source : String) (t : SyntaxTree) : Statement :=
  if t.kind = "statement_block" then
    .block t.span (t.statementChildren.attach.map fun u => fullStatement source u.1)
  else if t.kind = "if_statement" then
    .branch t.span
      (((t.childByField "condition").map fun u => u.conditionChild.text source).getD "")
      (match _found : t.childByField "consequence" with
        | some u => fullStatement source u
        | none => .emptyBlock t.span)
      (match _found : t.childByField "alternative" with
        | some clause =>
            some (match _inClause : clause.elseChild with
              | some u => fullStatement source u
              | none => .emptyBlock clause.span)
        | none => none)
  else if t.kind = "return_statement" then .return t.span
  else
    match loops.lookup t.kind with
    | some kind =>
        .loop t.span kind
          (match _found : t.childByField "body" with
            | some u => fullStatement source u
            | none => .emptyBlock t.span)
    | none => .plain t.span (t.text source)
termination_by sizeOf t
decreasing_by
  · exact sizeOf_lt_of_statementChild u.2
  · exact sizeOf_lt_of_childByField _found
  · exact Nat.lt_of_le_of_lt (sizeOf_le_of_elseChild _inClause) (sizeOf_lt_of_childByField _found)
  · exact sizeOf_lt_of_childByField _found

theorem fullStatement_eq (source : String) (t : SyntaxTree) :
    t.fullStatement source = t.lowerWith source (fullStatement source) := by
  rw [fullStatement, lowerWith, loopKind?_eq_lookup]
  split
  · rw [List.attach_map_val, statementNodes_eq_statementChildren]
  split
  · congr 1
    · cases t.childByField "condition" with
      | none => rfl
      | some u => exact (u.conditionText_eq source).symm
    · cases t.childByField "consequence" <;> rfl
    · cases t.childByField "alternative" with
      | none => rfl
      | some clause =>
          refine congrArg some ?_
          cases part : clause.elseChild <;> simp [partWith, elseNode_eq_elseChild, part]
  split
  · rfl
  · cases loops.lookup t.kind with
    | none => rfl
    | some kind => cases t.childByField "body" <;> rfl

/-! ## Levels -/

def alternativeNode (t : SyntaxTree) : Option SyntaxTree :=
  (t.childByField "alternative").bind elseChild

/-- The nodes that lowering looks into from a node, which are one level below it. -/
def partNodes (t : SyntaxTree) : List SyntaxTree :=
  if t.kind = "statement_block" then t.statementChildren
  else if t.kind = "if_statement" then
    (t.childByField "consequence").toList ++ t.alternativeNode.toList
  else if (loops.lookup t.kind).isSome then (t.childByField "body").toList
  else []

def nodesBelow : Nat → SyntaxTree → List SyntaxTree
  | 0, t => [t]
  | n + 1, t => t.partNodes.flatMap (nodesBelow n)

section Parts

variable {t : SyntaxTree}

theorem lowerWith_children (source : String) (lower : SyntaxTree → Statement)
    (kind : t.kind = "statement_block") :
    t.lowerWith source lower = .block t.span (t.statementChildren.map lower) := by
  rw [lowerWith_block source lower kind, statementNodes_eq_statementChildren]

theorem lowerWith_else (source : String) (lower : SyntaxTree → Statement)
    (kind : t.kind = "if_statement") :
    t.lowerWith source lower =
      .branch t.span (((t.childByField "condition").map (·.conditionText source)).getD "")
        (partWith lower (t.childByField "consequence") t.span)
        ((t.childByField "alternative").map fun clause =>
          partWith lower clause.elseChild clause.span) := by
  simp only [lowerWith_if source lower kind, elseNode_eq_elseChild]

theorem partNodes_block (kind : t.kind = "statement_block") :
    t.partNodes = t.statementChildren := if_pos kind

theorem partNodes_if (kind : t.kind = "if_statement") :
    t.partNodes = (t.childByField "consequence").toList ++ t.alternativeNode.toList := by
  have other : t.kind ≠ "statement_block" := by simp [kind]
  rw [partNodes, if_neg other, if_pos kind]

theorem partNodes_loop {kind : LoopKind} (isLoop : loopKind? t.kind = some kind) :
    t.partNodes = (t.childByField "body").toList := by
  obtain ⟨noBlock, noBranch, -⟩ := ne_of_loopKind? isLoop
  rw [partNodes, if_neg noBlock, if_neg noBranch, ← loopKind?_eq_lookup, isLoop]
  rfl

theorem partNodes_other (noBlock : t.kind ≠ "statement_block") (noBranch : t.kind ≠ "if_statement")
    (noLoop : loopKind? t.kind = none) : t.partNodes = [] := by
  rw [partNodes, if_neg noBlock, if_neg noBranch, ← loopKind?_eq_lookup, noLoop]
  rfl

theorem partWith_congr {f g : SyntaxTree → Statement} {part : Option SyntaxTree} {span : Span}
    (same : ∀ u ∈ part, f u = g u) : partWith f part span = partWith g part span := by
  cases part with
  | none => rfl
  | some u => exact same u rfl

theorem nesting_partWith_le {lower : SyntaxTree → Statement} {part : Option SyntaxTree} {span : Span}
    {n : Nat} (below : ∀ u ∈ part, (lower u).nesting ≤ n) :
    (partWith lower part span).nesting ≤ n := by
  cases part with
  | none => exact Nat.zero_le n
  | some u => exact below u rfl

/-- What a node becomes depends on what its parts become. -/
theorem lowerWith_congr (source : String) {f g : SyntaxTree → Statement}
    (same : ∀ u ∈ t.partNodes, f u = g u) : t.lowerWith source f = t.lowerWith source g := by
  by_cases block : t.kind = "statement_block"
  · rw [partNodes_block block] at same
    rw [lowerWith_children source f block, lowerWith_children source g block,
      List.map_congr_left same]
  by_cases branch : t.kind = "if_statement"
  · rw [partNodes_if branch, List.forall_mem_append] at same
    rw [lowerWith_else source f branch, lowerWith_else source g branch]
    congr 1
    · exact partWith_congr fun u found => same.1 u (Option.mem_toList.2 found)
    · cases found : t.childByField "alternative" with
      | none => rfl
      | some clause =>
          refine congrArg some (partWith_congr fun u inClause => same.2 u ?_)
          simp [alternativeNode, found, Option.mem_def.1 inClause]
  cases loop : loopKind? t.kind with
  | some kind =>
      rw [partNodes_loop loop] at same
      rw [lowerWith_loop source f loop, lowerWith_loop source g loop,
        partWith_congr fun u found => same u (Option.mem_toList.2 found)]
  | none => simp [lowerWith, block, branch, loop]

theorem nesting_lowerWith_le {source : String} {lower : SyntaxTree → Statement} {n : Nat}
    (below : ∀ u ∈ t.partNodes, (lower u).nesting ≤ n) :
    (t.lowerWith source lower).nesting ≤ n + 1 := by
  by_cases block : t.kind = "statement_block"
  · rw [partNodes_block block] at below
    rw [lowerWith_children source lower block, Statement.nesting, Statement.levels_le_succ,
      List.forall_mem_map]
    exact below
  by_cases branch : t.kind = "if_statement"
  · rw [partNodes_if branch, List.forall_mem_append] at below
    rw [lowerWith_else source lower branch]
    refine Statement.nesting_branch_le ?consequence ?alternative
    case consequence =>
      exact nesting_partWith_le fun u found => below.1 u (Option.mem_toList.2 found)
    intro s alternate
    obtain ⟨clause, found, rfl⟩ := Option.map_eq_some_iff.1 alternate
    refine nesting_partWith_le fun u inClause => below.2 u ?_
    simp [alternativeNode, found, Option.mem_def.1 inClause]
  cases loop : loopKind? t.kind with
  | some kind =>
      rw [partNodes_loop loop] at below
      rw [lowerWith_loop source lower loop]
      exact Nat.succ_le_succ
        (nesting_partWith_le fun u found => below u (Option.mem_toList.2 found))
  | none =>
      rcases lowerWith_other source lower block branch loop with same | same <;> rw [same] <;>
        exact Nat.zero_le _

end Parts

/-! ## Statements and their nodes -/

/-- Changes the statement that a part of a node became, if the node has that part. The empty block
that stands in for a part that is absent belongs to no node, so it stays. -/
def mapPart (f : SyntaxTree → Statement → Statement) (part : Option SyntaxTree) (s : Statement) :
    Statement :=
  match part with
  | some u => f u s
  | none => s

def mapParts (f : SyntaxTree → Statement → Statement) (t : SyntaxTree) : Statement → Statement
  | .block span body => .block span (List.zipWith f t.statementChildren body)
  | .branch span test consequent alternate =>
      .branch span test (mapPart f (t.childByField "consequence") consequent)
        (alternate.map (mapPart f t.alternativeNode))
  | .loop span kind body => .loop span kind (mapPart f (t.childByField "body") body)
  | s => s

/-- The statement of a node with the nodes so many levels below it kept whole. -/
def keepWhole (source : String) : Nat → SyntaxTree → Statement → Statement
  | 0, t, _ => .plain t.span (t.text source)
  | n + 1, t, s => t.mapParts (keepWhole source n) s

def partStatements (t : SyntaxTree) : Statement → List (SyntaxTree × Statement)
  | .block _ body => t.statementChildren.zip body
  | .branch _ _ consequent alternate =>
      (t.childByField "consequence").toList.zip [consequent] ++
        t.alternativeNode.toList.zip alternate.toList
  | .loop _ _ body => (t.childByField "body").toList.zip [body]
  | .return _ | .plain _ _ => []

def statementsBelow : Nat → SyntaxTree → Statement → List (SyntaxTree × Statement)
  | 0, t, s => [(t, s)]
  | n + 1, t, s => (t.partStatements s).flatMap fun x => statementsBelow n x.1 x.2

theorem mapPart_partWith (f : SyntaxTree → Statement → Statement) (lower : SyntaxTree → Statement)
    (part : Option SyntaxTree) (span : Span) :
    mapPart f part (partWith lower part span) = partWith (fun u => f u (lower u)) part span := by
  cases part <;> rfl

theorem mapParts_lowerWith (source : String) (f : SyntaxTree → Statement → Statement)
    (lower : SyntaxTree → Statement) (t : SyntaxTree) :
    t.mapParts f (t.lowerWith source lower) = t.lowerWith source fun u => f u (lower u) := by
  by_cases block : t.kind = "statement_block"
  · rw [lowerWith_children source _ block, lowerWith_children source _ block, mapParts,
      List.zipWith_map_right, List.zipWith_self]
  by_cases branch : t.kind = "if_statement"
  · rw [lowerWith_else source _ branch, lowerWith_else source _ branch, mapParts, mapPart_partWith,
      Option.map_map]
    cases found : t.childByField "alternative" with
    | none => rfl
    | some clause => simp [alternativeNode, found, mapPart_partWith]
  cases loop : loopKind? t.kind with
  | some kind =>
      rw [lowerWith_loop source _ loop, lowerWith_loop source _ loop, mapParts, mapPart_partWith]
  | none =>
      have same : t.lowerWith source (fun u => f u (lower u)) = t.lowerWith source lower := by
        simp [lowerWith, block, branch, loop]
      rw [same]
      rcases lowerWith_other source lower block branch loop with same | same <;> rw [same] <;> rfl

theorem zip_partWith (lower : SyntaxTree → Statement) (part : Option SyntaxTree) (span : Span) :
    part.toList.zip [partWith lower part span] = part.toList.map fun u => (u, lower u) := by
  cases part <;> rfl

theorem partStatements_lowerWith (source : String) (lower : SyntaxTree → Statement)
    (t : SyntaxTree) :
    t.partStatements (t.lowerWith source lower) = t.partNodes.map fun u => (u, lower u) := by
  by_cases block : t.kind = "statement_block"
  · rw [lowerWith_children source _ block, partStatements, partNodes_block block,
      ← List.map_prod_left_eq_zip]
  by_cases branch : t.kind = "if_statement"
  · rw [lowerWith_else source _ branch, partStatements, partNodes_if branch, zip_partWith,
      List.map_append]
    congr 1
    cases found : t.childByField "alternative" with
    | none => simp [alternativeNode, found]
    | some clause =>
        simp [alternativeNode, found, zip_partWith]
  cases loop : loopKind? t.kind with
  | some kind =>
      rw [lowerWith_loop source _ loop, partStatements, partNodes_loop loop, zip_partWith]
  | none =>
      rw [partNodes_other block branch loop]
      rcases lowerWith_other source lower block branch loop with same | same <;> rw [same] <;> rfl

/-! ## Lowering with a limit -/

theorem statement_eq_keepWhole (source : String) (levels : Nat) (t : SyntaxTree) :
    t.statement source levels = keepWhole source levels t (t.fullStatement source) := by
  induction levels generalizing t with
  | zero => rfl
  | succ levels ih =>
      -- Both sides are one level of lowering now, with different statements for the parts.
      rw [statement_succ, keepWhole, fullStatement_eq, mapParts_lowerWith]
      exact lowerWith_congr source fun u _ => ih u

theorem nesting_statement_le (source : String) (levels : Nat) (t : SyntaxTree) :
    (t.statement source levels).nesting ≤ levels := by
  induction levels generalizing t with
  | zero => exact Nat.le_refl 0
  | succ levels ih =>
      rw [statement_succ]
      exact nesting_lowerWith_le fun u _ => ih u

/-- A limit below which there are no nodes is none. -/
theorem statement_eq_fullStatement (source : String) {levels : Nat} {t : SyntaxTree}
    (shallow : nodesBelow levels t = []) : t.statement source levels = t.fullStatement source := by
  induction levels generalizing t with
  | zero => cases shallow
  | succ levels ih =>
      rw [nodesBelow, List.flatMap_eq_nil_iff] at shallow
      rw [statement_succ, fullStatement_eq]
      exact lowerWith_congr source fun u isPart => ih (shallow u isPart)

/-- The statements of the nodes `n` levels down have `n` levels fewer to look into. -/
theorem statementsBelow_statement (source : String) (n levels : Nat) (t : SyntaxTree) :
    statementsBelow n t (t.statement source (levels + n)) =
      (nodesBelow n t).map fun u => (u, u.statement source levels) := by
  induction n generalizing t with
  | zero => rfl
  | succ n ih =>
      rw [← Nat.add_assoc, statement_succ, statementsBelow, partStatements_lowerWith, nodesBelow,
        List.flatMap_map, List.map_flatMap]
      simp only [ih]

/-! ## The statements of a block -/

def fullStatements (t : SyntaxTree) (source : String) : List Statement :=
  t.statementChildren.map (fullStatement source)

/-- The statements of a block with the nodes at a level kept whole. The nodes in the block itself
are at level 0. -/
def keepLevelWhole (t : SyntaxTree) (source : String) (level : Nat) (made : List Statement) :
    List Statement :=
  List.zipWith (keepWhole source level) t.statementChildren made

def nodesAtLevel (t : SyntaxTree) (level : Nat) : List SyntaxTree :=
  t.statementChildren.flatMap (nodesBelow level)

def statementsAtLevel (t : SyntaxTree) (level : Nat) (made : List Statement) :
    List (SyntaxTree × Statement) :=
  (t.statementChildren.zip made).flatMap fun x => statementsBelow level x.1 x.2

variable (t : SyntaxTree) (source : String)

theorem statements_eq :
    t.statements source = t.statementChildren.map (statement source depthLimit) := by
  rw [statements, statementNodes_eq_statementChildren]

theorem statementsAtLevel_statements {level : Nat} (within : level ≤ depthLimit) :
    t.statementsAtLevel level (t.statements source) =
      (t.nodesAtLevel level).map fun u => (u, u.statement source (depthLimit - level)) := by
  rw [statementsAtLevel, statements_eq, ← List.map_prod_left_eq_zip, nodesAtLevel, List.flatMap_map,
    List.map_flatMap]
  refine List.flatMap_congr fun u _ => ?_
  rw [← statementsBelow_statement, Nat.sub_add_cancel within]

theorem map_span_statements (levels : Nat) (nodes : List SyntaxTree) :
    (nodes.map (statement source levels)).map Statement.span = nodes.map span := by
  rw [List.map_map]
  exact List.map_congr_left fun u _ => (comesFrom_statement source levels u).span_eq

/-- The statements of a block are those of lowering without a limit with the nodes at the limit kept
whole, each with what its range cuts out of the source. So none is nested deeper, and without nodes
at the limit there is no difference. At every level above it each named child of a block that is no
comment has one statement, in order. -/
theorem statements_eq_keepLevelWhole :
    t.statements source = t.keepLevelWhole source depthLimit (t.fullStatements source) ∧
    (∀ s ∈ t.statements source, s.nesting ≤ depthLimit) ∧
    (t.nodesAtLevel depthLimit = [] → t.statements source = t.fullStatements source) ∧
    t.statementsAtLevel depthLimit (t.statements source) =
      (t.nodesAtLevel depthLimit).map (fun u => (u, .plain u.span (u.text source))) ∧
    (∀ (u : SyntaxTree) (before text after : List Char),
      source.toList = before ++ (text ++ after) → Text.byteSize before = u.span.start →
      Text.byteSize (before ++ text) = u.span.stop → u.text source = String.ofList text) ∧
    (t.statements source).map Statement.span = t.statementChildren.map span ∧
    ∀ level < depthLimit,
      (t.statementsAtLevel level (t.statements source)).map Prod.fst = t.nodesAtLevel level ∧
      ∀ x ∈ t.statementsAtLevel level (t.statements source), x.1.kind = "statement_block" →
        ∃ body, x.2 = .block x.1.span body ∧
          body.map Statement.span = x.1.statementChildren.map span := by
  refine ⟨?cut, ?nested, ?shallow, ?limit, ?text, ?spans, fun level within => ⟨?nodes, ?blocks⟩⟩
  case cut =>
    rw [statements_eq, keepLevelWhole, fullStatements, List.zipWith_map_right, List.zipWith_self]
    exact List.map_congr_left fun u _ => statement_eq_keepWhole source depthLimit u
  case nested =>
    rw [statements_eq, List.forall_mem_map]
    exact fun u _ => nesting_statement_le source depthLimit u
  case shallow =>
    intro none
    rw [nodesAtLevel, List.flatMap_eq_nil_iff] at none
    rw [statements_eq]
    exact List.map_congr_left fun u member => statement_eq_fullStatement source (none u member)
  case limit =>
    -- Nothing is left to look into, so every statement at the limit is its node kept whole.
    rw [statementsAtLevel_statements t source (Nat.le_refl _), Nat.sub_self]
    rfl
  case text =>
    intro u before text after parts start stop
    exact text_eq_of_slice? (Text.slice?_eq_some_iff.2 ⟨before, after, parts, start, stop⟩)
  case spans =>
    rw [statements_eq]
    exact map_span_statements source depthLimit t.statementChildren
  case nodes =>
    rw [statementsAtLevel_statements t source (Nat.le_of_lt within), List.map_map]
    exact List.map_id _
  case blocks =>
    rw [statementsAtLevel_statements t source (Nat.le_of_lt within), List.forall_mem_map]
    intro u _ block
    obtain ⟨below, remaining⟩ : ∃ below, depthLimit - level = below + 1 :=
      ⟨depthLimit - level - 1, by omega⟩
    rw [remaining, statement_succ, lowerWith_children source _ block]
    exact ⟨_, rfl, map_span_statements source below u.statementChildren⟩

end SyntaxTree

end Flowgraph
