import Flowgraph.Proofs.Function.Location
import Flowgraph.Proofs.Function.Lowering
import Flowgraph.Proofs.Function.Score
import Mathlib.Data.List.Forall2

/-!
# Comments

A comment is a leaf that fills no field. Taking some of the comments out of a tree leaves the
function nodes as they are, each without its own comments, and changes nothing of what is found out
about them.
-/

namespace Flowgraph

namespace SyntaxTree

/-- The node is a comment with nothing in it that fills no field of its parent. -/
structure CommentLeaf (t : SyntaxTree) : Prop where
  comment : t.isComment = true
  leaf : t.children = []
  unfielded : t.info.field = none

mutual

/-- The second tree is the first one without some of the comments in it. -/
inductive Cleared : SyntaxTree → SyntaxTree → Prop
  | node {info : NodeInfo} {children children' : List SyntaxTree} :
      ClearedAll children children' → Cleared (.node info children) (.node info children')

inductive ClearedAll : List SyntaxTree → List SyntaxTree → Prop
  | nil : ClearedAll [] []
  | keep {t t' : SyntaxTree} {rest rest' : List SyntaxTree} :
      Cleared t t' → ClearedAll rest rest' → ClearedAll (t :: rest) (t' :: rest')
  | drop {t : SyntaxTree} {rest rest' : List SyntaxTree} :
      t.CommentLeaf → ClearedAll rest rest' → ClearedAll (t :: rest) rest'

end

/-! ## What comments are not -/

section CommentLeaf

variable {t : SyntaxTree}

theorem CommentLeaf.eq_node (comment : t.CommentLeaf) : t = .node t.info [] := by
  obtain ⟨info, children⟩ := t
  rw [show children = [] from comment.leaf]
  rfl

theorem CommentLeaf.kind_ne (comment : t.CommentLeaf) {kind : String}
    (other : isCommentKind kind = false) : t.kind ≠ kind := by
  rintro rfl
  have same : isCommentKind t.kind = true := comment.comment
  rw [other] at same
  cases same

theorem CommentLeaf.isStatement_eq_false (comment : t.CommentLeaf) : t.isStatement = false := by
  simp [isStatement, comment.comment]

/-- No kind of function has a comment's name. -/
theorem CommentLeaf.isFunction_eq_false (comment : t.CommentLeaf) : t.isFunction = false := by
  have none : t.functionKind? = none := by
    unfold functionKind? FunctionKind.ofNodeKind?
    split
    case h_7 => rfl
    all_goals exact absurd ‹_› (comment.kind_ne (by decide))
  simp [isFunction, none]

theorem CommentLeaf.isDecision_eq_false (comment : t.CommentLeaf) : t.isDecision = false := by
  have kinds : ∀ kind ∈ dividingKinds, isCommentKind kind = false := by decide
  have noDividing : t.kind ∉ dividingKinds := fun member => comment.kind_ne (kinds _ member) rfl
  have noOperator : t.kind ≠ "binary_expression" := comment.kind_ne (by decide)
  simp [isDecision, noDividing, noOperator]

theorem CommentLeaf.decisions_eq_zero (comment : t.CommentLeaf) : t.decisions = 0 := by
  have divides := comment.isDecision_eq_false
  rw [comment.eq_node] at divides ⊢
  simp [decisions, decisionsAmong, divides]

end CommentLeaf

/-! ## Children -/

theorem Cleared.info_eq {t t' : SyntaxTree} : Cleared t t' → t'.info = t.info
  | .node _ => rfl

theorem Cleared.children {t t' : SyntaxTree} : Cleared t t' → ClearedAll t.children t'.children
  | .node children => children

/-- A test that no comment passes selects the same of the trees. -/
theorem ClearedAll.filter {p : SyntaxTree → Bool} {trees trees' : List SyntaxTree}
    (same : ∀ t t', Cleared t t' → p t' = p t) (fails : ∀ t, t.CommentLeaf → p t = false) :
    ClearedAll trees trees' → List.Forall₂ Cleared (trees.filter p) (trees'.filter p)
  | .nil => .nil
  | .keep first rest => by
      rw [List.filter_cons, List.filter_cons, same _ _ first]
      split
      · exact .cons first (rest.filter same fails)
      · exact rest.filter same fails
  | .drop comment rest => by
      rw [List.filter_cons, fails _ comment]
      exact rest.filter same fails

theorem rel_head? {α β : Type} {r : α → β → Prop} {list : List α} {list' : List β}
    (all : List.Forall₂ r list list') : Option.Rel r list.head? list'.head? := by
  cases all with
  | nil => exact .none
  | cons first _ => exact .some first

section Parts

variable {t t' : SyntaxTree} (cleared : Cleared t t')
include cleared

theorem Cleared.kind_eq : t'.kind = t.kind := congrArg NodeInfo.kind cleared.info_eq

theorem Cleared.span_eq : t'.span = t.span := congrArg NodeInfo.span cleared.info_eq

theorem Cleared.text_eq (source : String) : t'.text source = t.text source := by
  rw [text, text, cleared.span_eq]

theorem Cleared.whole_eq (source : String) : t'.whole source = t.whole source := by
  rw [whole, whole, cleared.span_eq, cleared.text_eq]

theorem Cleared.isFunction_eq : t'.isFunction = t.isFunction := by
  simp [isFunction, functionKind?, named, kind, cleared.info_eq]

theorem Cleared.covers_eq (offset : Nat) : t'.covers offset = t.covers offset := by
  rw [covers, covers, cleared.span_eq]

theorem Cleared.statementNodes :
    List.Forall₂ Cleared t.statementNodes t'.statementNodes := by
  rw [statementNodes_eq, statementNodes_eq]
  refine cleared.children.filter ?_ fun u comment => comment.isStatement_eq_false
  intro u u' same
  simp [isStatement, isComment, named, kind, same.info_eq]

theorem Cleared.childByField (field : String) :
    Option.Rel Cleared (t.childByField field) (t'.childByField field) := by
  have filtered : List.Forall₂ Cleared
      (t.children.filter fun child => child.info.field == some field)
      (t'.children.filter fun child => child.info.field == some field) := by
    -- A comment in front of the child is passed over since it fills no field.
    refine cleared.children.filter ?_ fun u comment => by simp [comment.unfielded]
    intro u u' same
    rw [same.info_eq]
  simpa [SyntaxTree.childByField, List.head?_filter] using rel_head? filtered

theorem Cleared.elseNode : Option.Rel Cleared t.elseNode t'.elseNode := by
  unfold SyntaxTree.elseNode
  rw [cleared.kind_eq]
  split
  · exact rel_head? cleared.statementNodes
  · exact .some cleared

end Parts

section Maps

variable {α : Type} {f : SyntaxTree → α} (same : ∀ t t', Cleared t t' → f t' = f t)
include same

theorem map_eq_of_rel {part part' : Option SyntaxTree} (parts : Option.Rel Cleared part part') :
    part'.map f = part.map f := by
  cases parts with
  | none => rfl
  | some cleared => exact congrArg some (same _ _ cleared)

/-- What is the same of each pair of nodes is the same of the lists. -/
theorem map_eq_of_forall₂ {list list' : List SyntaxTree} (all : List.Forall₂ Cleared list list') :
    list'.map f = list.map f := by
  induction all with
  | nil => rfl
  | cons first _ ih => rw [List.map_cons, List.map_cons, same _ _ first, ih]

end Maps

/-! ## Functions -/

section Lowering

variable {t t' : SyntaxTree} (source : String)

theorem Cleared.conditionText_eq (cleared : Cleared t t') :
    t'.conditionText source = t.conditionText source := by
  have inner := rel_head? cleared.statementNodes
  unfold conditionText
  rw [cleared.kind_eq, cleared.text_eq]
  generalize t.statementNodes.head? = first at inner
  generalize t'.statementNodes.head? = first' at inner
  cases inner with
  | none => rfl
  | some same => simp only [same.text_eq]

theorem partWith_eq {lower : SyntaxTree → Statement} {part part' : Option SyntaxTree} (span : Span)
    (same : ∀ t t', Cleared t t' → lower t' = lower t) (parts : Option.Rel Cleared part part') :
    partWith lower part' span = partWith lower part span := by
  rw [partWith, partWith, map_eq_of_rel same parts]

theorem Cleared.lowerWith_eq {lower : SyntaxTree → Statement} (cleared : Cleared t t')
    (same : ∀ t t', Cleared t t' → lower t' = lower t) :
    t'.lowerWith source lower = t.lowerWith source lower := by
  have alternate : ∀ clause clause', Cleared clause clause' →
      partWith lower clause'.elseNode clause'.span = partWith lower clause.elseNode clause.span := by
    intro clause clause' inClause
    rw [inClause.span_eq, partWith_eq clause.span same inClause.elseNode]
  unfold lowerWith
  rw [cleared.kind_eq, cleared.span_eq, cleared.whole_eq, map_eq_of_forall₂ same cleared.statementNodes,
    map_eq_of_rel (fun _ _ part => part.conditionText_eq source) (cleared.childByField "condition"),
    partWith_eq t.span same (cleared.childByField "consequence"),
    map_eq_of_rel alternate (cleared.childByField "alternative"),
    partWith_eq t.span same (cleared.childByField "body")]

theorem Cleared.statement_eq (levels : Nat) (cleared : Cleared t t') :
    t'.statement source levels = t.statement source levels := by
  induction levels generalizing t t' with
  | zero => exact cleared.whole_eq source
  | succ levels ih =>
      rw [statement_succ, statement_succ]
      exact cleared.lowerWith_eq source fun u u' => ih

theorem Cleared.functionBody?_eq (cleared : Cleared t t') :
    t'.functionBody? source = t.functionBody? source := by
  refine map_eq_of_rel ?_ (cleared.childByField "body")
  intro body body' same
  rw [same.kind_eq, same.whole_eq, statements, statements,
    map_eq_of_forall₂ (fun u u' inBody => inBody.statement_eq source depthLimit) same.statementNodes]

theorem Cleared.functionName_eq (cleared : Cleared t t') :
    t'.functionName source = t.functionName source := by
  unfold functionName functionKind?
  rw [cleared.kind_eq,
    map_eq_of_rel (fun _ _ same => same.text_eq source) (cleared.childByField "name")]

theorem Cleared.function?_eq (cleared : Cleared t t') :
    t'.function? source = t.function? source := by
  unfold function? functionKind?
  rw [cleared.kind_eq, cleared.span_eq, cleared.functionName_eq, cleared.functionBody?_eq]

end Lowering

/-! ## Scores -/

theorem Cleared.isDecision_eq {t t' : SyntaxTree} (cleared : Cleared t t') :
    t'.isDecision = t.isDecision := by
  have operator := cleared.childByField "operator"
  unfold isDecision
  rw [cleared.kind_eq]
  generalize t.childByField "operator" = part at operator
  generalize t'.childByField "operator" = part' at operator
  cases operator with
  | none => rfl
  | some same => simp only [same.kind_eq]

mutual

theorem Cleared.decisions_eq {t t' : SyntaxTree} (cleared : Cleared t t') :
    t'.decisions = t.decisions :=
  match cleared with
  | .node children => by
      rw [decisions, decisions, (Cleared.node children).isDecision_eq, children.decisionsAmong_eq]

theorem ClearedAll.decisionsAmong_eq {trees trees' : List SyntaxTree}
    (cleared : ClearedAll trees trees') : decisionsAmong trees' = decisionsAmong trees :=
  match cleared with
  | .nil => rfl
  | .keep first rest => by
      rw [decisionsAmong, decisionsAmong, first.decisions_eq, rest.decisionsAmong_eq]
  | .drop comment rest => by
      rw [decisionsAmong, comment.decisions_eq_zero, Nat.zero_add, rest.decisionsAmong_eq]

end

theorem Cleared.functionComplexity_eq {t t' : SyntaxTree} (cleared : Cleared t t') :
    t'.functionComplexity = t.functionComplexity := by
  have body := cleared.childByField "body"
  unfold functionComplexity
  generalize t.childByField "body" = part at body
  generalize t'.childByField "body" = part' at body
  cases body with
  | none => rfl
  | some same => simp only [complexity_eq, same.decisions_eq]

/-! ## Locations -/

def functions (t : SyntaxTree) : List SyntaxTree := t.preorder.filter isFunction

def functionsAmong (trees : List SyntaxTree) : List SyntaxTree :=
  (preorderAll trees).filter isFunction

theorem functions_node (info : NodeInfo) (children : List SyntaxTree) :
    functions (.node info children) =
      [SyntaxTree.node info children].filter isFunction ++ functionsAmong children := by
  rw [functions, preorder, functionsAmong, ← List.filter_append, List.singleton_append]

theorem functionsAmong_cons (t : SyntaxTree) (rest : List SyntaxTree) :
    functionsAmong (t :: rest) = t.functions ++ functionsAmong rest := by
  rw [functionsAmong, preorderAll, List.filter_append]
  rfl

theorem CommentLeaf.functions_eq_nil {t : SyntaxTree} (comment : t.CommentLeaf) :
    t.functions = [] := by
  have other := comment.isFunction_eq_false
  rw [comment.eq_node] at other ⊢
  simp [functions, preorder, preorderAll, other]

theorem Cleared.here {t t' : SyntaxTree} (cleared : Cleared t t') :
    List.Forall₂ Cleared ([t].filter isFunction) ([t'].filter isFunction) := by
  rw [List.filter_cons, List.filter_cons, cleared.isFunction_eq]
  split
  · exact .cons cleared .nil
  · exact .nil

mutual

theorem Cleared.functions {t t' : SyntaxTree} (cleared : Cleared t t') :
    List.Forall₂ Cleared t.functions t'.functions :=
  match cleared with
  | .node children => by
      rw [functions_node, functions_node]
      exact List.rel_append (Cleared.node children).here children.functionsAmong

theorem ClearedAll.functionsAmong {trees trees' : List SyntaxTree}
    (cleared : ClearedAll trees trees') :
    List.Forall₂ Cleared (functionsAmong trees) (functionsAmong trees') :=
  match cleared with
  | .nil => .nil
  | .keep first rest => by
      rw [functionsAmong_cons, functionsAmong_cons]
      exact List.rel_append first.functions rest.functionsAmong
  | .drop comment rest => by
      rw [functionsAmong_cons, comment.functions_eq_nil]
      exact rest.functionsAmong

end

/-- Both searches find nothing, or nodes that stand at the same place of the two lists. -/
def FindSame (list list' : List SyntaxTree) : Option SyntaxTree → Option SyntaxTree → Prop :=
  Option.Rel fun t t' => (t, t') ∈ list.zip list'

section FindSame

variable {list list' more more' : List SyntaxTree} {found found' other other' : Option SyntaxTree}

theorem FindSame.mono (same : FindSame list list' found found')
    (sub : list.zip list' ⊆ more.zip more') : FindSame more more' found found' := by
  cases same with
  | none => exact .none
  | some member => exact .some (sub member)

theorem FindSame.or (first : FindSame list list' found found')
    (second : FindSame list list' other other') :
    FindSame list list' (found.or other) (found'.or other') := by
  cases first with
  | none => exact second
  | some member => exact .some member

theorem zip_append_left (same : list.length = list'.length) :
    list.zip list' ⊆ (list ++ more).zip (list' ++ more') := by
  rw [List.zip_append same]
  exact List.subset_append_left _ _

theorem zip_append_right (same : list.length = list'.length) :
    more.zip more' ⊆ (list ++ more).zip (list' ++ more') := by
  rw [List.zip_append same]
  exact List.subset_append_right _ _

/-- What comes first in two lists of corresponding nodes is at the same place. -/
theorem findSame_head? (all : List.Forall₂ Cleared list list') :
    FindSame list list' list.head? list'.head? := by
  cases all with
  | nil => exact .none
  | cons first rest => exact .some List.mem_cons_self

end FindSame

variable {offset : Nat}

theorem CommentLeaf.find?_postorderWhere {t : SyntaxTree} (comment : t.CommentLeaf)
    (enter : SyntaxTree → Bool) : (t.postorderWhere enter).find? isFunction = none := by
  have other := comment.isFunction_eq_false
  rw [comment.eq_node] at other ⊢
  simp [postorderWhere, postorderAmong, other]

mutual

theorem Cleared.find?_postorderWhere {t t' : SyntaxTree} (cleared : Cleared t t') :
    FindSame t.functions t'.functions
      ((t.postorderWhere (·.covers offset)).find? isFunction)
      ((t'.postorderWhere (·.covers offset)).find? isFunction) :=
  match cleared with
  | @Cleared.node info children children' below => by
      have same : List.Forall₂ Cleared ([SyntaxTree.node info children].filter isFunction)
          ([SyntaxTree.node info children'].filter isFunction) := (Cleared.node below).here
      have here := findSame_head? same
      rw [List.head?_filter, List.head?_filter] at here
      -- The search comes to the node last, while the lists have it in front.
      rw [postorderWhere, postorderWhere, List.find?_append, List.find?_append, functions_node,
        functions_node]
      exact (below.find?_postorderAmong.mono (zip_append_right same.length_eq)).or
        (here.mono (zip_append_left same.length_eq))

theorem ClearedAll.find?_postorderAmong {trees trees' : List SyntaxTree}
    (cleared : ClearedAll trees trees') :
    FindSame (functionsAmong trees) (functionsAmong trees')
      ((postorderAmong (·.covers offset) trees).find? isFunction)
      ((postorderAmong (·.covers offset) trees').find? isFunction) :=
  match cleared with
  | .nil => .none
  | .keep first rest => by
      have lengths := first.functions.length_eq
      have inRest := rest.find?_postorderAmong.mono (zip_append_right lengths)
      rw [postorderAmong, postorderAmong, List.find?_append, List.find?_append, functionsAmong_cons,
        functionsAmong_cons, first.covers_eq]
      split
      · exact (first.find?_postorderWhere.mono (zip_append_left lengths)).or inRest
      · exact inRest
  | .drop comment rest => by
      rw [postorderAmong, List.find?_append, functionsAmong_cons, comment.functions_eq_nil]
      have nothing := comment.find?_postorderWhere
      split
      · rw [nothing]
        exact rest.find?_postorderAmong
      · exact rest.find?_postorderAmong

end

/-- An offset selects nodes that correspond, or nothing in both trees. -/
theorem Cleared.locate {root root' : SyntaxTree} (cleared : Cleared root root') (offset : Nat) :
    FindSame root.functions root'.functions (root.locate offset) (root'.locate offset) := by
  by_cases cursor : offset = 0
  · subst cursor
    rw [locate_zero, locate_zero, ← List.head?_filter, ← List.head?_filter]
    exact findSame_head? cleared.functions
  · rw [SyntaxTree.locate, SyntaxTree.locate, if_neg cursor, if_neg cursor, functionAt_eq,
      functionAt_eq, cleared.covers_eq]
    split
    · exact cleared.find?_postorderWhere
    · exact .none

end SyntaxTree

/-! ## Analyses -/

open SyntaxTree

variable {root root' : SyntaxTree}

theorem SyntaxTree.Cleared.locateFunction (cleared : Cleared root root') (offset : Nat) :
    (locateFunction root offset = .error .noFunction ∧
        locateFunction root' offset = .error .noFunction) ∨
      ∃ t t', (t, t') ∈ root.functions.zip root'.functions ∧
        locateFunction root offset = .ok t ∧ locateFunction root' offset = .ok t' := by
  have located := cleared.locate offset
  unfold Flowgraph.locateFunction
  generalize root.locate offset = found at located
  generalize root'.locate offset = found' at located
  cases located with
  | none => exact .inl ⟨rfl, rfl⟩
  | some pair => exact .inr ⟨_, _, pair, rfl, rfl⟩

/-- Taking comments out of a tree leaves its function nodes in their order, each without its own
comments. Every offset selects the node in the same place or nothing, and what is made of it stays
the same: the function with its statements and texts, its score and its graph. -/
theorem analyzeTree_cleared (cleared : Cleared root root') :
    root.functions.Forall₂ Cleared root'.functions ∧
    (∀ t t', (t, t') ∈ root.functions.zip root'.functions →
      t'.info = t.info ∧ (∀ source, t'.function? source = t.function? source) ∧
      t'.functionComplexity = t.functionComplexity) ∧
    ∀ offset,
      ((locateFunction root offset = .error .noFunction ∧
          locateFunction root' offset = .error .noFunction) ∨
        ∃ t t', (t, t') ∈ root.functions.zip root'.functions ∧
          locateFunction root offset = .ok t ∧ locateFunction root' offset = .ok t') ∧
      ∀ rules source, analyzeTree rules source root' offset = analyzeTree rules source root offset := by
  have functions := cleared.functions
  refine ⟨functions, ?_, fun offset => ⟨cleared.locateFunction offset, fun rules source => ?_⟩⟩
  · intro t t' pair
    have same : Cleared t t' := List.forall₂_zip functions pair
    exact ⟨same.info_eq, same.function?_eq, same.functionComplexity_eq⟩
  · rcases cleared.locateFunction offset with ⟨none, none'⟩ | ⟨t, t', pair, found, found'⟩
    · simp only [analyzeTree, none, none']
    · have same : Cleared t t' := List.forall₂_zip functions pair
      simp only [analyzeTree, found, found', same.function?_eq, same.functionComplexity_eq]

/-- The shape of `()=>{if(a)b;else c}` with the given nodes in front of `a` and of `c`. -/
def branchWith (first second : List SyntaxTree) : SyntaxTree :=
  placed "arrow_function" true 0 26 [
    (placed "statement_block" true 4 26 [
      placed "if_statement" true 5 25 [
        (placed "parenthesized_expression" true 7 14
          (first ++ [placed "identifier" true 12 13 []])).asField "condition",
        (placed "expression_statement" true 14 16 []).asField "consequence",
        (placed "else_clause" true 16 25
          (second ++ [placed "expression_statement" true 24 25 []])).asField "alternative"]]).asField
      "body"]

/-- The two comments of `()=>{if(/**/a)b;else/**/c}` can go. -/
theorem analyzeTree_branchWith :
    Cleared (branchWith [placed "comment" true 8 12 []] [placed "comment" true 20 24 []])
      (branchWith [] []) ∧
    locateFunction (branchWith [] []) 3 = .ok (branchWith [] []) ∧
    (branchWith [] []).function? "()=>{if(/**/a)b;else/**/c}" = some
      { name := "Arrow Fn", kind := .arrow, span := ⟨0, 26⟩
        body := some (.block [
          .branch ⟨5, 25⟩ "a" (.plain ⟨14, 16⟩ "b;") (some (.plain ⟨24, 25⟩ "c"))]) } ∧
    ∀ rules source,
      analyzeTree rules source (branchWith [] []) 3 =
        analyzeTree rules source
          (branchWith [placed "comment" true 8 12 []] [placed "comment" true 20 24 []]) 3 := by
  have kind : isCommentKind "comment" = true := by decide
  have comment : ∀ start stop, (placed "comment" true start stop []).CommentLeaf :=
    fun _ _ => ⟨kind, rfl, rfl⟩
  have located : locateFunction (branchWith [] []) 3 = .ok (branchWith [] []) := by
    rw [locateFunction_eq_ok_iff, locate_of_ne_zero (by decide) (by decide)]
    rfl
  have cleared : Cleared
      (branchWith [placed "comment" true 8 12 []] [placed "comment" true 20 24 []])
      (branchWith [] []) :=
    .node (.keep (.node (.keep (.node
      (.keep (.node (.drop (comment 8 12) (.keep (.node .nil) .nil)))
        (.keep (.node .nil)
          (.keep (.node (.drop (comment 20 24) (.keep (.node .nil) .nil))) .nil)))) .nil)) .nil)
  exact ⟨cleared, located, rfl, ((analyzeTree_cleared cleared).2.2 3).2⟩

end Flowgraph
