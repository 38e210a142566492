import Flowgraph.Proofs.Function.Location
import Flowgraph.Proofs.Function.Origin
import Mathlib.Data.List.Pairwise
import Mathlib.Data.Option.Basic

/-!
# Spans in order

In a tree whose nodes lie within one another and one behind the other, the parts of a node that
lowering looks into do so too. A statement has the span of its node and is listed before what is
within it. So of two spans in a graph the one made later lies within the other or behind it.
-/

namespace Flowgraph

namespace Span

def Inside (inner outer : Span) : Prop := outer.start ≤ inner.start ∧ inner.stop ≤ outer.stop

/-- The second span lies within the first or behind it. -/
def Precedes (first second : Span) : Prop := second.Inside first ∨ first.stop ≤ second.start

instance (inner outer : Span) : Decidable (inner.Inside outer) :=
  inferInstanceAs (Decidable (_ ∧ _))

variable {a b c : Span}

theorem Inside.refl (a : Span) : a.Inside a := ⟨Nat.le_refl _, Nat.le_refl _⟩

theorem Inside.trans (first : a.Inside b) (second : b.Inside c) : a.Inside c :=
  ⟨Nat.le_trans second.1 first.1, Nat.le_trans first.2 second.2⟩

/-- Of two spans in a list where each precedes those behind it, one lies within the other or they do
not overlap. -/
theorem nested_or_disjoint {spans : List Span} (ordered : spans.Pairwise Precedes) (first : a ∈ spans)
    (second : b ∈ spans) : a.Inside b ∨ b.Inside a ∨ a.stop ≤ b.start ∨ b.stop ≤ a.start := by
  let related : Span → Span → Prop := fun a b =>
    a.Inside b ∨ b.Inside a ∨ a.stop ≤ b.start ∨ b.stop ≤ a.start
  have symmetric : Std.Symm related := by
    constructor
    rintro a b (within | within | behind | behind)
    · exact .inr (.inl within)
    · exact .inl within
    · exact .inr (.inr (.inr behind))
    · exact .inr (.inr (.inl behind))
  have pairwise : spans.Pairwise related := by
    refine ordered.imp ?_
    rintro a b (within | behind)
    · exact .inr (.inl within)
    · exact .inr (.inr (.inl behind))
  exact pairwise.forall_of_forall (fun a _ => .inl (Inside.refl a)) first second

end Span

namespace SyntaxTree

/-- Nodes begin before they end, their children lie within them and one behind the other, and of the
two ways of a branch the one that is taken when the condition holds stands first. -/
structure InOrder (root : SyntaxTree) : Prop where
  forward : ∀ t ∈ root.preorder, t.span.start ≤ t.span.stop
  nested : root.Nested
  apart : ∀ t ∈ root.preorder, t.children.Pairwise fun a b => a.span.stop ≤ b.span.start
  branches : ∀ t ∈ root.preorder, t.kind = "if_statement" →
    ∀ a ∈ t.childByField "consequence", ∀ b ∈ t.childByField "alternative", a.span.stop ≤ b.span.start

variable {root t u : SyntaxTree} {x : List Nat × SyntaxTree}

theorem InOrder.of_mem_preorder (order : root.InOrder) (member : t ∈ root.preorder) : t.InOrder where
  forward := fun u below => order.forward u (mem_preorder_trans root member below)
  nested := fun u below => order.nested u (mem_preorder_trans root member below)
  apart := fun u below => order.apart u (mem_preorder_trans root member below)
  branches := fun u below => order.branches u (mem_preorder_trans root member below)

theorem mem_preorder_of_mem_parts (member : x ∈ t.parts) : x.2 ∈ t.preorder :=
  mem_preorder_of_at? (at?_of_mem_parts member).1 x.2.mem_preorder_self

theorem Nested.inside_of_at? (nested : t.Nested) {address : List Nat}
    (found : t.at? address = some u) : u.span.Inside t.span := by
  induction address generalizing t with
  | nil =>
      obtain rfl := Option.some.inj found
      exact Span.Inside.refl _
  | cons i rest ih =>
      rw [at?_cons] at found
      obtain ⟨child, atChild, below⟩ := Option.bind_eq_some_iff.1 found
      have member : child ∈ t.children := List.mem_of_getElem? atChild
      have inChild : u.span.Inside child.span := ih (nested.of_child member) below
      exact inChild.trans (nested t t.mem_preorder_self child member)

theorem InOrder.inside_of_mem_parts (order : t.InOrder) (member : x ∈ t.parts) :
    x.2.span.Inside t.span :=
  order.nested.inside_of_at? (at?_of_mem_parts member).1

/-- The parts of a node stand one behind the other. -/
theorem InOrder.pairwise_parts (order : t.InOrder) :
    t.parts.Pairwise fun x y => x.2.span.stop ≤ y.2.span.start := by
  have apart := order.apart t t.mem_preorder_self
  have single : ∀ part : Option (List Nat × SyntaxTree),
      part.toList.Pairwise fun x y => x.2.span.stop ≤ y.2.span.start := by
    intro part
    cases part <;> simp
  unfold parts
  split
  · have children := apart.filter isStatement
    rw [← map_snd_childrenWhere] at children
    exact List.pairwise_map.1 children
  split
  · next branch =>
      rw [List.pairwise_append]
      refine ⟨single _, single _, ?_⟩
      intro x consequent y alternate
      rw [Option.mem_toList] at consequent alternate
      obtain ⟨clause, found, inClause⟩ := Option.bind_eq_some_iff.1 alternate
      obtain ⟨part, isPart, rfl⟩ := Option.map_eq_some_iff.1 inClause
      have isConsequence : t.childByField "consequence" = some x.2 := by
        rw [← map_snd_fieldPart, consequent, Option.map_some]
      have isAlternative : t.childByField "alternative" = some clause.2 := by
        rw [← map_snd_fieldPart, found, Option.map_some]
      have behind : x.2.span.stop ≤ clause.2.span.start :=
        order.branches t t.mem_preorder_self branch _ isConsequence _ isAlternative
      have member : clause.2 ∈ t.children := List.mem_of_find?_eq_some isAlternative
      have inClause := (order.nested.of_child member).inside_of_at? (at?_elsePart isPart)
      exact Nat.le_trans behind inClause.1
  split
  · exact single _
  · exact List.Pairwise.nil

end SyntaxTree

/-! ## Statements in order -/

/-- The spans of the statements lie within the given one, and each precedes those listed behind
it. -/
structure Statement.InOrder (outer : Span) (list : List Statement) : Prop where
  inside : ∀ s ∈ list, s.span.Inside outer
  ordered : list.Pairwise fun a b => a.span.Precedes b.span

namespace SyntaxTree

variable {t : SyntaxTree}

/-- If the statements of each part of a node are in order, those of all parts are. -/
theorem InOrder.parts_inOrder (order : t.InOrder) {made : List Nat × SyntaxTree → List Statement}
    (each : ∀ x ∈ t.parts, Statement.InOrder x.2.span (made x)) :
    Statement.InOrder t.span (t.parts.flatMap made) := by
  constructor
  · intro s member
    obtain ⟨x, isPart, inPart⟩ := List.mem_flatMap.1 member
    exact ((each x isPart).inside s inPart).trans (order.inside_of_mem_parts isPart)
  · rw [List.pairwise_flatMap]
    refine ⟨fun x isPart => (each x isPart).ordered, ?_⟩
    refine order.pairwise_parts.imp_of_mem ?_
    intro x y isFirst isSecond behind a inFirst b inSecond
    have first := (each x isFirst).inside a inFirst
    have second := (each y isSecond).inside b inSecond
    exact .inr (Nat.le_trans first.2 (Nat.le_trans behind second.1))

/-- A statement that is listed has the span of its node, within which the others are. -/
theorem inOrder_statement (source : String) (levels : Nat) (order : t.InOrder) :
    Statement.InOrder t.span (t.statement source levels).preorder := by
  induction levels generalizing t with
  | zero =>
      refine ⟨fun s member => ?_, List.pairwise_singleton _ _⟩
      rw [List.mem_singleton.1 member]
      exact Span.Inside.refl _
  | succ levels ih =>
      have inParts : Statement.InOrder t.span
          (t.parts.flatMap fun x => (x.2.statement source levels).preorder) :=
        order.parts_inOrder fun x isPart =>
          ih (order.of_mem_preorder (mem_preorder_of_mem_parts isPart))
      have own := (comesFrom_statement source (levels + 1) t).span_eq
      rw [preorder_statement]
      generalize t.statement source (levels + 1) = s at own
      cases s with
      | block => exact inParts
      | _ =>
          refine ⟨fun other member => ?_, List.pairwise_cons.2 ⟨fun other member => ?_, inParts.ordered⟩⟩
          · rcases List.mem_cons.1 member with rfl | below
            · exact own ▸ Span.Inside.refl _
            · exact inParts.inside other below
          · exact .inl (own ▸ inParts.inside other member)

theorem inOrder_of_function? {source : String} {f : Function} (order : t.InOrder)
    (made : t.function? source = some f) : Statement.InOrder f.span f.preorder := by
  have span : f.span = t.span := by
    obtain ⟨kind, -, rfl⟩ := Option.map_eq_some_iff.1 made
    rfl
  rw [preorder_of_function? made, span]
  cases found : t.childByField "body" with
  | none => exact ⟨fun s member => absurd member List.not_mem_nil, List.Pairwise.nil⟩
  | some body =>
      have member : body ∈ t.children := List.mem_of_find?_eq_some found
      have below : body ∈ t.preorder := mem_preorder_of_child member body.mem_preorder_self
      have inBody := inOrder_statement source body.bodyLevels (order.of_mem_preorder below)
      have within : body.span.Inside t.span := order.nested t t.mem_preorder_self body member
      exact ⟨fun s listed => (inBody.inside s listed).trans within, inBody.ordered⟩

end SyntaxTree

/-! ## The graph of a function -/

def Graph.sourceSpans (g : Graph) : List Span := g.nodes.filterMap fun v => v.id.span?

theorem Graph.map_some_sourceSpans (g : Graph) :
    g.sourceSpans.map some = g.sources.map fun v => v.id.span? := by
  unfold sourceSpans sources
  induction g.nodes with
  | nil => rfl
  | cons v rest ih =>
      have click : v.id.isClickTarget = v.id.span?.isSome := by cases v.id <;> rfl
      cases found : v.id.span? with
      | none => simpa [List.filterMap_cons, List.filter_cons, click, found] using ih
      | some span => simpa [List.filterMap_cons, List.filter_cons, click, found] using ih

theorem Function.sourceSpans_graph (f : Function) (rules : LabelRules) :
    (f.graph rules).sourceSpans = f.preorder.map Statement.span := by
  have shown := congrArg (List.map Prod.fst) (f.sources_statements rules)
  rw [List.map_map, List.map_map] at shown
  have same : (f.graph rules).sourceSpans.map some = (f.preorder.map Statement.span).map some := by
    rw [Graph.map_some_sourceSpans, List.map_map]
    exact shown
  exact List.map_injective_iff.2 (Option.some_injective _) same

namespace SyntaxTree

/-- The spans in the graph of a function of a tree whose nodes are in order lie within that of the
function, and each lies within one made earlier or behind it. So they begin in the order of their
making, and of any two one lies within the other or they do not overlap. -/
theorem sourceSpans_ordered {root t : SyntaxTree} {source : String} {f : Function}
    (order : root.InOrder) (member : t ∈ root.preorder) (made : t.function? source = some f)
    (rules : LabelRules) :
    (∀ a ∈ (f.graph rules).sourceSpans, a.Inside f.span) ∧
    (f.graph rules).sourceSpans.Pairwise (fun a b => b.Inside a ∨ a.stop ≤ b.start) ∧
    (f.graph rules).sourceSpans.Pairwise (fun a b => a.start ≤ b.start) ∧
    ∀ a ∈ (f.graph rules).sourceSpans, ∀ b ∈ (f.graph rules).sourceSpans,
      a.Inside b ∨ b.Inside a ∨ a.stop ≤ b.start ∨ b.stop ≤ a.start := by
  have inFunction := order.of_mem_preorder member
  obtain ⟨inside, ordered⟩ := inOrder_of_function? inFunction made
  have forward : ∀ s ∈ f.preorder, s.span.start ≤ s.span.stop := by
    intro s listed
    obtain ⟨u, below, origin⟩ := comesFrom_of_function? made listed
    rw [origin.span_eq]
    exact inFunction.forward u below
  rw [f.sourceSpans_graph rules]
  have precedes : (f.preorder.map Statement.span).Pairwise Span.Precedes := List.pairwise_map.2 ordered
  refine ⟨?inside, precedes, ?starts, ?apart⟩
  case inside =>
    intro a isSpan
    obtain ⟨s, listed, rfl⟩ := List.mem_map.1 isSpan
    exact inside s listed
  case starts =>
    refine precedes.imp_of_mem ?_
    intro a b isFirst _ either
    obtain ⟨s, listed, rfl⟩ := List.mem_map.1 isFirst
    rcases either with within | behind
    · exact within.1
    · exact Nat.le_trans (forward s listed) behind
  case apart =>
    exact fun a isFirst b isSecond => Span.nested_or_disjoint precedes isFirst isSecond

/-- The shape of `()=>{if(a)b;else{while(c)d;}}`. -/
def nestedChoices : SyntaxTree :=
  placed "arrow_function" true 0 29 [
    (placed "formal_parameters" true 0 2 []).asField "parameters",
    (placed "statement_block" true 4 29 [
      placed "if_statement" true 5 28 [
        (placed "parenthesized_expression" true 7 10 [
          placed "identifier" true 8 9 []]).asField "condition",
        (placed "expression_statement" true 10 12 []).asField "consequence",
        (placed "else_clause" true 12 28 [
          placed "statement_block" true 16 28 [
            placed "while_statement" true 17 27 [
              (placed "parenthesized_expression" true 22 25 []).asField "condition",
              (placed "expression_statement" true 25 27 []).asField "body"]]]).asField
          "alternative"]]).asField "body"]

def nestedChoicesFunction : Function :=
  { name := "Arrow Fn"
    kind := .arrow
    span := ⟨0, 29⟩
    body := some (.block [
      .branch ⟨5, 28⟩ "a" (.plain ⟨10, 12⟩ "b;")
        (some (.block ⟨16, 28⟩ [.loop ⟨17, 27⟩ .while (.plain ⟨25, 27⟩ "d;")]))]) }

theorem nestedChoices_inOrder : nestedChoices.InOrder where
  forward := by decide
  nested := by decide
  apart := by decide
  branches := by decide

theorem sourceSpans_nestedChoices :
    nestedChoices.InOrder ∧ nestedChoices ∈ nestedChoices.preorder ∧
    nestedChoices.function? "()=>{if(a)b;else{while(c)d;}}" = some nestedChoicesFunction ∧
    (nestedChoicesFunction.graph ⟨20, []⟩).sourceSpans = [⟨5, 28⟩, ⟨10, 12⟩, ⟨17, 27⟩, ⟨25, 27⟩] ∧
    (nestedChoicesFunction.graph ⟨20, []⟩).sourceSpans.Pairwise fun a b =>
      b.Inside a ∨ a.stop ≤ b.start := by
  have made : nestedChoices.function? "()=>{if(a)b;else{while(c)d;}}" =
      some nestedChoicesFunction := rfl
  have member := nestedChoices.mem_preorder_self
  have ordered := sourceSpans_ordered nestedChoices_inOrder member made ⟨20, []⟩
  exact ⟨nestedChoices_inOrder, member, made, by decide, ordered.2.1⟩

end SyntaxTree

end Flowgraph
