import Flowgraph.Proofs.Drawing.Walk

/-!
# Connectivity

A drawing hangs together: walks lead from the place where it is entered to all its nodes, dead ones
included, and from all its nodes to the place where control leaves it. Control leaves a drawing
after its last node, which is that of a return exactly when the statements, with blocks spliced, end
in a return. Only then is a graph not led on to its end.
-/

namespace Flowgraph

/-! ## The last statement -/

namespace Statement

mutual

/-- The statements that a statement stands for when blocks are spliced into what is around them. -/
def splice : Statement → List Statement
  | .block _ body => spliceAll body
  | .branch span test consequent alternate => [.branch span test consequent alternate]
  | .loop span kind body => [.loop span kind body]
  | .return span => [.return span]
  | .plain span text => [.plain span text]

def spliceAll : List Statement → List Statement
  | [] => []
  | s :: rest => s.splice ++ spliceAll rest

end

/-- The site after which control leaves a statement that is no block. -/
def closing : Statement → Site
  | .branch .. => .merge
  | .loop .. => .exit
  | s => .statement s

mutual

theorem getLast?_sites (s : Statement) : s.sites.getLast? = s.splice.getLast?.map closing :=
  match s with
  | .block _ body => getLast?_sitesAll body
  | .branch _ _ _ (some _) => by simp [sites, splice, closing, List.getLast?_cons]
  | .branch _ _ _ none => by simp [sites, splice, closing, List.getLast?_cons]
  | .loop _ _ _ => by simp [sites, splice, closing, List.getLast?_cons]
  | .return _ => rfl
  | .plain _ _ => rfl

/-- The last site is the one after which control leaves the last statement. -/
theorem getLast?_sitesAll (body : List Statement) :
    (sitesAll body).getLast? = (spliceAll body).getLast?.map closing :=
  match body with
  | [] => rfl
  | s :: rest => by
      simp only [sitesAll, spliceAll, List.getLast?_append, getLast?_sites s, getLast?_sitesAll rest]
      cases (spliceAll rest).getLast? <;> rfl

end

theorem closing_kind (rules : LabelRules) (s : Statement) (counter : Nat) :
    (s.closing.node rules counter).kind = .return ↔ ∃ span, s = .return span := by
  cases s with
  | plain span text =>
      simp only [closing, Site.node, nodeKind]
      split <;> simp
  | _ => simp [closing, Site.node, nodeKind]

end Statement

def Function.spliced (f : Function) : List Statement := Statement.spliceAll f.bodyStatements

theorem Site.getLast?_nodes (rules : LabelRules) (sites : List Site) :
    (nodes rules 1 sites).getLast? = sites.getLast?.map fun site => site.node rules sites.length := by
  simp [nodes, List.getLast?_zipIdx, Function.comp_def]

/-- Control leaves a drawing after its last node. -/
theorem Fragment.Drawn.place_eq {F : Fragment} {counter : Nat} {place : Place}
    (drawn : Drawn counter place F) :
    F.place = (F.nodes.getLast?.map fun v => Place.after v.id).getD place := by
  induction drawn with
  | nothing => rfl
  | single => rfl
  | joined | looped => simp [Fragment.joined, Fragment.looped, List.getLast?_cons]
  | @append _ _ a b _ _ first second =>
      simp only [Fragment.append, List.getLast?_append, second, first]
      cases b.nodes.getLast? <;> rfl

/-! ## Walks through a drawing -/

namespace Graph

def Connects (g : Graph) (a b : NodeId) : Prop := ∃ walk, g.Leads a walk b

def into (g : Graph) (id : NodeId) : List Edge := g.edges.filter fun e => e.target = id

variable {g : Graph} {a b c : NodeId}

theorem Connects.refl (id : NodeId) : g.Connects id id := ⟨[], .nil⟩

theorem Connects.edge {e : Edge} (member : e ∈ g.edges) : g.Connects e.source e.target :=
  ⟨[e], .cons member rfl .nil⟩

theorem Connects.trans (first : g.Connects a b) (second : g.Connects b c) : g.Connects a c := by
  obtain ⟨walk, leads⟩ := first
  induction leads with
  | nil => exact second
  | cons member source _ ih =>
      obtain ⟨rest, onward⟩ := ih second
      exact ⟨_ :: rest, .cons member source onward⟩

theorem Connects.edgeTo {place : Place} {target : NodeId} (member : place.edgeTo target ∈ g.edges) :
    g.Connects place.tail target :=
  .edge member

end Graph

/-- Walks lead from the place where a fragment is entered to its nodes and to the place where
control leaves it, and from its nodes to that place. -/
structure Fragment.Connected (g : Graph) (place : Place) (F : Fragment) : Prop where
  through : g.Connects place.tail F.place.tail
  reached : ∀ v ∈ F.nodes, g.Connects place.tail v.id
  leaves : ∀ v ∈ F.nodes, g.Connects v.id F.place.tail

namespace Fragment.Connected

variable {g : Graph} {place : Place}

theorem single {kind : NodeKind} {span : Span} {label : String} {counter : Nat}
    (within : (single kind span label counter place).Within g) :
    Connected g place (single kind span label counter place) := by
  have step := Graph.Connects.edgeTo within.into_node
  refine ⟨step, fun v member => ?_, fun v member => ?_⟩
  · rw [List.mem_singleton.1 member]
    exact step
  · rw [List.mem_singleton.1 member]
    exact .refl _

theorem joined {decision : NodeId} {label : String} {yes no : Fragment}
    (within : (joined place decision label yes no).Within g)
    (hyes : Connected g (.choosing decision .yes) yes)
    (hno : Connected g (.choosing decision .no) no) :
    Connected g place (joined place decision label yes no) := by
  let merge := NodeId.synthetic (no.counter + 1)
  have entry : g.Connects place.tail decision := .edgeTo within.into_decision
  have fromYes : g.Connects yes.place.tail merge := .edgeTo within.yes_into_merge
  have fromNo : g.Connects no.place.tail merge := .edgeTo within.no_into_merge
  have meets : g.Connects decision merge := hyes.through.trans fromYes
  refine ⟨entry.trans meets, fun v member => ?_, fun v member => ?_⟩
  · rcases mem_nodes_joined.1 member with rfl | (inYes | inNo) | rfl
    · exact entry
    · exact entry.trans (hyes.reached v inYes)
    · exact entry.trans (hno.reached v inNo)
    · exact entry.trans meets
  · rcases mem_nodes_joined.1 member with rfl | (inYes | inNo) | rfl
    · exact meets
    · exact (hyes.leaves v inYes).trans fromYes
    · exact (hno.leaves v inNo).trans fromNo
    · exact .refl _

theorem looped {header : NodeId} {inner : Fragment}
    (within : (looped place header inner).Within g)
    (body : Connected g (.choosing header .enter) inner) :
    Connected g place (looped place header inner) := by
  let exit := NodeId.synthetic (inner.counter + 1)
  have entry : g.Connects place.tail header := .edgeTo within.into_header
  have back : g.Connects inner.place.tail header := .edge within.back_to_header
  have behind : g.Connects header exit := .edgeTo within.header_into_exit
  refine ⟨entry.trans behind, fun v member => ?_, fun v member => ?_⟩
  · rcases mem_nodes_looped.1 member with rfl | inBody | rfl
    · exact entry
    · exact entry.trans (body.reached v inBody)
    · exact entry.trans behind
  · rcases mem_nodes_looped.1 member with rfl | inBody | rfl
    · exact behind
    · exact ((body.leaves v inBody).trans back).trans behind
    · exact .refl _

theorem append {a b : Fragment} (first : Connected g place a) (second : Connected g a.place b) :
    Connected g place (a.append b) := by
  refine ⟨first.through.trans second.through, fun v member => ?_, fun v member => ?_⟩
  · exact (List.mem_append.1 member).elim (first.reached v)
      fun inSecond => first.through.trans (second.reached v inSecond)
  · exact (List.mem_append.1 member).elim
      (fun inFirst => (first.leaves v inFirst).trans second.through) (second.leaves v)

end Fragment.Connected

theorem Fragment.Drawn.connected {F : Fragment} {counter : Nat} {place : Place} {g : Graph}
    (drawn : Drawn counter place F) (within : F.Within g) : Connected g place F := by
  induction drawn with
  | nothing => exact ⟨.refl _, by simp [Fragment.nothing], by simp [Fragment.nothing]⟩
  | single => exact .single within
  | joined _ _ _ _ _ _ yes no => exact .joined within (yes within.yes) (no within.no)
  | looped _ _ _ _ body => exact .looped within (body within.inner)
  | append _ _ first second => exact .append (first within.first) (second within.second)

/-! ## The graph of a function -/

namespace Function

variable (f : Function) (rules : LabelRules)

theorem mem_body_of_ne_finish {v : Node} (member : v ∈ (f.graph rules).nodes)
    (notEnd : v.id ≠ .finish) : v = f.entryNode ∨ v ∈ (f.bodyFragment rules).nodes := by
  rw [graph_nodes, ← bodyFragment_nodes] at member
  simp only [List.cons_append, List.mem_cons, List.mem_append, List.not_mem_nil, or_false] at member
  rcases member with entry | inBody | rfl
  · exact .inl entry
  · exact .inr inBody
  · exact absurd rfl notEnd

theorem connects_start {v : Node} (member : v ∈ (f.graph rules).nodes) (notEnd : v.id ≠ .finish) :
    (f.graph rules).Connects .start v.id := by
  have body := (f.drawn_bodyFragment rules).connected (f.bodyFragment_within rules)
  rcases f.mem_body_of_ne_finish rules member notEnd with rfl | inBody
  · exact .refl _
  · exact body.reached v inBody

theorem connects_tail {v : Node} (member : v ∈ (f.graph rules).nodes) (notEnd : v.id ≠ .finish) :
    (f.graph rules).Connects v.id (f.bodyFragment rules).place.tail := by
  have body := (f.drawn_bodyFragment rules).connected (f.bodyFragment_within rules)
  rcases f.mem_body_of_ne_finish rules member notEnd with rfl | inBody
  · exact body.through
  · exact body.leaves v inBody

theorem getLast?_bodyFragment :
    (f.bodyFragment rules).nodes.getLast? =
      f.spliced.getLast?.map fun s => s.closing.node rules f.sites.length := by
  rw [bodyFragment_nodes, Site.getLast?_nodes, sites, Statement.getLast?_sitesAll, spliced,
    statements_eq_bodyStatements, Option.map_map]
  rfl

/-- The node after which control leaves the body is a return when the body ends in one. -/
theorem isReturn_tail :
    (f.graph rules).isReturn (f.bodyFragment rules).place.tail = true ↔
      ∃ span, f.spliced.getLast? = some (.return span) := by
  rw [(f.drawn_bodyFragment rules).place_eq, getLast?_bodyFragment]
  cases last : f.spliced.getLast? with
  | none =>
      have atStart := Graph.isReturn_id (f.graph_distinct rules) (f.entryNode_mem rules)
      simpa [Place.after, entryNode] using atStart
  | some s =>
      have inBody : s.closing.node rules f.sites.length ∈ (f.bodyFragment rules).nodes := by
        refine List.mem_of_getLast? ?_
        rw [getLast?_bodyFragment, last]
        rfl
      have atLast := Graph.isReturn_id (f.graph_distinct rules) (f.mem_graph_nodes rules inBody)
      simp only [Option.map_some, Option.getD_some, Place.after, atLast, decide_eq_true_eq,
        Statement.closing_kind, Option.some.injEq]

theorem into_finish_body :
    (f.bodyFragment rules).edges.filter (fun e => e.target = .finish) = [] := by
  refine List.filter_eq_nil_iff.2 fun e member => ?_
  obtain ⟨v, hv, same⟩ := (f.drawn_bodyFragment rules).target_mem e member
  rw [bodyFragment_nodes] at hv
  obtain ⟨x, -, rfl⟩ := List.mem_map.1 hv
  rw [Site.node_id] at same
  simpa [← same] using x.1.id_ne_finish x.2

/-- What leads to the end is the edge from the place where control leaves the body, unless that is
after a return. -/
theorem into_finish :
    ((f.graph rules).isReturn (f.bodyFragment rules).place.tail = false ∧
      (f.graph rules).into .finish = [(f.bodyFragment rules).place.edgeTo .finish]) ∨
    ((f.graph rules).isReturn (f.bodyFragment rules).place.tail = true ∧
      (f.graph rules).into .finish = []) := by
  have inBody := f.into_finish_body rules
  rcases f.graph_edges rules with ⟨goesOn, edges⟩ | ⟨returned, edges⟩
  · left
    refine ⟨goesOn, ?_⟩
    rw [Graph.into, edges, List.filter_append, inBody]
    simp [Place.edgeTo]
  · right
    refine ⟨returned, ?_⟩
    rw [Graph.into, edges, inBody]

theorem target_ne_finish {v : Node} (member : v ∈ (f.graph rules).nodes) (kind : v.kind = .return)
    {e : Edge} (inGraph : e ∈ (f.graph rules).edges) (source : e.source = v.id) :
    e.target ≠ .finish := by
  intro toEnd
  have inInto : e ∈ (f.graph rules).into .finish := List.mem_filter.2 ⟨inGraph, by simpa using toEnd⟩
  rcases f.into_finish rules with ⟨goesOn, into⟩ | ⟨-, into⟩
  · rw [into, List.mem_singleton] at inInto
    have tail : (f.bodyFragment rules).place.tail = v.id := by
      rw [← source, inInto]
      rfl
    rw [tail, Graph.isReturn_id (f.graph_distinct rules) member, kind] at goesOn
    simp at goesOn
  · rw [into] at inInto
    cases inInto

/-- The nodes of a body that ends in a return are all led on to the node of that return. -/
theorem exists_last_return {span : Span} (last : f.spliced.getLast? = some (.return span)) :
    ∃ before v, (f.graph rules).nodes = before ++ [v, terminalNode] ∧ v.id.span? = some span ∧
      v.kind = .return ∧ (f.bodyFragment rules).place.tail = v.id := by
  let v := (Site.statement (.return span)).node rules f.sites.length
  have lastNode : (f.bodyFragment rules).nodes.getLast? = some v := by
    rw [getLast?_bodyFragment, last]
    rfl
  obtain ⟨before, split⟩ := List.getLast?_eq_some_iff.1 lastNode
  refine ⟨f.entryNode :: before, v, ?_, rfl, rfl, ?_⟩
  · rw [graph_nodes, ← bodyFragment_nodes, split]
    simp
  · rw [(f.drawn_bodyFragment rules).place_eq, lastNode]
    rfl

/-- Every node but the end can be reached from the start. No edge leads from a return to the end. If
the body, with blocks spliced, ends in a return, then no edge leads to the end, the last node before
the end is that of the return, and it can be reached from every node but the end; otherwise one edge
leads to the end, which can be reached from every node. -/
theorem graph_connected :
    (∀ v ∈ (f.graph rules).nodes, v.id ≠ .finish → (f.graph rules).Connects .start v.id) ∧
    (∀ v ∈ (f.graph rules).nodes, v.kind = .return →
      ∀ e ∈ (f.graph rules).edges, e.source = v.id → e.target ≠ .finish) ∧
    (∀ span, f.spliced.getLast? = some (.return span) →
      (f.graph rules).into .finish = [] ∧
      ∃ before last, (f.graph rules).nodes = before ++ [last, terminalNode] ∧
        last.id.span? = some span ∧ last.kind = .return ∧
        ∀ v ∈ (f.graph rules).nodes, v.id ≠ .finish → (f.graph rules).Connects v.id last.id) ∧
    ((∀ span, f.spliced.getLast? ≠ some (.return span)) →
      (∃ e, (f.graph rules).into .finish = [e]) ∧
      ∀ v ∈ (f.graph rules).nodes, (f.graph rules).Connects v.id .finish) := by
  refine ⟨fun v => f.connects_start rules, fun v member kind e => f.target_ne_finish rules member kind,
    fun span last => ?_, fun endless => ?_⟩
  · have returned := (f.isReturn_tail rules).2 ⟨span, last⟩
    obtain ⟨before, v, nodes, atSpan, kind, tail⟩ := f.exists_last_return rules last
    refine ⟨?_, before, v, nodes, atSpan, kind, fun w member notEnd => ?_⟩
    · rcases f.into_finish rules with ⟨goesOn, -⟩ | ⟨-, into⟩
      · rw [goesOn] at returned
        cases returned
      · exact into
    · exact tail ▸ f.connects_tail rules member notEnd
  · rcases f.into_finish rules with ⟨-, into⟩ | ⟨returned, -⟩
    · refine ⟨⟨_, into⟩, fun v member => ?_⟩
      have edge : (f.bodyFragment rules).place.edgeTo .finish ∈ (f.graph rules).edges :=
        (List.mem_filter.1 (into ▸ List.mem_singleton_self _)).1
      by_cases atEnd : v.id = .finish
      · exact atEnd ▸ .refl _
      · exact (f.connects_tail rules member atEnd).trans (.edgeTo edge)
    · obtain ⟨span, last⟩ := (f.isReturn_tail rules).1 returned
      exact absurd last (endless span)

end Function

end Flowgraph
