import Flowgraph.Proofs.Drawing.Places

/-!
# The structure of a graph

A graph begins with its start, ends with its end, and numbers the nodes between them in the order in
which they were made. Its edges lead from nodes to nodes, and how many edges leave a node, and with
which labels, is fixed by the kind of the node.
-/

namespace Flowgraph

namespace Graph

def out (g : Graph) (id : NodeId) : List Edge := g.edges.filter fun e => e.source = id

end Graph

namespace Function

variable (f : Function) (rules : LabelRules)

theorem drawn_bodyFragment : Fragment.Drawn 0 (.after .start) (f.bodyFragment rules) :=
  Statement.drawn_drawAll rules f.statements 0 (.after .start)

theorem mem_graph_nodes {v : Node} (member : v ∈ (f.bodyFragment rules).nodes) :
    v ∈ (f.graph rules).nodes := by
  rw [bodyFragment_nodes] at member
  rw [graph_nodes]
  exact List.mem_append_left _ (List.mem_cons_of_mem _ member)

theorem entryNode_mem : f.entryNode ∈ (f.graph rules).nodes := by simp [graph_nodes]

theorem terminalNode_mem : terminalNode ∈ (f.graph rules).nodes := by simp [graph_nodes]

/-- The edges of a graph are those of the body and, unless the body ends after a return, one that
leads on to the end. -/
theorem graph_edges :
    ((f.graph rules).isReturn (f.bodyFragment rules).place.tail = false ∧
      (f.graph rules).edges =
        (f.bodyFragment rules).edges ++ [(f.bodyFragment rules).place.edgeTo .finish]) ∨
    ((f.graph rules).isReturn (f.bodyFragment rules).place.tail = true ∧
      (f.graph rules).edges = (f.bodyFragment rules).edges) := by
  unfold graph
  simp only
  split
  · next returned => exact .inr ⟨returned, rfl⟩
  · next returned => exact .inl ⟨(Bool.not_eq_true _).mp returned, rfl⟩

theorem bodyFragment_within : (f.bodyFragment rules).Within (f.graph rules) := by
  refine ⟨fun v => f.mem_graph_nodes rules, fun e member => ?_⟩
  rcases f.graph_edges rules with ⟨-, edges⟩ | ⟨-, edges⟩
  · exact edges ▸ List.mem_append_left _ member
  · exact edges ▸ member

/-- The node after which a body ends that is not led on to the end. -/
theorem exists_return_of_tail
    (returned : (f.graph rules).isReturn (f.bodyFragment rules).place.tail = true) :
    ∃ v ∈ (f.graph rules).nodes, v.kind = .return ∧
      (f.bodyFragment rules).place = .after v.id := by
  rcases (f.drawn_bodyFragment rules).place_cases with ⟨-, -, same⟩ | ⟨v, member, after⟩
  · have entry := Graph.isReturn_id (f.graph_distinct rules) (f.entryNode_mem rules)
    simp [same, Place.after, entryNode] at returned entry
    simp [returned] at entry
  · have inGraph := f.mem_graph_nodes rules member
    refine ⟨v, inGraph, ?_, after⟩
    rw [after] at returned
    simpa [Place.after, Graph.isReturn_id (f.graph_distinct rules) inGraph] using returned

/-- The edges of a graph leave from the places of its nodes, each place once; only the place after a
return that ends the body is left by no edge. -/
theorem graph_balance :
    ((f.graph rules).isReturn (f.bodyFragment rules).place.tail = false ∧
      ((f.graph rules).edges.map Edge.place).Perm ((f.graph rules).nodes.flatMap Node.places)) ∨
    ∃ v ∈ (f.graph rules).nodes, v.kind = .return ∧ (f.bodyFragment rules).place = .after v.id ∧
      ((f.graph rules).edges.map Edge.place ++ [Place.after v.id]).Perm
        ((f.graph rules).nodes.flatMap Node.places) := by
  have balance := (f.drawn_bodyFragment rules).balance
  have places : (f.graph rules).nodes.flatMap Node.places =
      .after .start :: (f.bodyFragment rules).nodes.flatMap Node.places := by
    rw [graph_nodes, bodyFragment_nodes]
    simp [entryNode, terminalNode, Node.places]
  rw [places]
  rcases f.graph_edges rules with ⟨goesOn, edges⟩ | ⟨returned, edges⟩
  · left
    exact ⟨goesOn, by simpa [edges] using balance⟩
  · right
    obtain ⟨v, member, kind, after⟩ := f.exists_return_of_tail rules returned
    exact ⟨v, member, kind, after, by simpa [edges, after] using balance⟩

end Function

namespace Graph

variable {g : Graph} {v : Node}

/-- Among the places of all nodes, those at one node are its own. -/
theorem filter_places (distinct : (g.nodes.map (·.id)).Nodup) (member : v ∈ g.nodes) :
    (g.nodes.flatMap Node.places).filter (fun place => place.tail = v.id) = v.places := by
  obtain ⟨before, after, split⟩ := List.append_of_mem member
  have own : v.places.filter (fun place => place.tail = v.id) = v.places :=
    List.filter_eq_self.2 fun place h => by simp [Node.tail_of_mem_places h]
  have others : ∀ nodes : List Node, (∀ w ∈ nodes, w.id ≠ v.id) →
      (nodes.flatMap Node.places).filter (fun place => place.tail = v.id) = [] := by
    intro nodes apart
    rw [List.filter_eq_nil_iff]
    intro place inNodes
    obtain ⟨w, hw, inPlaces⟩ := List.mem_flatMap.1 inNodes
    simpa [Node.tail_of_mem_places inPlaces] using apart w hw
  rw [split, List.map_append, List.map_cons, List.nodup_append, List.nodup_cons] at distinct
  obtain ⟨-, ⟨notAfter, -⟩, apart⟩ := distinct
  have first := others before fun w hw =>
    apart w.id (List.mem_map_of_mem hw) v.id (List.mem_cons_self ..)
  have last := others after fun w hw same => notAfter (same ▸ List.mem_map_of_mem hw)
  simp [split, first, own, last]

end Graph

/-- What may leave a node of a kind: a branch is left by its two ways, a loop by the way into its
body and the way out, and any other node but the end by one edge without a label, or after a return
by none. -/
def NodeKind.Leaves : NodeKind → List Edge → Prop
  | .decision, out => ∃ yes no, out.Perm [yes, no] ∧ yes.label = some .yes ∧ no.label = some .no
  | .loop, out => ∃ enter leave, out.Perm [enter, leave] ∧ enter.label = some .enter ∧
      leave.label = some .leave ∧ leave.kind = .fallthrough
  | .entry, out | .statement, out | .io, out | .merge, out | .exit, out =>
      ∃ e, out = [e] ∧ e.label = none
  | .return, out => out = [] ∨ ∃ e, out = [e] ∧ e.label = none
  | .terminal, out => out = []

namespace Edge

theorem exists_of_perm_singleton {out : List Edge} {p : Place}
    (perm : (out.map Edge.place).Perm [p]) : ∃ e, out = [e] ∧ e.place = p := by
  obtain ⟨e, rfl, same⟩ := List.map_eq_singleton_iff.1 (List.perm_singleton.1 perm)
  exact ⟨e, rfl, same⟩

theorem exists_of_perm_pair {out : List Edge} {p q : Place}
    (perm : (out.map Edge.place).Perm [p, q]) :
    ∃ a b, out.Perm [a, b] ∧ a.place = p ∧ b.place = q := by
  obtain ⟨a, member, rfl⟩ := List.mem_map.1 (perm.mem_iff.2 (List.mem_cons_self ..))
  obtain ⟨before, after, rfl⟩ := List.append_of_mem member
  have front : (before ++ a :: after).Perm (a :: (before ++ after)) := List.perm_middle
  have rest : ((before ++ after).map Edge.place).Perm [q] :=
    ((front.map Edge.place).symm.trans perm).cons_inv
  obtain ⟨b, single, same⟩ := exists_of_perm_singleton rest
  exact ⟨a, b, single ▸ front, rfl, same⟩

end Edge

namespace Function

variable (f : Function) (rules : LabelRules)

theorem exists_place {e : Edge} (member : e ∈ (f.graph rules).edges) :
    ∃ v ∈ (f.graph rules).nodes, e.place ∈ v.places := by
  have inPlaces : e.place ∈ (f.graph rules).nodes.flatMap Node.places := by
    rcases f.graph_balance rules with ⟨-, balance⟩ | ⟨_, _, _, -, balance⟩
    · exact balance.mem_iff.1 (List.mem_map_of_mem member)
    · exact balance.mem_iff.1 (List.mem_append_left _ (List.mem_map_of_mem member))
  exact List.mem_flatMap.1 inPlaces

theorem source_mem {e : Edge} (member : e ∈ (f.graph rules).edges) :
    e.source ∈ (f.graph rules).nodes.map (·.id) := by
  obtain ⟨v, hv, inPlaces⟩ := f.exists_place rules member
  exact List.mem_map.2 ⟨v, hv, (Node.tail_of_mem_places inPlaces).symm⟩

theorem target_mem {e : Edge} (member : e ∈ (f.graph rules).edges) :
    e.target ∈ (f.graph rules).nodes.map (·.id) := by
  have body : ∀ e ∈ (f.bodyFragment rules).edges, e.target ∈ (f.graph rules).nodes.map (·.id) := by
    intro e he
    obtain ⟨v, hv, same⟩ := (f.drawn_bodyFragment rules).target_mem e he
    exact List.mem_map.2 ⟨v, f.mem_graph_nodes rules hv, same⟩
  rcases f.graph_edges rules with ⟨-, edges⟩ | ⟨-, edges⟩
  · rw [edges] at member
    rcases List.mem_append.1 member with inBody | last
    · exact body e inBody
    · rw [List.mem_singleton.1 last]
      exact List.mem_map.2 ⟨terminalNode, f.terminalNode_mem rules, rfl⟩
  · exact body e (edges ▸ member)

theorem filter_edge_places (id : NodeId) :
    ((f.graph rules).edges.map Edge.place).filter (fun place => place.tail = id) =
      ((f.graph rules).out id).map Edge.place := by
  rw [List.filter_map]
  rfl

/-- No edge leaves a return whose place is the one that the edges of the graph leave over. -/
theorem out_of_returned {v : Node} (member : v ∈ (f.graph rules).nodes) (kind : v.kind = .return)
    (balance : ((f.graph rules).edges.map Edge.place ++ [Place.after v.id]).Perm
      ((f.graph rules).nodes.flatMap Node.places)) : (f.graph rules).out v.id = [] := by
  have h := balance.filter fun place => place.tail = v.id
  rw [List.filter_append, filter_edge_places,
    Graph.filter_places (f.graph_distinct rules) member] at h
  simpa [Node.places, kind, Place.after] using h.length_eq

/-- The edges out of a node leave from its places, one from each, unless it is a return that ends
the body. -/
theorem out_places {v : Node} (member : v ∈ (f.graph rules).nodes) :
    (((f.graph rules).out v.id).map Edge.place).Perm v.places ∨
      (v.kind = .return ∧ (f.graph rules).out v.id = []) := by
  have distinct := f.graph_distinct rules
  have own := Graph.filter_places distinct member
  rcases f.graph_balance rules with ⟨-, balance⟩ | ⟨w, hw, kind, -, balance⟩
  · left
    have h := balance.filter fun place => place.tail = v.id
    rwa [filter_edge_places, own] at h
  · by_cases same : w.id = v.id
    · obtain rfl : w = v := List.inj_on_of_nodup_map distinct hw member same
      exact .inr ⟨kind, f.out_of_returned rules member kind balance⟩
    · left
      have h := balance.filter fun place => place.tail = v.id
      rw [List.filter_append, filter_edge_places, own] at h
      simpa [Place.after, same] using h

/-- No edge leaves from the place after a return that ends the body. -/
theorem place_ne_of_returned
    (returned : (f.graph rules).isReturn (f.bodyFragment rules).place.tail = true) :
    ∀ e ∈ (f.graph rules).edges, e.place ≠ (f.bodyFragment rules).place := by
  intro e member same
  rcases f.graph_balance rules with ⟨goesOn, -⟩ | ⟨v, hv, kind, after, balance⟩
  · rw [goesOn] at returned
    cases returned
  · have source : e.source = v.id := congrArg Place.tail (same.trans after)
    have inOut : e ∈ (f.graph rules).out v.id := List.mem_filter.2 ⟨member, by simpa using source⟩
    rw [f.out_of_returned rules hv kind balance] at inOut
    cases inOut

theorem fallthrough_of_leave {e : Edge} (member : e ∈ (f.graph rules).edges)
    (label : e.label = some .leave) : e.kind = .fallthrough := by
  have body := (f.drawn_bodyFragment rules).fallthrough_of_leave (by simp [Place.after])
  rcases f.graph_edges rules with ⟨-, edges⟩ | ⟨-, edges⟩
  · rw [edges] at member
    rcases List.mem_append.1 member with inBody | last
    · exact body e inBody label
    · rw [List.mem_singleton.1 last]
      rfl
  · exact body e (edges ▸ member) label

theorem leaves_out {v : Node} (member : v ∈ (f.graph rules).nodes) :
    v.kind.Leaves ((f.graph rules).out v.id) := by
  rcases f.out_places rules member with perm | ⟨kind, none⟩
  · cases kind : v.kind with
    | decision =>
        simp only [Node.places, kind] at perm
        obtain ⟨yes, no, perm, atYes, atNo⟩ := Edge.exists_of_perm_pair perm
        exact ⟨yes, no, perm, congrArg Place.pending atYes, congrArg Place.pending atNo⟩
    | loop =>
        simp only [Node.places, kind] at perm
        obtain ⟨enter, leave, perm, atEnter, atLeave⟩ := Edge.exists_of_perm_pair perm
        have label : leave.label = some .leave := congrArg Place.pending atLeave
        have inOut : leave ∈ (f.graph rules).out v.id := perm.mem_iff.2 (by simp)
        exact ⟨enter, leave, perm, congrArg Place.pending atEnter, label,
          f.fallthrough_of_leave rules (List.mem_filter.1 inOut).1 label⟩
    | terminal =>
        simpa [Node.places, kind, NodeKind.Leaves] using perm
    | entry | statement | io | merge | exit =>
        simp only [Node.places, kind] at perm
        obtain ⟨e, single, atNode⟩ := Edge.exists_of_perm_singleton perm
        exact ⟨e, single, congrArg Place.pending atNode⟩
    | «return» =>
        simp only [Node.places, kind] at perm
        obtain ⟨e, single, atNode⟩ := Edge.exists_of_perm_singleton perm
        exact .inr ⟨e, single, congrArg Place.pending atNode⟩
  · rw [kind]
    exact .inl none

/-- A graph begins with the start and ends with the end; the nodes between them are numbered from
one in the order of their making, so all ids are distinct; edges lead from nodes to nodes; and what
leaves each node is fixed by its kind. -/
theorem graph_structure :
    (∃ inner, (f.graph rules).nodes =
        ⟨.start, .entry, f.name⟩ :: inner ++ [⟨.finish, .terminal, "End"⟩] ∧
      inner.map (·.id.counter?) = (List.range' 1 inner.length).map some) ∧
    ((f.graph rules).nodes.map (·.id)).Nodup ∧
    (∀ e ∈ (f.graph rules).edges,
      e.source ∈ (f.graph rules).nodes.map (·.id) ∧ e.target ∈ (f.graph rules).nodes.map (·.id)) ∧
    ∀ v ∈ (f.graph rules).nodes, v.kind.Leaves ((f.graph rules).out v.id) := by
  refine ⟨⟨Site.nodes rules 1 f.sites, f.graph_nodes rules, ?_⟩, f.graph_distinct rules,
    fun e member => ⟨f.source_mem rules member, f.target_mem rules member⟩,
    fun v member => f.leaves_out rules member⟩
  simpa [Site.nodes] using Site.nodes_counters rules 1 f.sites

end Function

end Flowgraph
