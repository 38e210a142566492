import Flowgraph.Proofs.Drawing.Walk

/-!
# Forward edges and loops

The nodes of a drawing are numbered in the order of their making. Forward edges lead to later nodes,
so that every cycle goes back along the edge that closes a loop. The nodes of a loop body are those
numbered between its header and its exit, and an edge into the body from elsewhere starts at the
header. So a walk from the start that comes to where a loop is closed has come to its header before.
-/

namespace Flowgraph

/-! ## Numbers -/

/-- The number of a node in the order of making; the start and the end count as zero. -/
def NodeId.rank (id : NodeId) : Nat := id.counter?.getD 0

namespace NodeId

@[simp] theorem rank_source (counter : Nat) (span : Span) : (source counter span).rank = counter :=
  rfl

@[simp] theorem rank_synthetic (counter : Nat) : (synthetic counter).rank = counter := rfl

def Between (first last id : NodeId) : Prop := first.rank < id.rank ∧ id.rank < last.rank

end NodeId

namespace Fragment

variable {F : Fragment} {counter : Nat} {place : Place}

theorem Drawn.counter_le (drawn : Drawn counter place F) : counter ≤ F.counter := by
  induction drawn with
  | nothing => exact Nat.le_refl _
  | single => exact Nat.le_succ _
  | joined _ _ _ _ _ _ yes no =>
      simp only [Fragment.joined]
      omega
  | looped _ _ _ _ body =>
      simp only [Fragment.looped]
      omega
  | append _ _ first second => exact Nat.le_trans first second

theorem Drawn.rank_mem (drawn : Drawn counter place F) :
    ∀ v ∈ F.nodes, counter < v.id.rank ∧ v.id.rank ≤ F.counter := by
  induction drawn with
  | nothing => simp [Fragment.nothing]
  | single => simp [Fragment.single]
  | joined span label counter place drawnYes drawnNo yes no =>
      intro v member
      have bound := drawnYes.counter_le
      have bound' := drawnNo.counter_le
      simp only [Fragment.joined]
      rcases mem_nodes_joined.1 member with rfl | (inYes | inNo) | rfl
      · simp only [NodeId.rank_source]
        omega
      · have := yes v inYes
        omega
      · have := no v inNo
        omega
      · simp only [NodeId.rank_synthetic]
        omega
  | looped span counter place drawnBody body =>
      intro v member
      have bound := drawnBody.counter_le
      simp only [Fragment.looped]
      rcases mem_nodes_looped.1 member with rfl | inBody | rfl
      · simp only [NodeId.rank_source]
        omega
      · have := body v inBody
        omega
      · simp only [NodeId.rank_synthetic]
        omega
  | append drawnFirst drawnSecond first second =>
      intro v member
      have bound := drawnFirst.counter_le
      have bound' := drawnSecond.counter_le
      simp only [Fragment.append]
      rcases List.mem_append.1 member with inFirst | inSecond
      · have := first v inFirst
        omega
      · have := second v inSecond
        omega

theorem Drawn.rank_target (drawn : Drawn counter place F) {e : Edge} (member : e ∈ F.edges) :
    counter < e.target.rank ∧ e.target.rank ≤ F.counter := by
  obtain ⟨v, hv, same⟩ := drawn.target_mem e member
  exact same ▸ drawn.rank_mem v hv

theorem Drawn.source_cases (drawn : Drawn counter place F) {e : Edge} (member : e ∈ F.edges) :
    e.source = place.tail ∨ ∃ v ∈ F.nodes, v.id = e.source := by
  have left : e.place ∈ F.edges.map Edge.place ++ [F.place] :=
    List.mem_append_left _ (List.mem_map_of_mem member)
  rcases List.mem_cons.1 (drawn.balance.mem_iff.1 left) with entry | inNodes
  · exact .inl (congrArg Place.tail entry)
  · obtain ⟨v, hv, inPlaces⟩ := List.mem_flatMap.1 inNodes
    exact .inr ⟨v, hv, (Node.tail_of_mem_places inPlaces).symm⟩

theorem Drawn.tail_cases (drawn : Drawn counter place F) :
    F.place.tail = place.tail ∨ ∃ v ∈ F.nodes, v.id = F.place.tail := by
  rcases drawn.place_cases with ⟨-, -, same⟩ | ⟨v, member, after⟩
  · exact .inl (congrArg Place.tail same)
  · exact .inr ⟨v, member, (congrArg Place.tail after).symm⟩

theorem Drawn.rank_tail_le (drawn : Drawn counter place F) (entry : place.tail.rank ≤ counter) :
    F.place.tail.rank ≤ F.counter := by
  rcases drawn.tail_cases with same | ⟨v, member, same⟩
  · rw [same]
    exact Nat.le_trans entry drawn.counter_le
  · rw [← same]
    exact (drawn.rank_mem v member).2

/-- Forward edges lead to nodes with greater numbers. -/
theorem Drawn.rank_lt_of_forward (drawn : Drawn counter place F)
    (entry : place.tail.rank ≤ counter) :
    ∀ e ∈ F.edges, e.kind = .fallthrough → e.source.rank < e.target.rank := by
  induction drawn with
  | nothing => simp [Fragment.nothing]
  | single =>
      intro e member _
      obtain rfl := List.mem_singleton.1 member
      exact Nat.lt_succ_of_le entry
  | joined span label counter place drawnYes drawnNo yes no =>
      intro e member forward
      have bound := drawnYes.counter_le
      have bound' := drawnNo.counter_le
      have fromYes := drawnYes.rank_tail_le (Nat.le_refl _)
      have fromNo := drawnNo.rank_tail_le bound
      rcases mem_edges_joined.1 member with rfl | (inYes | inNo) | rfl | rfl
      · exact Nat.lt_succ_of_le entry
      · exact yes (Nat.le_refl _) e inYes forward
      · exact no bound e inNo forward
      · exact Nat.lt_succ_of_le (Nat.le_trans fromYes bound')
      · exact Nat.lt_succ_of_le fromNo
  | looped span counter place drawnBody body =>
      intro e member forward
      have bound := drawnBody.counter_le
      rcases mem_edges_looped.1 member with rfl | inBody | rfl | rfl
      · exact Nat.lt_succ_of_le entry
      · exact body (Nat.le_refl _) e inBody forward
      · cases forward
      · exact Nat.lt_succ_of_le bound
  | append drawnFirst _ first second =>
      intro e member forward
      rcases List.mem_append.1 member with inFirst | inSecond
      · exact first entry e inFirst forward
      · exact second (drawnFirst.rank_tail_le entry) e inSecond forward

end Fragment

/-! ## Loops -/

/-- An edge among the others leads back to the header of a loop with the given exit. It starts at
the header or in the body, the nodes numbered between header and exit, and edges that come into the
body from elsewhere start at the header. -/
structure ClosesLoop (nodes : List Node) (edges : List Edge) (back : Edge) (exit : NodeId) :
    Prop where
  header_mem : ⟨back.target, .loop, "Loop"⟩ ∈ nodes
  exit_mem : ⟨exit, .exit, ""⟩ ∈ nodes
  leaves : (Place.choosing back.target .leave).edgeTo exit ∈ edges
  starts : back.source = back.target ∨ back.target.Between exit back.source
  entered : ∀ e ∈ edges, back.target.Between exit e.target →
    e.source = back.target ∨ back.target.Between exit e.source

namespace Fragment

variable {F : Fragment} {counter : Nat} {place : Place}

/-- A loop of a drawing is one of whatever contains the drawing and leads to none of its nodes. -/
theorem Drawn.closesLoop (drawn : Drawn counter place F) {back : Edge} {exit : NodeId}
    (closes : ClosesLoop F.nodes F.edges back exit) {nodes : List Node} {edges : List Edge}
    (keepsNodes : ∀ v ∈ F.nodes, v ∈ nodes) (keepsEdges : ∀ e ∈ F.edges, e ∈ edges)
    (apart : ∀ e ∈ edges, e ∈ F.edges ∨ e.target.rank ≤ counter ∨ F.counter < e.target.rank) :
    ClosesLoop nodes edges back exit where
  header_mem := keepsNodes _ closes.header_mem
  exit_mem := keepsNodes _ closes.exit_mem
  leaves := keepsEdges _ closes.leaves
  starts := closes.starts
  entered := by
    intro e member between
    have first : counter < back.target.rank := (drawn.rank_mem _ closes.header_mem).1
    have last : exit.rank ≤ F.counter := (drawn.rank_mem _ closes.exit_mem).2
    rcases apart e member with inside | before | behind
    · exact closes.entered e inside between
    · exact absurd (Nat.lt_trans first between.1) (Nat.not_lt.2 before)
    · exact absurd (Nat.lt_of_lt_of_le between.2 last) (Nat.lt_asymm behind)

/-- The edge back of a loop whose body is drawn closes that loop. -/
theorem Drawn.closesLoop_looped {span : Span}
    (drawn : Drawn (counter + 1) (.choosing (.source (counter + 1) span) .enter) F) :
    ClosesLoop (Fragment.looped place (.source (counter + 1) span) F).nodes
      (Fragment.looped place (.source (counter + 1) span) F).edges
      (F.place.backTo (.source (counter + 1) span)) (.synthetic (F.counter + 1)) where
  header_mem := mem_nodes_looped.2 (.inl rfl)
  exit_mem := mem_nodes_looped.2 (.inr (.inr rfl))
  leaves := mem_edges_looped.2 (.inr (.inr (.inr rfl)))
  starts := by
    rcases drawn.tail_cases with same | ⟨v, member, same⟩
    · exact .inl same
    · have between := drawn.rank_mem v member
      rw [same] at between
      exact .inr ⟨between.1, Nat.lt_succ_of_le between.2⟩
  entered := by
    intro e member between
    rcases mem_edges_looped.1 member with rfl | inBody | rfl | rfl
    · exact absurd between.1 (Nat.lt_irrefl _)
    · rcases drawn.source_cases inBody with same | ⟨v, hv, same⟩
      · exact .inl same
      · have between := drawn.rank_mem v hv
        rw [same] at between
        exact .inr ⟨between.1, Nat.lt_succ_of_le between.2⟩
    · exact absurd between.1 (Nat.lt_irrefl _)
    · exact absurd between.2 (Nat.lt_irrefl _)

/-- Every edge of a drawing that leads back closes a loop of it. -/
theorem Drawn.exists_closesLoop (drawn : Drawn counter place F) :
    ∀ back ∈ F.edges, back.kind = .loopBack → ∃ exit, ClosesLoop F.nodes F.edges back exit := by
  induction drawn with
  | nothing => simp [Fragment.nothing]
  | single => simp [Fragment.single, Place.edgeTo]
  | joined span label counter place drawnYes drawnNo yes no =>
      intro back member leadsBack
      have bound := drawnYes.counter_le
      have bound' := drawnNo.counter_le
      rcases mem_edges_joined.1 member with rfl | (inYes | inNo) | rfl | rfl
      · cases leadsBack
      · obtain ⟨exit, closes⟩ := yes back inYes leadsBack
        refine ⟨exit, drawnYes.closesLoop closes (fun v h => mem_nodes_joined.2 (.inr (.inl (.inl h))))
          (fun e h => mem_edges_joined.2 (.inr (.inl (.inl h)))) fun e inJoined => ?_⟩
        rcases mem_edges_joined.1 inJoined with rfl | (inside | other) | rfl | rfl
        · exact .inr (.inl (Nat.le_refl _))
        · exact .inl inside
        · exact .inr (.inr (drawnNo.rank_target other).1)
        · exact .inr (.inr (Nat.lt_succ_of_le bound'))
        · exact .inr (.inr (Nat.lt_succ_of_le bound'))
      · obtain ⟨exit, closes⟩ := no back inNo leadsBack
        refine ⟨exit, drawnNo.closesLoop closes (fun v h => mem_nodes_joined.2 (.inr (.inl (.inr h))))
          (fun e h => mem_edges_joined.2 (.inr (.inl (.inr h)))) fun e inJoined => ?_⟩
        rcases mem_edges_joined.1 inJoined with rfl | (other | inside) | rfl | rfl
        · exact .inr (.inl bound)
        · exact .inr (.inl (drawnYes.rank_target other).2)
        · exact .inl inside
        · exact .inr (.inr (Nat.lt_succ_self _))
        · exact .inr (.inr (Nat.lt_succ_self _))
      · cases leadsBack
      · cases leadsBack
  | looped span counter place drawnBody body =>
      intro back member leadsBack
      rcases mem_edges_looped.1 member with rfl | inBody | rfl | rfl
      · cases leadsBack
      · obtain ⟨exit, closes⟩ := body back inBody leadsBack
        refine ⟨exit, drawnBody.closesLoop closes (fun v h => mem_nodes_looped.2 (.inr (.inl h)))
          (fun e h => mem_edges_looped.2 (.inr (.inl h))) fun e inLooped => ?_⟩
        rcases mem_edges_looped.1 inLooped with rfl | inside | rfl | rfl
        · exact .inr (.inl (Nat.le_refl _))
        · exact .inl inside
        · exact .inr (.inl (Nat.le_refl _))
        · exact .inr (.inr (Nat.lt_succ_self _))
      · exact ⟨_, drawnBody.closesLoop_looped⟩
      · cases leadsBack
  | append drawnFirst drawnSecond first second =>
      intro back member leadsBack
      rcases List.mem_append.1 member with inFirst | inSecond
      · obtain ⟨exit, closes⟩ := first back inFirst leadsBack
        refine ⟨exit, drawnFirst.closesLoop closes (fun v h => List.mem_append_left _ h)
          (fun e h => List.mem_append_left _ h) fun e inBoth => ?_⟩
        rcases List.mem_append.1 inBoth with inside | other
        · exact .inl inside
        · exact .inr (.inr (drawnSecond.rank_target other).1)
      · obtain ⟨exit, closes⟩ := second back inSecond leadsBack
        refine ⟨exit, drawnSecond.closesLoop closes (fun v h => List.mem_append_right _ h)
          (fun e h => List.mem_append_right _ h) fun e inBoth => ?_⟩
        rcases List.mem_append.1 inBoth with other | inside
        · exact .inr (.inl (drawnFirst.rank_target other).2)
        · exact .inl inside

/-- The edges back of a drawing lead to its loops, one to each. -/
theorem Drawn.backEdges_perm (drawn : Drawn counter place F) :
    ((F.edges.filter fun e => e.kind = .loopBack).map (·.target)).Perm
      ((F.nodes.filter fun v => v.kind = .loop).map (·.id)) := by
  induction drawn with
  | nothing => exact List.Perm.refl _
  | single kind span label counter place plain =>
      rcases plain with rfl | rfl | rfl <;> exact List.Perm.refl _
  | joined span label counter place _ _ yes no =>
      simpa [Fragment.joined, Place.edgeTo] using yes.append no
  | looped span counter place _ body =>
      simpa [Fragment.looped, Place.edgeTo, Place.backTo] using
        List.perm_append_singleton _ _ |>.trans (body.cons _)
  | append _ _ first second =>
      simpa [Fragment.append] using first.append second

end Fragment

/-! ## Order and dominance in a graph -/

namespace Graph

/-- The first id is that of a node, the second that of a later one. -/
def Precedes (g : Graph) (a b : NodeId) : Prop := [a, b].Sublist (g.nodes.map (·.id))

/-- The graph without the edges that lead back. -/
def forward (g : Graph) : Graph :=
  { g with edges := g.edges.filter fun e => e.kind = .fallthrough }

def Dominates (g : Graph) (a b : NodeId) : Prop :=
  ∀ walk, g.Leads .start walk b → a ∈ NodeId.start :: walk.map (·.target)

variable {g : Graph} {a b c : NodeId}

theorem Precedes.irrefl (distinct : (g.nodes.map (·.id)).Nodup) : ¬ g.Precedes a a := by
  intro twice
  simpa using distinct.sublist twice

theorem Precedes.trans (distinct : (g.nodes.map (·.id)).Nodup) (first : g.Precedes a b)
    (second : g.Precedes b c) : g.Precedes a c := by
  unfold Precedes at first second ⊢
  generalize g.nodes.map (·.id) = ids at distinct first second ⊢
  induction ids with
  | nil => cases first
  | cons id rest ih =>
      obtain ⟨fresh, distinct⟩ := List.nodup_cons.1 distinct
      cases first with
      | cons _ first =>
          cases second with
          | cons _ second => exact (ih distinct first second).cons _
          | cons_cons _ _ => exact absurd (first.subset (by simp)) fresh
      | cons_cons _ first =>
          cases second with
          | cons _ second => exact (List.singleton_sublist.2 (second.subset (by simp))).cons_cons _
          | cons_cons _ _ => exact absurd (List.singleton_sublist.1 first) fresh

/-- Where forward edges lead to later nodes, so do walks along them. -/
theorem precedes_of_leads (distinct : (g.nodes.map (·.id)).Nodup)
    (ascends : ∀ e ∈ g.edges, e.kind = .fallthrough → g.Precedes e.source e.target)
    {walk : List Edge} (leads : g.forward.Leads a walk b) :
    (walk = [] ∧ a = b) ∨ g.Precedes a b := by
  induction leads with
  | nil => exact .inl ⟨rfl, rfl⟩
  | cons member source _ ih =>
      obtain ⟨inGraph, kind⟩ := List.mem_filter.1 member
      have step := ascends _ inGraph (by simpa using kind)
      rw [source] at step
      rcases ih with ⟨-, same⟩ | later
      · exact .inr (same ▸ step)
      · exact .inr (step.trans distinct later)

/-- A walk from outside into a region that is entered from one id only comes to that id. -/
theorem mem_of_leads {region : NodeId → Prop}
    (entered : ∀ e ∈ g.edges, region e.target → e.source = a ∨ region e.source)
    {walk : List Edge} (leads : g.Leads c walk b) (outside : ¬ region c)
    (inside : b = a ∨ region b) : a ∈ c :: walk.map (·.target) := by
  induction leads with
  | nil =>
      rcases inside with rfl | inRegion
      · exact List.mem_cons_self ..
      · exact absurd inRegion outside
  | @cons id last e walk member source _ ih =>
      by_cases inRegion : region e.target
      · rcases entered e member inRegion with same | before
        · rw [← same, source]
          exact List.mem_cons_self ..
        · exact absurd (source ▸ before) outside
      · exact List.mem_cons_of_mem _ (ih inRegion inside)

end Graph

/-! ## The graph of a function -/

/-- In a list that is ordered by number, the id with the smaller number stands first. -/
theorem NodeId.pair_sublist {ids : List NodeId} (ordered : ids.Pairwise fun a b => a.rank < b.rank)
    {a b : NodeId} (ha : a ∈ ids) (hb : b ∈ ids) (less : a.rank < b.rank) :
    [a, b].Sublist ids := by
  induction ids with
  | nil => cases ha
  | cons id rest ih =>
      obtain ⟨first, ordered⟩ := List.pairwise_cons.1 ordered
      rcases List.mem_cons.1 ha with rfl | inRest
      · rcases List.mem_cons.1 hb with rfl | later
        · exact absurd less (Nat.lt_irrefl _)
        · exact (List.singleton_sublist.2 later).cons_cons _
      · rcases List.mem_cons.1 hb with rfl | later
        · exact absurd less (Nat.lt_asymm (first a inRest))
        · exact (ih ordered inRest later).cons _

namespace Function

variable (f : Function) (rules : LabelRules)

/-- The ids of a graph but for the end. -/
def bodyIds : List NodeId := .start :: (f.bodyFragment rules).nodes.map (·.id)

theorem graph_ids : (f.graph rules).nodes.map (·.id) = f.bodyIds rules ++ [.finish] := by
  rw [graph_nodes, bodyIds, bodyFragment_nodes]
  simp [entryNode, terminalNode]

theorem bodyIds_ordered : (f.bodyIds rules).Pairwise fun a b => a.rank < b.rank := by
  have ranks : (f.bodyIds rules).map NodeId.rank = List.range' 0 (f.sites.length + 1) := by
    have counters := congrArg (List.map fun n => n.getD 0) (Site.nodes_counters rules 1 f.sites)
    rw [bodyIds, bodyFragment_nodes]
    simpa [NodeId.rank, NodeId.counter?, Function.comp_def, List.range'_succ] using counters
  rw [← List.pairwise_map, ranks]
  exact List.pairwise_lt_range'

theorem precedes_of_rank_lt {a b : NodeId} (ha : a ∈ f.bodyIds rules) (hb : b ∈ f.bodyIds rules)
    (less : a.rank < b.rank) : (f.graph rules).Precedes a b := by
  rw [Graph.Precedes, graph_ids]
  exact (NodeId.pair_sublist (f.bodyIds_ordered rules) ha hb less).trans
    (List.sublist_append_left _ _)

theorem precedes_finish {a : NodeId} (ha : a ∈ f.bodyIds rules) :
    (f.graph rules).Precedes a .finish := by
  rw [Graph.Precedes, graph_ids]
  exact (List.singleton_sublist.2 ha).append (List.Sublist.refl [NodeId.finish])

theorem start_mem_bodyIds : NodeId.start ∈ f.bodyIds rules := List.mem_cons_self ..

theorem id_mem_bodyIds {v : Node} (member : v ∈ (f.bodyFragment rules).nodes) :
    v.id ∈ f.bodyIds rules := List.mem_cons_of_mem _ (List.mem_map_of_mem member)

theorem source_mem_bodyIds {e : Edge} (member : e ∈ (f.bodyFragment rules).edges) :
    e.source ∈ f.bodyIds rules := by
  rcases (f.drawn_bodyFragment rules).source_cases member with same | ⟨v, hv, same⟩
  · exact same ▸ f.start_mem_bodyIds rules
  · exact same ▸ f.id_mem_bodyIds rules hv

theorem target_mem_bodyIds {e : Edge} (member : e ∈ (f.bodyFragment rules).edges) :
    e.target ∈ f.bodyIds rules := by
  obtain ⟨v, hv, same⟩ := (f.drawn_bodyFragment rules).target_mem e member
  exact same ▸ f.id_mem_bodyIds rules hv

theorem tail_mem_bodyIds : (f.bodyFragment rules).place.tail ∈ f.bodyIds rules := by
  rcases (f.drawn_bodyFragment rules).tail_cases with same | ⟨v, hv, same⟩
  · exact same ▸ f.start_mem_bodyIds rules
  · exact same ▸ f.id_mem_bodyIds rules hv

theorem mem_graph_edges {e : Edge} (member : e ∈ (f.graph rules).edges) :
    e ∈ (f.bodyFragment rules).edges ∨ e = (f.bodyFragment rules).place.edgeTo .finish := by
  rcases f.graph_edges rules with ⟨-, edges⟩ | ⟨-, edges⟩
  · rw [edges] at member
    exact (List.mem_append.1 member).imp_right List.mem_singleton.1
  · exact .inl (edges ▸ member)

theorem precedes_of_forward (e : Edge) (member : e ∈ (f.graph rules).edges)
    (forward : e.kind = .fallthrough) : (f.graph rules).Precedes e.source e.target := by
  rcases f.mem_graph_edges rules member with inBody | rfl
  · exact f.precedes_of_rank_lt rules (f.source_mem_bodyIds rules inBody)
      (f.target_mem_bodyIds rules inBody)
      ((f.drawn_bodyFragment rules).rank_lt_of_forward (Nat.le_refl 0) e inBody forward)
  · exact f.precedes_finish rules (f.tail_mem_bodyIds rules)

theorem eq_nil_of_leads_forward {id : NodeId} {walk : List Edge}
    (leads : (f.graph rules).forward.Leads id walk id) : walk = [] := by
  have distinct := f.graph_distinct rules
  rcases Graph.precedes_of_leads distinct (f.precedes_of_forward rules) leads with ⟨empty, -⟩ | later
  · exact empty
  · exact absurd later (Graph.Precedes.irrefl distinct)

theorem exists_closesLoop {back : Edge} (member : back ∈ (f.graph rules).edges)
    (leadsBack : back.kind = .loopBack) :
    back ∈ (f.bodyFragment rules).edges ∧
      ∃ exit, ClosesLoop (f.bodyFragment rules).nodes (f.graph rules).edges back exit := by
  have drawn := f.drawn_bodyFragment rules
  rcases f.mem_graph_edges rules member with inBody | rfl
  · obtain ⟨exit, closes⟩ := drawn.exists_closesLoop back inBody leadsBack
    refine ⟨inBody, exit, drawn.closesLoop closes (fun _ => id) (f.bodyFragment_within rules).edges
      fun e inGraph => ?_⟩
    rcases f.mem_graph_edges rules inGraph with inside | rfl
    · exact .inl inside
    · exact .inr (.inl (Nat.le_refl 0))
  · cases leadsBack

theorem dominates_of_back {back : Edge} (member : back ∈ (f.graph rules).edges)
    (leadsBack : back.kind = .loopBack) : (f.graph rules).Dominates back.target back.source := by
  obtain ⟨-, exit, closes⟩ := f.exists_closesLoop rules member leadsBack
  intro walk leads
  exact Graph.mem_of_leads closes.entered leads (fun between => absurd between.1 (Nat.not_lt_zero _))
    closes.starts

theorem back_unique {v : Node} (member : v ∈ (f.graph rules).nodes) (loop : v.kind = .loop) :
    ∃ back, (f.graph rules).edges.filter (fun e => e.kind = .loopBack ∧ e.target = v.id) = [back] := by
  have backEdges : (f.graph rules).edges.filter (fun e => e.kind = .loopBack) =
      (f.bodyFragment rules).edges.filter fun e => e.kind = .loopBack := by
    rcases f.graph_edges rules with ⟨-, edges⟩ | ⟨-, edges⟩ <;> simp [edges, Place.edgeTo]
  have loops : (f.graph rules).nodes.filter (fun v => v.kind = .loop) =
      (f.bodyFragment rules).nodes.filter fun v => v.kind = .loop := by
    rw [graph_nodes, bodyFragment_nodes]
    simp [entryNode, terminalNode]
  have perm := (f.drawn_bodyFragment rules).backEdges_perm
  rw [← backEdges, ← loops] at perm
  have inLoops : v.id ∈ ((f.graph rules).nodes.filter fun v => v.kind = .loop).map (·.id) :=
    List.mem_map_of_mem (List.mem_filter.2 ⟨member, by simpa using loop⟩)
  have distinct : (((f.graph rules).nodes.filter fun v => v.kind = .loop).map (·.id)).Nodup :=
    (f.graph_distinct rules).sublist (List.filter_sublist.map _)
  have count := perm.count_eq v.id
  rw [List.count_eq_one_of_mem distinct inLoops, List.count_eq_length_filter, List.filter_map,
    List.length_map, List.filter_filter] at count
  refine List.length_eq_one_iff.1 ?_
  rw [← count]
  congr 1
  refine List.filter_congr fun e _ => ?_
  simp [Bool.and_comm, Bool.beq_eq_decide_eq]

/-- A graph is reducible, with its forward edges in the order of making. Forward edges lead to later
nodes, so that no cycle is left without the edges back. An edge back leads to a loop, from the loop
itself or from a node between it and its exit. One edge leads back to each loop; and whatever comes
to where an edge back starts has come to the loop before. -/
theorem graph_reducible :
    (∀ e ∈ (f.graph rules).edges, e.kind = .fallthrough →
      (f.graph rules).Precedes e.source e.target) ∧
    (∀ id walk, (f.graph rules).forward.Leads id walk id → walk = []) ∧
    (∀ back ∈ (f.graph rules).edges, back.kind = .loopBack →
      ∃ header ∈ (f.graph rules).nodes, ∃ exit ∈ (f.graph rules).nodes,
        header.id = back.target ∧ header.kind = .loop ∧ exit.kind = .exit ∧
        (Place.choosing header.id .leave).edgeTo exit.id ∈ (f.graph rules).edges ∧
        (back.source = header.id ∨ (f.graph rules).Precedes header.id back.source) ∧
        (f.graph rules).Precedes back.source exit.id) ∧
    (∀ v ∈ (f.graph rules).nodes, v.kind = .loop →
      ∃ back, (f.graph rules).edges.filter (fun e => e.kind = .loopBack ∧ e.target = v.id) = [back]) ∧
    ∀ back ∈ (f.graph rules).edges, back.kind = .loopBack →
      (f.graph rules).Dominates back.target back.source := by
  refine ⟨f.precedes_of_forward rules, fun _ _ => f.eq_nil_of_leads_forward rules, ?_,
    fun v => f.back_unique rules, fun back => f.dominates_of_back rules⟩
  intro back member leadsBack
  obtain ⟨inBody, exit, closes⟩ := f.exists_closesLoop rules member leadsBack
  have atHeader := f.id_mem_bodyIds rules closes.header_mem
  have atExit := f.id_mem_bodyIds rules closes.exit_mem
  have atSource := f.source_mem_bodyIds rules inBody
  have leaves := f.precedes_of_forward rules _ closes.leaves rfl
  refine ⟨_, f.mem_graph_nodes rules closes.header_mem, _, f.mem_graph_nodes rules closes.exit_mem,
    rfl, rfl, rfl, closes.leaves, ?_⟩
  rcases closes.starts with same | between
  · exact ⟨.inl same, same ▸ leaves⟩
  · exact ⟨.inr (f.precedes_of_rank_lt rules atHeader atSource between.1),
      f.precedes_of_rank_lt rules atSource atExit between.2⟩

end Function

end Flowgraph
