import Flowgraph.Proofs.Drawing.Walk
import Flowgraph.Proofs.Graph.Reachability

/-!
# Nodes behind returns

In any graph, whether ids repeat, edges lead nowhere or the start is missing, the nodes that are
reported as lying behind returns are those to whose ids every walk from the start passes a return.
The search for the others comes to its end: no further steps change what it has found.
-/

namespace Flowgraph

namespace Graph

variable {g : Graph} {id last : NodeId} {walk : List Edge}

/-! ## Walks that pass no return -/

/-- No id that the walk leaves is a return: the first node with the id, if any, is of another
kind. -/
def Spares (g : Graph) (walk : List Edge) : Prop :=
  ∀ e ∈ walk, (g.nodes.find? fun v => v.id = e.source).map Node.kind ≠ some .return

theorem isReturn_eq_false_iff (g : Graph) (id : NodeId) :
    g.isReturn id = false ↔
      (g.nodes.find? fun v => v.id = id).map Node.kind ≠ some .return := by
  unfold isReturn node?
  cases g.nodes.find? fun v => v.id = id <;> simp

theorem spares_cons {e : Edge} :
    g.Spares (e :: walk) ↔ g.isReturn e.source = false ∧ g.Spares walk := by
  rw [isReturn_eq_false_iff]
  exact List.forall_mem_cons

/-- A walk may go on by one more edge. -/
theorem Leads.concat (leads : g.Leads id walk last) {e : Edge} (member : e ∈ g.edges)
    (source : e.source = last) : g.Leads id (walk ++ [e]) e.target := by
  induction leads with
  | nil => exact .cons member source .nil
  | cons first start _ ih => exact .cons first start (ih source)

theorem reaches_of_leads (leads : g.Leads id walk last) (spares : g.Spares walk)
    (reached : g.Reaches id) : g.Reaches last := by
  induction leads with
  | nil => exact reached
  | cons member source _ ih =>
      obtain ⟨notReturn, later⟩ := spares_cons.1 spares
      subst source
      exact ih later (.step reached notReturn member)

/-- What is reached is what a walk that passes no return leads to. -/
theorem reaches_iff_leads : g.Reaches id ↔ ∃ walk, g.Leads .start walk id ∧ g.Spares walk := by
  constructor
  · intro reached
    induction reached with
    | start => exact ⟨[], .nil, by simp [Spares]⟩
    | @step e _ notReturn member ih =>
        obtain ⟨walk, leads, spares⟩ := ih
        refine ⟨walk ++ [e], leads.concat member rfl, ?_⟩
        intro e' inWalk
        rcases List.mem_append.1 inWalk with earlier | last
        · exact spares e' earlier
        · rw [List.mem_singleton.1 last]
          exact (isReturn_eq_false_iff g e.source).1 notReturn
  · rintro ⟨walk, leads, spares⟩
    exact reaches_of_leads leads spares .start

/-! ## The end of the search -/

variable {seen : Std.HashSet NodeId} {queue : List NodeId}

/-- A search with a step for every queued id and every unexplored edge has come to its end. -/
theorem reachFrom_add {fuel : Nat} (enough : queue.length + g.unexplored seen ≤ fuel) (more : Nat) :
    g.reachFrom (fuel + more) seen queue = g.reachFrom fuel seen queue := by
  induction fuel generalizing seen queue with
  | zero =>
      have empty : queue = [] := List.length_eq_zero_iff.1 (by omega)
      subst empty
      cases more <;> rfl
  | succ fuel ih =>
      rw [Nat.add_right_comm]
      cases queue with
      | nil => rfl
      | cons id queue =>
          rw [List.length_cons] at enough
          rw [reachFrom, reachFrom]
          split
          · exact ih (by omega)
          · next fresh =>
              have work := g.unexplored_visit queue ((Bool.not_eq_true _).mp fresh)
              exact ih (by omega)

theorem reachFrom_start (g : Graph) (more : Nat) :
    g.reachFrom (g.edges.length + 1 + more) ∅ [.start] = g.live := by
  refine reachFrom_add ?_ more
  have bound : g.unexplored ∅ ≤ g.edges.length := List.length_filter_le _ _
  rw [List.length_singleton]
  omega

/-- The search decides whether a walk that passes no return leads to an id. -/
instance (g : Graph) (id : NodeId) :
    Decidable (∃ walk, g.Leads .start walk id ∧ g.Spares walk) :=
  decidable_of_iff (g.live.contains id = true) ((g.contains_live id).trans reaches_iff_leads)

/-- The nodes behind returns of any graph are, in the order of its nodes and as often as they stand
there, those other than the end to whose ids no walk leads from the start without passing a return;
and the search for them has come to its end after one step for each edge and one for the start. -/
theorem nodesAfterReturn_eq_filter (g : Graph) :
    g.nodesAfterReturn =
      g.nodes.filter (fun v => v.id ≠ .finish ∧
        ¬ ∃ walk, g.Leads .start walk v.id ∧ g.Spares walk) ∧
    ∀ more, g.reachFrom (g.edges.length + 1 + more) ∅ [.start] = g.live := by
  refine ⟨List.filter_congr fun v _ => ?_, g.reachFrom_start⟩
  have found := g.contains_live v.id
  rw [reaches_iff_leads] at found
  by_cases live : g.live.contains v.id = true
  · simp [live, found.1 live]
  · simp [live, mt found.2 live]

end Graph

end Flowgraph
