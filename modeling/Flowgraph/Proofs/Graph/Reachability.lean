import Flowgraph.Graph.Basic

/-!
# Reachability

The search for live nodes takes ids off a queue and puts the targets of their edges on it. It finds
exactly the ids that a walk from the start comes to when no walk leads on from a return. A search
that has not ended keeps a frontier: what follows a seen id has been seen or is queued. Every step
takes one id off the queue or an unexplored edge out of account, so the fuel of the search suffices.
-/

namespace Flowgraph

namespace Graph

/-- The ids that a walk from the start comes to when no walk leads on from a return. -/
inductive Reaches (g : Graph) : NodeId → Prop
  | start : Reaches g .start
  | step {e : Edge} : Reaches g e.source → g.isReturn e.source = false → e ∈ g.edges →
      Reaches g e.target

variable {g : Graph} {id : NodeId}

theorem mem_onward {next : NodeId} :
    next ∈ g.onward id ↔
      g.isReturn id = false ∧ ∃ e ∈ g.edges, e.source = id ∧ e.target = next := by
  unfold onward successors
  cases g.isReturn id with
  | true => simp
  | false => simp [and_assoc]

theorem Reaches.onward (reached : g.Reaches id) {next : NodeId} (leads : next ∈ g.onward id) :
    g.Reaches next := by
  obtain ⟨notReturn, e, member, rfl, rfl⟩ := mem_onward.1 leads
  exact .step reached notReturn member

/-! ## The search -/

/-- What holds of the seen and the queued ids at every moment of the search. -/
structure Frontier (g : Graph) (seen : Std.HashSet NodeId) (queue : List NodeId) : Prop where
  sound : ∀ id, seen.contains id = true ∨ id ∈ queue → g.Reaches id
  start : seen.contains .start = true ∨ .start ∈ queue
  closed : ∀ id, seen.contains id = true → ∀ next ∈ g.onward id,
    seen.contains next = true ∨ next ∈ queue

variable {seen : Std.HashSet NodeId} {queue : List NodeId}

theorem Frontier.initial (g : Graph) : g.Frontier ∅ [.start] where
  sound := by
    intro id found
    simp at found
    exact found ▸ .start
  start := by simp
  closed := by simp

theorem Frontier.skip (frontier : g.Frontier seen (id :: queue)) (old : seen.contains id = true) :
    g.Frontier seen queue := by
  have drop : ∀ x, seen.contains x = true ∨ x ∈ id :: queue →
      seen.contains x = true ∨ x ∈ queue := by
    intro x found
    rcases found with inSeen | inQueue
    · exact .inl inSeen
    · rcases List.mem_cons.1 inQueue with rfl | later
      · exact .inl old
      · exact .inr later
  exact ⟨fun x found => frontier.sound x (found.imp_right (List.mem_cons_of_mem id)),
    drop _ frontier.start, fun x inSeen next leads => drop next (frontier.closed x inSeen next leads)⟩

/-- An id that has not been seen is marked, and what follows it is queued. -/
theorem Frontier.visit (frontier : g.Frontier seen (id :: queue)) :
    g.Frontier (seen.insert id) (queue ++ g.onward id) := by
  have keep : ∀ x, seen.contains x = true ∨ x ∈ id :: queue →
      (seen.insert id).contains x = true ∨ x ∈ queue ++ g.onward id := by
    intro x found
    simp only [Std.HashSet.contains_insert, Bool.or_eq_true, beq_iff_eq, List.mem_append]
    rcases found with inSeen | inQueue
    · exact .inl (.inr inSeen)
    · rcases List.mem_cons.1 inQueue with rfl | later
      · exact .inl (.inl rfl)
      · exact .inr (.inl later)
  have reached : g.Reaches id := frontier.sound id (.inr (List.mem_cons_self ..))
  refine ⟨?_, keep _ frontier.start, ?_⟩
  · intro x found
    simp only [Std.HashSet.contains_insert, Bool.or_eq_true, beq_iff_eq, List.mem_append] at found
    rcases found with (rfl | inSeen) | (later | leads)
    · exact reached
    · exact frontier.sound x (.inl inSeen)
    · exact frontier.sound x (.inr (List.mem_cons_of_mem id later))
    · exact reached.onward leads
  · intro x inSeen next leads
    simp only [Std.HashSet.contains_insert, Bool.or_eq_true, beq_iff_eq] at inSeen
    rcases inSeen with rfl | old
    · exact .inr (List.mem_append_right _ leads)
    · exact keep next (frontier.closed x old next leads)

def unexplored (g : Graph) (seen : Std.HashSet NodeId) : Nat :=
  (g.edges.filter fun e => !seen.contains e.source).length

theorem length_onward_le (g : Graph) (id : NodeId) :
    (g.onward id).length ≤ (g.edges.filter fun e => e.source = id).length := by
  unfold onward successors
  split <;> simp

/-- Marking an id explores the edges out of it. -/
theorem unexplored_insert (g : Graph) (fresh : seen.contains id = false) :
    g.unexplored (seen.insert id) + (g.edges.filter fun e => e.source = id).length =
      g.unexplored seen := by
  unfold unexplored
  induction g.edges with
  | nil => rfl
  | cons e rest ih =>
      by_cases same : e.source = id
      · simp [same, fresh] at ih ⊢
        omega
      · have other : (id == e.source) = false := by simpa using Ne.symm same
        cases old : seen.contains e.source <;>
          simp [same, other, old, Std.HashSet.contains_insert] at ih ⊢ <;> omega

/-- Visiting an id queues no more than the edges out of it, which are then explored. -/
theorem unexplored_visit (g : Graph) (queue : List NodeId) (fresh : seen.contains id = false) :
    (queue ++ g.onward id).length + g.unexplored (seen.insert id) ≤
      queue.length + g.unexplored seen := by
  have explored := g.unexplored_insert fresh
  have bound := g.length_onward_le id
  rw [List.length_append]
  omega

/-- A search with enough fuel ends with a frontier whose queue is empty. -/
theorem frontier_reachFrom {fuel : Nat} (frontier : g.Frontier seen queue)
    (enough : queue.length + g.unexplored seen ≤ fuel) :
    g.Frontier (g.reachFrom fuel seen queue) [] := by
  induction fuel generalizing seen queue with
  | zero =>
      have empty : queue = [] := List.length_eq_zero_iff.1 (by omega)
      subst empty
      exact frontier
  | succ fuel ih =>
      cases queue with
      | nil => exact frontier
      | cons id queue =>
          rw [List.length_cons] at enough
          rw [reachFrom]
          split
          · next old =>
              exact ih (frontier.skip old) (by omega)
          · next fresh =>
              have work := g.unexplored_visit queue ((Bool.not_eq_true _).mp fresh)
              exact ih frontier.visit (by omega)

/-- The search finds exactly what can be reached. -/
theorem contains_live (g : Graph) (id : NodeId) : g.live.contains id = true ↔ g.Reaches id := by
  have frontier : g.Frontier g.live [] := by
    refine frontier_reachFrom (Frontier.initial g) ?_
    have bound : g.unexplored ∅ ≤ g.edges.length := List.length_filter_le _ _
    rw [List.length_singleton]
    omega
  constructor
  · intro found
    exact frontier.sound id (.inl found)
  · intro reached
    induction reached with
    | start => simpa using frontier.start
    | step _ notReturn member ih =>
        simpa using frontier.closed _ ih _ (mem_onward.2 ⟨notReturn, _, member, rfl, rfl⟩)

end Graph

end Flowgraph
