import Flowgraph.Proofs.Drawing.Structure
import Flowgraph.Proofs.Function.Execution

/-!
# Walks through a graph

A complete walk goes along edges from the start until it comes to the end or to a return. It is read
as the nodes of the source that it comes to, numbered in the order of the graph, with the labels of
the edges by which branches and loops are left. In a graph where every edge leaves from a place of a
node and no two edges leave from the same place, what can be read from a node on is what can be read
from its places on.
-/

namespace Flowgraph

namespace Graph

variable (g : Graph)

/-- Going along the edges of a list, each of which starts where the one before ends. -/
inductive Leads : NodeId → List Edge → NodeId → Prop
  | nil {id : NodeId} : Leads id [] id
  | cons {id last : NodeId} {e : Edge} {walk : List Edge} : e ∈ g.edges → e.source = id →
      Leads e.target walk last → Leads id (e :: walk) last

def stops (id : NodeId) : Bool := decide (id = .finish) || g.isReturn id

/-- A walk from the start that goes on until it comes to an id where it stops. -/
structure CompleteWalk (walk : List Edge) (last : NodeId) : Prop where
  leads : g.Leads .start walk last
  stops : g.stops last = true
  goesOn : ∀ e ∈ walk, g.stops e.source = false

def sources : List Node := g.nodes.filter fun v => v.id.isClickTarget

def number (id : NodeId) : Nat := (g.sources.map (·.id)).idxOf id

def chooses (id : NodeId) : Bool :=
  match g.nodes.find? fun v => v.id = id with
  | some v => v.kind = .decision || v.kind = .loop
  | none => false

/-- What is read when an id is left by an edge with a label. -/
def visit (id : NodeId) (label : Option Choice) : List Event :=
  if id.isClickTarget then [⟨g.number id, if g.chooses id then label else none⟩] else []

def reading (walk : List Edge) (last : NodeId) : List Event :=
  (walk.flatMap fun e => g.visit e.source e.label) ++ g.visit last none

/-! ## Readings from an id or a place on -/

/-- The readings of the walks that go on from an id until they stop. -/
inductive Arrives : NodeId → List Event → Prop
  | stop {id : NodeId} : g.stops id = true → Arrives id (g.visit id none)
  | step {id : NodeId} {e : Edge} {events : List Event} : e ∈ g.edges → e.source = id →
      g.stops id = false → Arrives e.target events → Arrives id (g.visit id e.label ++ events)

def Continues (place : Place) (events : List Event) : Prop :=
  ∃ e ∈ g.edges, e.place = place ∧ g.Arrives e.target events

variable {g}

theorem arrives_iff {id : NodeId} {events : List Event} :
    g.Arrives id events ↔
      ∃ walk last, g.Leads id walk last ∧ g.stops last = true ∧
        (∀ e ∈ walk, g.stops e.source = false) ∧ g.reading walk last = events := by
  constructor
  · intro arrives
    induction arrives with
    | @stop id stops => exact ⟨[], id, .nil, stops, by simp, rfl⟩
    | @step id e events member source goes _ ih =>
        obtain ⟨walk, last, leads, stops, goesOn, rfl⟩ := ih
        refine ⟨e :: walk, last, .cons member source leads, stops, ?_, ?_⟩
        · rintro e' inWalk
          rcases List.mem_cons.1 inWalk with rfl | later
          · exact source ▸ goes
          · exact goesOn e' later
        · simp [reading, source]
  · rintro ⟨walk, last, leads, stops, goesOn, rfl⟩
    induction leads with
    | nil => exact .stop stops
    | @cons id last e walk member source _ ih =>
        have arrives := ih stops fun e' later => goesOn e' (List.mem_cons_of_mem _ later)
        have step := Arrives.step member source (source ▸ goesOn e (List.mem_cons_self ..)) arrives
        simpa [reading, source] using step

theorem arrives_of_stops {id : NodeId} {events : List Event} (stops : g.stops id = true) :
    g.Arrives id events ↔ events = g.visit id none := by
  constructor
  · intro arrives
    cases arrives with
    | stop => rfl
    | step _ _ goes _ =>
        rw [stops] at goes
        cases goes
  · rintro rfl
    exact .stop stops

/-- Every edge leaves from a place of a node, no two from the same place, and ids are not shared. -/
structure Tidy (g : Graph) : Prop where
  distinct : (g.nodes.map (·.id)).Nodup
  placed : ∀ e ∈ g.edges, ∃ v ∈ g.nodes, e.place ∈ v.places
  unique : ∀ e ∈ g.edges, ∀ e' ∈ g.edges, e.place = e'.place → e = e'

namespace Tidy

variable {v : Node} {events : List Event}

theorem continues_iff (tidy : g.Tidy) {e : Edge} (member : e ∈ g.edges) :
    g.Continues e.place events ↔ g.Arrives e.target events := by
  constructor
  · rintro ⟨e', member', same, arrives⟩
    rw [tidy.unique e member e' member' same.symm]
    exact arrives
  · exact fun arrives => ⟨e, member, rfl, arrives⟩

theorem continues_edgeTo (tidy : g.Tidy) {place : Place} {target : NodeId}
    (member : place.edgeTo target ∈ g.edges) :
    g.Continues place events ↔ g.Arrives target events :=
  tidy.continues_iff member

theorem place_mem (tidy : g.Tidy) (hv : v ∈ g.nodes) {e : Edge} (member : e ∈ g.edges)
    (source : e.source = v.id) : e.place ∈ v.places := by
  obtain ⟨w, hw, inPlaces⟩ := tidy.placed e member
  have same : w.id = v.id := (Node.tail_of_mem_places inPlaces).symm.trans source
  rw [← List.inj_on_of_nodup_map tidy.distinct hw hv same]
  exact inPlaces

theorem arrives_node (tidy : g.Tidy) (hv : v ∈ g.nodes) (goes : g.stops v.id = false) :
    g.Arrives v.id events ↔
      ∃ place ∈ v.places, ∃ rest, events = g.visit v.id place.pending ++ rest ∧
        g.Continues place rest := by
  constructor
  · intro arrives
    cases arrives with
    | stop stops =>
        rw [goes] at stops
        cases stops
    | @step _ e rest member source _ arrives =>
        exact ⟨e.place, tidy.place_mem hv member source, rest, rfl, e, member, rfl, arrives⟩
  · rintro ⟨place, inPlaces, rest, rfl, e, member, rfl, arrives⟩
    exact .step member (Node.tail_of_mem_places inPlaces) goes arrives

end Tidy

end Graph

namespace Node

theorem nodup_places (v : Node) : v.places.Nodup := by
  unfold places
  split <;> simp [Place.choosing]

end Node

namespace Function

variable (f : Function) (rules : LabelRules)

theorem edge_unique (e : Edge) (he : e ∈ (f.graph rules).edges) (e' : Edge)
    (he' : e' ∈ (f.graph rules).edges) (same : e.place = e'.place) : e = e' := by
  obtain ⟨v, hv, inPlaces⟩ := f.exists_place rules he
  have source : e.source = v.id := Node.tail_of_mem_places inPlaces
  have source' : e'.source = v.id := (congrArg Place.tail same).symm.trans source
  have inOut : e ∈ (f.graph rules).out v.id := List.mem_filter.2 ⟨he, by simpa using source⟩
  have inOut' : e' ∈ (f.graph rules).out v.id := List.mem_filter.2 ⟨he', by simpa using source'⟩
  rcases f.out_places rules hv with perm | ⟨-, none⟩
  · exact List.inj_on_of_nodup_map (perm.nodup_iff.2 v.nodup_places) inOut inOut' same
  · rw [none] at inOut
    cases inOut

theorem tidy_graph : (f.graph rules).Tidy where
  distinct := f.graph_distinct rules
  placed := fun _ => f.exists_place rules
  unique := f.edge_unique rules

end Function

end Flowgraph
