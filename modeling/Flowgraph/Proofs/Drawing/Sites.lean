import Flowgraph.Graph.Drawing
import Mathlib.Data.List.Nodup

/-!
# What the nodes of a drawing stand for

A node between the start and the end stands for a statement, for the point where the two ways of a
branch meet, or for the point behind a loop. These sites are read off the statement tree in the
order in which their nodes are made, and the nodes of a graph are exactly its sites, numbered from
one. So ids are distinct, and looking up the id of a node finds that node.
-/

namespace Flowgraph

/-- What a numbered node stands for. -/
inductive Site where
  | statement (s : Statement)
  | merge
  | exit
deriving Inhabited, Repr

namespace Statement

def nodeKind (rules : LabelRules) : Statement → NodeKind
  | .branch .. => .decision
  | .loop .. => .loop
  | .return _ => .return
  | .block .. => .statement
  | .plain _ text => if rules.isIo text then .io else .statement

def nodeLabel (rules : LabelRules) : Statement → String
  | .branch _ test _ _ => rules.snippet test ++ " ?"
  | .loop .. => "Loop"
  | .return _ => "Return"
  | .block .. => ""
  | .plain _ text => rules.snippet text

mutual

/-- The sites of a statement in the order in which their nodes are made. -/
def sites : Statement → List Site
  | .block _ body => sitesAll body
  | .branch span test consequent (some alternate) =>
      .statement (.branch span test consequent (some alternate)) ::
        (consequent.sites ++ alternate.sites ++ [.merge])
  | .branch span test consequent none =>
      .statement (.branch span test consequent none) :: (consequent.sites ++ [.merge])
  | .loop span kind body => .statement (.loop span kind body) :: (body.sites ++ [.exit])
  | .return span => [.statement (.return span)]
  | .plain span text => [.statement (.plain span text)]

def sitesAll : List Statement → List Site
  | [] => []
  | s :: rest => s.sites ++ sitesAll rest

end

end Statement

namespace Site

def id (counter : Nat) : Site → NodeId
  | .statement s => .source counter s.span
  | .merge | .exit => .synthetic counter

def node (rules : LabelRules) (counter : Nat) : Site → Node
  | .statement s => ⟨.source counter s.span, s.nodeKind rules, s.nodeLabel rules⟩
  | .merge => ⟨.synthetic counter, .merge, ""⟩
  | .exit => ⟨.synthetic counter, .exit, ""⟩

@[simp] theorem node_id (rules : LabelRules) (counter : Nat) (site : Site) :
    (site.node rules counter).id = site.id counter := by
  cases site <;> rfl

def kind (rules : LabelRules) : Site → NodeKind
  | .statement s => s.nodeKind rules
  | .merge => .merge
  | .exit => .exit

@[simp] theorem node_kind (rules : LabelRules) (counter : Nat) (site : Site) :
    (site.node rules counter).kind = site.kind rules := by
  cases site <;> rfl

theorem id_ne_start (counter : Nat) (site : Site) : site.id counter ≠ .start := by
  cases site <;> simp [id]

theorem id_ne_finish (counter : Nat) (site : Site) : site.id counter ≠ .finish := by
  cases site <;> simp [id]

/-- The nodes of sites whose counters go up from `first`. -/
def nodes (rules : LabelRules) (first : Nat) (sites : List Site) : List Node :=
  (sites.zipIdx first).map fun x => x.1.node rules x.2

@[simp] theorem nodes_nil (rules : LabelRules) (first : Nat) : nodes rules first [] = [] := rfl

@[simp] theorem nodes_cons (rules : LabelRules) (first : Nat) (site : Site) (rest : List Site) :
    nodes rules first (site :: rest) = site.node rules first :: nodes rules (first + 1) rest := rfl

@[simp] theorem nodes_append (rules : LabelRules) (first : Nat) (a b : List Site) :
    nodes rules first (a ++ b) = nodes rules first a ++ nodes rules (first + a.length) b := by
  simp [nodes, List.zipIdx_append]

theorem map_kind_nodes (rules : LabelRules) (first : Nat) (sites : List Site) :
    (nodes rules first sites).map (·.kind) = sites.map (kind rules) := by
  induction sites generalizing first with
  | nil => rfl
  | cons site rest ih => rw [nodes_cons, List.map_cons, List.map_cons, node_kind, ih]

end Site

namespace Statement

mutual

theorem draw_counter (rules : LabelRules) (s : Statement) (counter : Nat) (place : Place) :
    (s.draw rules counter place).counter = counter + s.sites.length :=
  match s with
  | .block _ body => drawAll_counter rules body counter place
  | .branch _ _ consequent (some alternate) => by
      simp only [draw, sites, Fragment.branch, draw_counter rules consequent,
        draw_counter rules alternate, List.length_cons, List.length_append, List.length_nil]
      omega
  | .branch _ _ consequent none => by
      simp only [draw, sites, Fragment.branch, Fragment.nothing, draw_counter rules consequent,
        List.length_cons, List.length_append, List.length_nil]
      omega
  | .loop _ _ body => by
      simp only [draw, sites, Fragment.loop, draw_counter rules body, List.length_cons,
        List.length_append, List.length_nil]
      omega
  | .return _ => rfl
  | .plain _ _ => rfl

theorem drawAll_counter (rules : LabelRules) (body : List Statement) (counter : Nat)
    (place : Place) :
    (drawAll rules body counter place).counter = counter + (sitesAll body).length :=
  match body with
  | [] => rfl
  | s :: rest => by
      simp only [drawAll, sitesAll, Fragment.andThen, draw_counter rules s,
        drawAll_counter rules rest, List.length_append]
      omega

end

mutual

theorem draw_nodes (rules : LabelRules) (s : Statement) (counter : Nat) (place : Place) :
    (s.draw rules counter place).nodes = Site.nodes rules (counter + 1) s.sites :=
  match s with
  | .block _ body => drawAll_nodes rules body counter place
  | .branch span test consequent (some alternate) => by
      have second : counter + 1 + 1 + consequent.sites.length =
          counter + 1 + consequent.sites.length + 1 := by omega
      have last : counter + 1 + 1 + (consequent.sites.length + alternate.sites.length) =
          counter + 1 + consequent.sites.length + alternate.sites.length + 1 := by omega
      simp only [draw, sites, Fragment.branch, draw_nodes rules consequent,
        draw_nodes rules alternate, draw_counter, Site.nodes_cons, Site.nodes_append,
        Site.nodes_nil, List.length_append, second, last]
      rfl
  | .branch span test consequent none => by
      have last : counter + 1 + 1 + consequent.sites.length =
          counter + 1 + consequent.sites.length + 1 := by omega
      simp only [draw, sites, Fragment.branch, Fragment.nothing, draw_nodes rules consequent,
        draw_counter, Site.nodes_cons, Site.nodes_append, Site.nodes_nil, List.append_nil, last]
      rfl
  | .loop span kind body => by
      have last : counter + 1 + 1 + body.sites.length = counter + 1 + body.sites.length + 1 := by
        omega
      simp only [draw, sites, Fragment.loop, draw_nodes rules body, draw_counter, Site.nodes_cons,
        Site.nodes_append, Site.nodes_nil, last]
      rfl
  | .return _ => rfl
  | .plain _ _ => rfl

/-- The nodes of a drawing are those of its sites, numbered on from the last counter used. -/
theorem drawAll_nodes (rules : LabelRules) (body : List Statement) (counter : Nat)
    (place : Place) :
    (drawAll rules body counter place).nodes = Site.nodes rules (counter + 1) (sitesAll body) :=
  match body with
  | [] => rfl
  | s :: rest => by
      have next : counter + 1 + s.sites.length = counter + s.sites.length + 1 := by omega
      simp only [drawAll, sitesAll, Fragment.andThen, draw_nodes rules s, drawAll_nodes rules rest,
        draw_counter, Site.nodes_append, next]

end

end Statement

namespace Graph

variable {g : Graph} {v : Node}

theorem find?_id (distinct : (g.nodes.map (·.id)).Nodup) (member : v ∈ g.nodes) :
    g.nodes.find? (fun w => w.id = v.id) = some v := by
  obtain ⟨before, after, split⟩ := List.append_of_mem member
  have unseen : ∀ w ∈ before, w.id ≠ v.id := by
    intro w hw same
    rw [split, List.map_append, List.nodup_append] at distinct
    exact distinct.2.2 w.id (List.mem_map_of_mem hw) v.id (by simp) same
  rw [split, List.find?_append, List.find?_eq_none.2 (by simpa using unseen)]
  simp

theorem isReturn_id (distinct : (g.nodes.map (·.id)).Nodup) (member : v ∈ g.nodes) :
    g.isReturn v.id = decide (v.kind = .return) := by
  simp [isReturn, node?, find?_id distinct member]

end Graph

def NodeId.counter? : NodeId → Option Nat
  | .source counter _ | .synthetic counter => some counter
  | .start | .finish => none

@[simp] theorem Site.counter?_id (counter : Nat) (site : Site) :
    (site.id counter).counter? = some counter := by
  cases site <;> rfl

theorem Site.nodes_counters (rules : LabelRules) (first : Nat) (sites : List Site) :
    (nodes rules first sites).map (·.id.counter?) =
      (List.range' first sites.length).map some := by
  induction sites generalizing first with
  | nil => rfl
  | cons site rest ih => simp [List.range'_succ, ih]

namespace Function

variable (f : Function) (rules : LabelRules)

def sites : List Site := Statement.sitesAll f.statements

theorem bodyFragment_nodes : (f.bodyFragment rules).nodes = Site.nodes rules 1 f.sites :=
  Statement.drawAll_nodes rules f.statements 0 (.after .start)

/-- The nodes of a graph are the start, its sites numbered from one, and the end. -/
theorem graph_nodes :
    (f.graph rules).nodes = f.entryNode :: Site.nodes rules 1 f.sites ++ [terminalNode] := by
  unfold graph
  simp only [bodyFragment_nodes]
  split <;> rfl

@[simp] theorem graph_name : (f.graph rules).name = f.name := by
  unfold graph
  simp only
  split <;> rfl

theorem graph_kinds :
    (f.graph rules).nodes.map (·.kind) = .entry :: f.sites.map (Site.kind rules) ++ [.terminal] := by
  rw [graph_nodes, List.map_append, List.map_cons, Site.map_kind_nodes]
  rfl

theorem graph_distinct : ((f.graph rules).nodes.map (·.id)).Nodup := by
  have numbered : ((Site.nodes rules 1 f.sites).map (·.id)).Nodup := by
    apply List.Nodup.of_map NodeId.counter?
    rw [List.map_map, show NodeId.counter? ∘ Node.id = (·.id.counter?) from rfl,
      Site.nodes_counters]
    exact List.Nodup.map (fun _ _ => Option.some.inj) List.nodup_range'
  have counted : ∀ v ∈ Site.nodes rules 1 f.sites, v.id ≠ .start ∧ v.id ≠ .finish := by
    intro v hv
    obtain ⟨x, -, rfl⟩ := List.mem_map.1 hv
    rw [Site.node_id]
    exact ⟨x.1.id_ne_start x.2, x.1.id_ne_finish x.2⟩
  rw [graph_nodes]
  simp only [List.map_cons, List.map_append, List.map_nil, List.cons_append, List.nodup_cons,
    List.nodup_append, entryNode, terminalNode]
  refine ⟨?_, numbered, by simp, ?_⟩
  · simpa using fun v hv => (counted v hv).1
  · simpa using fun v hv => (counted v hv).2

theorem node_cases {v : Node} (member : v ∈ (f.graph rules).nodes) :
    v = f.entryNode ∨ v = terminalNode ∨ ∃ site counter, v = Site.node rules counter site := by
  rw [f.graph_nodes rules] at member
  simp only [List.cons_append, List.mem_cons, List.mem_append, Site.nodes, List.mem_map,
    List.not_mem_nil, or_false] at member
  rcases member with entry | ⟨x, -, rfl⟩ | terminal
  · exact .inl entry
  · exact .inr (.inr ⟨x.1, x.2, rfl⟩)
  · exact .inr (.inl terminal)

theorem isClickTarget_eq_false_iff {v : Node} (member : v ∈ (f.graph rules).nodes) :
    v.id.isClickTarget = false ↔ v.kind ∈ [.entry, .merge, .exit, .terminal] := by
  rcases f.node_cases rules member with rfl | rfl | ⟨site, counter, rfl⟩
  · simp [entryNode, NodeId.isClickTarget]
  · simp [terminalNode, NodeId.isClickTarget]
  · cases site with
    | merge | exit => simp [Site.node, NodeId.isClickTarget]
    | statement s =>
        have others : s.nodeKind rules ∉ [.entry, .merge, .exit, .terminal] := by
          cases s <;> simp [Statement.nodeKind]
          split <;> simp
        simpa [Site.node, NodeId.isClickTarget] using others

end Function

end Flowgraph
