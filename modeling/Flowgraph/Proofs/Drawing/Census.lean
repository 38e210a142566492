import Flowgraph.Proofs.Drawing.Connectivity
import Flowgraph.Proofs.Drawing.Execution

/-!
# Numbers of nodes and edges

Besides the node of each statement that is no block, a drawing has a merge for every branch and an
exit for every loop. So the numbers of nodes follow from the numbers of statements, and by the
balance of places those of edges do too.
-/

namespace Flowgraph

/-! ## Counting statements -/

namespace Statement

inductive Shape where
  | plain
  | return
  | branch
  | loop
  | block
deriving DecidableEq, Inhabited, Repr

def shape : Statement → Shape
  | .plain .. => .plain
  | .return _ => .return
  | .branch .. => .branch
  | .loop .. => .loop
  | .block .. => .block

/-- The sites that a statement has of its own, without those of the statements within it. -/
def ownSites : Statement → List Site
  | .block .. => []
  | .branch span test consequent alternate =>
      [.statement (.branch span test consequent alternate), .merge]
  | .loop span kind body => [.statement (.loop span kind body), .exit]
  | .return span => [.statement (.return span)]
  | .plain span text => [.statement (.plain span text)]

mutual

theorem sites_perm (s : Statement) : s.sites.Perm (s.preorder.flatMap ownSites) :=
  match s with
  | .block _ body => sitesAll_perm body
  | .branch _ _ consequent (some alternate) => by
      have inner := (sites_perm consequent).append (sites_perm alternate)
      rw [sites, preorder, List.flatMap_cons, List.flatMap_append]
      exact ((List.perm_append_singleton _ _).trans (inner.cons .merge)).cons _
  | .branch _ _ consequent none => by
      rw [sites, preorder, List.flatMap_cons]
      exact ((List.perm_append_singleton _ _).trans ((sites_perm consequent).cons .merge)).cons _
  | .loop _ _ body => by
      rw [sites, preorder, List.flatMap_cons]
      exact ((List.perm_append_singleton _ _).trans ((sites_perm body).cons .exit)).cons _
  | .return _ => List.Perm.refl _
  | .plain _ _ => List.Perm.refl _

/-- The sites of statements are the own sites of all statements that are listed with them. -/
theorem sitesAll_perm (body : List Statement) :
    (sitesAll body).Perm ((preorderAll body).flatMap ownSites) :=
  match body with
  | [] => List.Perm.refl _
  | s :: rest => by
      rw [sitesAll, preorderAll, List.flatMap_append]
      exact (sites_perm s).append (sitesAll_perm rest)

end

def number (shape : Shape) (list : List Statement) : Nat := list.countP fun s => s.shape = shape

theorem number_cons (shape : Shape) (s : Statement) (rest : List Statement) :
    number shape (s :: rest) = number shape rest + if s.shape = shape then 1 else 0 := by
  simp [number, List.countP_cons]

theorem length_ownSites (list : List Statement) :
    (list.flatMap ownSites).length =
      number .plain list + number .return list + 2 * number .branch list + 2 * number .loop list := by
  induction list with
  | nil => rfl
  | cons s rest ih =>
      rw [List.flatMap_cons, List.length_append, ih]
      cases s <;> simp [number_cons, shape, ownSites] <;> omega

end Statement

/-- The shape of the statements for each of which one node of a kind is drawn; the other kinds are
those of plain statements, of the start and of the end. -/
def NodeKind.shape? : NodeKind → Option Statement.Shape
  | .return => some .return
  | .decision | .merge => some .branch
  | .loop | .exit => some .loop
  | _ => none

theorem Statement.count_kinds_ownSites (rules : LabelRules) {kind : NodeKind} {shape : Shape}
    (drawn : kind.shape? = some shape) (list : List Statement) :
    ((list.flatMap ownSites).map (Site.kind rules)).count kind = number shape list := by
  have own : ∀ s : Statement, (s.ownSites.map (Site.kind rules)).count kind =
      if s.shape = shape then 1 else 0 := by
    intro s
    cases s with
    | plain span text =>
        -- a plain statement is drawn as one of two kinds, and neither has a shape
        have kinds : (plain span text).nodeKind rules = .io ∨
            (plain span text).nodeKind rules = .statement := by
          by_cases io : rules.isIo text = true <;> simp [nodeKind, io]
        have other : (plain span text).nodeKind rules ≠ kind := by
          rintro rfl
          rcases kinds with same | same <;> rw [same] at drawn <;> cases drawn
        have apart : Shape.plain ≠ shape := by
          rintro rfl
          cases kind <;> cases drawn
        simp [ownSites, Site.kind, Statement.shape, other, apart]
    | «return» | branch | loop | block =>
        cases kind <;> cases drawn <;> rfl
  induction list with
  | nil => rfl
  | cons s rest ih =>
      rw [List.flatMap_cons, List.map_append, List.count_append, own, ih, number_cons, Nat.add_comm]

/-! ## Counting nodes and edges -/

theorem Graph.count_eq (g : Graph) (kind : NodeKind) :
    g.count kind = (g.nodes.map (·.kind)).count kind := by
  rw [count, List.count_eq_countP, List.countP_map, List.countP_eq_length_filter]
  congr 1

/-- Branches and loops may be left by two places, the end by none, other nodes by one. -/
theorem Node.length_flatMap_places (nodes : List Node) :
    (nodes.flatMap Node.places).length + (nodes.map (·.kind)).count .terminal =
      nodes.length + ((nodes.map (·.kind)).count .decision + (nodes.map (·.kind)).count .loop) := by
  induction nodes with
  | nil => rfl
  | cons v rest ih =>
      have own : v.places.length + (if v.kind = .terminal then 1 else 0) =
          1 + ((if v.kind = .decision then 1 else 0) + (if v.kind = .loop then 1 else 0)) := by
        cases kind : v.kind <;> simp [Node.places, kind]
      simp only [List.flatMap_cons, List.length_append, List.length_cons, List.map_cons,
        List.count_cons, beq_iff_eq]
      omega

namespace Function

variable (f : Function) (rules : LabelRules)

/-- The number of statements of a shape in the body, those within others included. -/
def number (shape : Statement.Shape) : Nat := Statement.number shape f.preorder

/-- The body, with blocks spliced, ends in a return. -/
def endsInReturn : Bool := f.spliced.getLast?.any fun s => s.shape = .return

/-- The number of edges that lead to the end of the graph. -/
def waysToEnd : Nat := if f.endsInReturn then 0 else 1

theorem kinds_perm :
    (f.sites.map (Site.kind rules)).Perm
      ((f.preorder.flatMap Statement.ownSites).map (Site.kind rules)) := by
  rw [sites, statements_eq_bodyStatements]
  exact (Statement.sitesAll_perm f.bodyStatements).map _

/-- The numbers of the nodes of a kind that has a shape is that of the statements of the shape. -/
theorem count_graph {kind : NodeKind} {shape : Statement.Shape} (drawn : kind.shape? = some shape) :
    (f.graph rules).count kind = f.number shape := by
  have entry : NodeKind.entry ≠ kind := by
    rintro rfl
    cases drawn
  have terminal : NodeKind.terminal ≠ kind := by
    rintro rfl
    cases drawn
  have own := Statement.count_kinds_ownSites rules drawn f.preorder
  rw [Graph.count_eq, graph_kinds, List.count_append, List.count_cons_of_ne entry,
    (f.kinds_perm rules).count_eq, own, List.count_singleton, if_neg (by simpa using terminal)]
  rfl

theorem count_terminal : (f.graph rules).count .terminal = 1 := by
  have inner : NodeKind.terminal ∉ f.sites.map (Site.kind rules) := by
    intro member
    obtain ⟨site, -, kind⟩ := List.mem_map.1 member
    cases site with
    | statement s =>
        cases s <;> simp [Site.kind, Statement.nodeKind] at kind
        split at kind <;> cases kind
    | merge | exit => cases kind
  rw [Graph.count_eq, graph_kinds, List.count_append, List.count_cons_of_ne (by decide),
    List.count_eq_zero_of_not_mem inner]
  rfl

theorem length_nodes :
    (f.graph rules).nodes.length =
      2 + f.number .plain + f.number .return + 2 * f.number .branch + 2 * f.number .loop := by
  have sites := (f.kinds_perm rules).length_eq
  have all := congrArg List.length (f.graph_kinds rules)
  have own := Statement.length_ownSites f.preorder
  simp only [List.length_map, List.length_append, List.length_cons, List.length_nil] at sites all
  unfold number
  omega

theorem isReturn_tail_eq :
    (f.graph rules).isReturn (f.bodyFragment rules).place.tail = f.endsInReturn := by
  rw [Bool.eq_iff_iff, f.isReturn_tail rules, endsInReturn]
  cases f.spliced.getLast? with
  | none => simp
  | some s => cases s <;> simp [Statement.shape]

/-- Every place of a node is left by an edge, but for the one after a return that ends the body. -/
theorem length_edges :
    (f.graph rules).edges.length + 2 =
      (f.graph rules).nodes.length +
        ((f.graph rules).count .decision + (f.graph rules).count .loop) + f.waysToEnd := by
  have total := Node.length_flatMap_places (f.graph rules).nodes
  have terminal := f.count_terminal rules
  rw [Graph.count_eq] at terminal
  rw [Graph.count_eq, Graph.count_eq, waysToEnd, ← f.isReturn_tail_eq rules]
  rcases f.graph_balance rules with ⟨goesOn, balance⟩ | ⟨v, member, kind, after, balance⟩
  · have left := balance.length_eq
    rw [List.length_map] at left
    rw [goesOn, if_neg (by decide)]
    omega
  · have returned : (f.graph rules).isReturn (f.bodyFragment rules).place.tail = true := by
      rw [after]
      simpa [Place.after, kind] using Graph.isReturn_id (f.graph_distinct rules) member
    have left := balance.length_eq
    rw [List.length_append, List.length_map, List.length_singleton] at left
    rw [returned, if_pos rfl]
    omega

/-- The node of a statement is of input or output when it is a plain one of which a pattern matches
the whole text. -/
theorem kind_eq_io_iff {k : Nat} {v : Node} (found : (f.graph rules).sources[k]? = some v) :
    v.kind = .io ↔ ∃ span text, f.preorder[k]? = some (.plain span text) ∧
      ∃ pattern ∈ rules.ioPatterns, pattern.isMatch text = true := by
  obtain ⟨s, atIndex, -, kind, -⟩ := f.statement_of_source rules found
  rw [kind, atIndex]
  cases s with
  | plain span text => simp [Statement.nodeKind, LabelRules.isIo]
  | _ => simp [Statement.nodeKind]

theorem mem_sources_of_io {v : Node} (member : v ∈ (f.graph rules).nodes) (io : v.kind = .io) :
    v ∈ (f.graph rules).sources := by
  refine List.mem_filter.2 ⟨member, ?_⟩
  by_contra other
  have kinds := (f.isClickTarget_eq_false_iff rules member).1 (Bool.eq_false_iff.2 other)
  simp [io] at kinds

/-- The numbers of nodes and edges of a graph follow from the numbers of plain statements, returns,
branches and loops in the body. Each of them has a node; a branch has a merge besides and a loop an
exit. One edge leads to each plain statement and each return, three lead to the two nodes of a
branch or a loop, or back to it, and one leads to the end unless the body ends in a return. The
nodes of input and output are those of the plain statements of which a pattern matches the whole
text. -/
theorem graph_census :
    (f.graph rules).stats.returns = f.number .return ∧
    (f.graph rules).stats.decisions = f.number .branch ∧
    (f.graph rules).stats.loops = f.number .loop ∧
    (f.graph rules).stats.nodes =
      2 + f.number .plain + f.number .return + 2 * f.number .branch + 2 * f.number .loop ∧
    (f.graph rules).stats.edges =
      f.number .plain + f.number .return + 3 * f.number .branch + 3 * f.number .loop +
        f.waysToEnd ∧
    ((f.graph rules).stats.edges : Int) - (f.graph rules).stats.nodes + 2 =
      f.number .branch + f.number .loop + f.waysToEnd ∧
    (f.graph rules).count .merge = f.number .branch ∧
    (f.graph rules).count .exit = f.number .loop ∧
    (f.graph rules).sources.length = f.preorder.length ∧
    (∀ (k : Nat) (v : Node), (f.graph rules).sources[k]? = some v →
      (v.kind = .io ↔ ∃ span text, f.preorder[k]? = some (.plain span text) ∧
        ∃ pattern ∈ rules.ioPatterns, pattern.isMatch text = true)) ∧
    ∀ v ∈ (f.graph rules).nodes, v.kind = .io → v ∈ (f.graph rules).sources := by
  have nodes := f.length_nodes rules
  have edges := f.length_edges rules
  have decisions : (f.graph rules).count .decision = f.number .branch := f.count_graph rules rfl
  have loops : (f.graph rules).count .loop = f.number .loop := f.count_graph rules rfl
  have pairs := congrArg List.length (f.sources_statements rules)
  rw [List.length_map, List.length_map] at pairs
  rw [decisions, loops] at edges
  dsimp only [Graph.stats]
  refine ⟨f.count_graph rules rfl, decisions, loops, nodes, by omega, by omega,
    f.count_graph rules rfl, f.count_graph rules rfl, pairs,
    fun k v found => f.kind_eq_io_iff rules found, fun v member io => f.mem_sources_of_io rules member io⟩

end Function

end Flowgraph
