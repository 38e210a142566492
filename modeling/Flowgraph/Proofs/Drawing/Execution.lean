import Flowgraph.Proofs.Drawing.Liveness
import Flowgraph.Proofs.Drawing.Walk

/-!
# A graph has the executions of its function

The statements that are executed stand in the order of their nodes, so that the number of a node is
the number of its statement. From the place where a statement is entered, the walks of a graph read
what may be told of the statement, followed by what the walks read from the place where control
leaves it. For a loop the walks from the header solve the unfolding of the loop, of which the
executions are the only solution.
-/

namespace Flowgraph

/-! ## The nodes that stand for statements -/

namespace Site

def statement? : Site → Option Statement
  | .statement s => some s
  | .merge | .exit => none

theorem sources_nodes (rules : LabelRules) (first : Nat) (sites : List Site) :
    ((nodes rules first sites).filter fun v => v.id.isClickTarget).map
        (fun v => (v.id.span?, v.kind, v.label)) =
      (sites.filterMap statement?).map
        fun s => (some s.span, s.nodeKind rules, s.nodeLabel rules) := by
  induction sites generalizing first with
  | nil => rfl
  | cons site rest ih =>
      cases site with
      | statement s =>
          simpa [node, statement?, NodeId.isClickTarget, NodeId.span?, List.filterMap_cons]
            using ih _
      | merge | exit =>
          simpa [node, statement?, NodeId.isClickTarget, List.filterMap_cons] using ih _

end Site

namespace Statement

mutual

theorem statements_sites (s : Statement) : s.sites.filterMap Site.statement? = s.preorder :=
  match s with
  | .block _ body => statements_sitesAll body
  | .branch span test consequent (some alternate) => by
      simp [sites, preorder, Site.statement?, statements_sites consequent,
        statements_sites alternate]
  | .branch span test consequent none => by
      simp [sites, preorder, Site.statement?, statements_sites consequent]
  | .loop span kind body => by simp [sites, preorder, Site.statement?, statements_sites body]
  | .return _ => rfl
  | .plain _ _ => rfl

theorem statements_sitesAll (body : List Statement) :
    (sitesAll body).filterMap Site.statement? = preorderAll body :=
  match body with
  | [] => rfl
  | s :: rest => by
      simp [sitesAll, preorderAll, statements_sites s, statements_sitesAll rest]

end

end Statement

namespace Fragment

variable {g : Graph} {place : Place} {counter n : Nat}

def sources (F : Fragment) : List Node := F.nodes.filter fun v => v.id.isClickTarget

/-- The nodes of a fragment that stand for pieces of source are numbered from `n` in the graph. -/
def Numbered (g : Graph) (n : Nat) (F : Fragment) : Prop :=
  F.sources.map (fun v => g.number v.id) = List.range' n F.sources.length

theorem range'_of_append {a b : List Nat} (h : a ++ b = List.range' n (a.length + b.length)) :
    a = List.range' n a.length ∧ b = List.range' (n + a.length) b.length := by
  rw [← List.range'_append_1] at h
  exact List.append_inj h (List.length_range' ..).symm

namespace Numbered

theorem append {a b : Fragment} (numbered : (a.append b).Numbered g n) :
    a.Numbered g n ∧ b.Numbered g (n + a.sources.length) := by
  have split := range'_of_append (a := a.sources.map fun v => g.number v.id)
    (b := b.sources.map fun v => g.number v.id) (n := n)
    (by simpa [Numbered, sources, Fragment.append] using numbered)
  simpa [Numbered] using split

theorem single {kind : NodeKind} {span : Span} {label : String}
    (numbered : (single kind span label counter place).Numbered g n) :
    g.number (.source (counter + 1) span) = n := by
  simpa [Numbered, sources, Fragment.single, NodeId.isClickTarget] using numbered

theorem joined {span : Span} {label : String} {yes no : Fragment}
    (numbered : (joined place (.source counter span) label yes no).Numbered g n) :
    g.number (.source counter span) = n ∧ yes.Numbered g (n + 1) ∧
      no.Numbered g (n + 1 + yes.sources.length) := by
  have head : g.number (.source counter span) = n ∧
      (yes.append no).Numbered g (n + 1) := by
    simpa [Numbered, sources, Fragment.joined, Fragment.append, NodeId.isClickTarget,
      List.range'_succ] using numbered
  exact ⟨head.1, head.2.append⟩

theorem looped {span : Span} {inner : Fragment}
    (numbered : (looped place (.source counter span) inner).Numbered g n) :
    g.number (.source counter span) = n ∧ inner.Numbered g (n + 1) := by
  simpa [Numbered, sources, Fragment.looped, NodeId.isClickTarget, List.range'_succ] using numbered

end Numbered

end Fragment

theorem Statement.length_sources (rules : LabelRules) (s : Statement) (counter : Nat)
    (place : Place) : (s.draw rules counter place).sources.length = s.preorder.length := by
  have same := congrArg List.length (Site.sources_nodes rules (counter + 1) s.sites)
  rw [List.length_map, List.length_map, statements_sites,
    ← draw_nodes rules s counter place] at same
  exact same

/-! ## Readings from a place on -/

namespace Graph.Tidy

variable {g : Graph} {v : Node} {events : List Event}

theorem stops_of_ne_return (tidy : g.Tidy) (hv : v ∈ g.nodes) (notEnd : v.id ≠ .finish)
    (goesOn : v.kind ≠ .return) : g.stops v.id = false := by
  simp [stops, Graph.isReturn_id tidy.distinct hv, notEnd, goesOn]

theorem visit_of_click (tidy : g.Tidy) (hv : v ∈ g.nodes) (click : v.id.isClickTarget = true)
    (label : Option Choice) :
    g.visit v.id label =
      [⟨g.number v.id, if v.kind = .decision ∨ v.kind = .loop then label else none⟩] := by
  simp [visit, chooses, Graph.find?_id tidy.distinct hv, click]

/-- Nothing is read at a node that stands for no piece of source. -/
theorem arrives_synthetic (tidy : g.Tidy) (hv : v ∈ g.nodes)
    (synthetic : v.id.isClickTarget = false) (notEnd : v.id ≠ .finish)
    (kind : v.kind = .entry ∨ v.kind = .merge ∨ v.kind = .exit) :
    g.Arrives v.id events ↔ g.Continues (.after v.id) events := by
  have goesOn : v.kind ≠ .return := by
    rintro same
    simp [same] at kind
  have places : v.places = [.after v.id] := by
    rcases kind with kind | kind | kind <;> simp [Node.places, kind]
  rw [tidy.arrives_node hv (tidy.stops_of_ne_return hv notEnd goesOn)]
  simp [places, visit, synthetic]

theorem ne_finish_of_click {id : NodeId} (click : id.isClickTarget = true) : id ≠ .finish := by
  rintro rfl
  cases click

theorem arrives_plain (tidy : g.Tidy) (hv : v ∈ g.nodes) (click : v.id.isClickTarget = true)
    (kind : v.kind = .statement ∨ v.kind = .io) :
    g.Arrives v.id events ↔
      ∃ rest, events = ⟨g.number v.id, none⟩ :: rest ∧ g.Continues (.after v.id) rest := by
  have goesOn : v.kind ≠ .return := by
    rintro same
    simp [same] at kind
  have places : v.places = [.after v.id] := by
    rcases kind with kind | kind <;> simp [Node.places, kind]
  have plain : ¬ (v.kind = .decision ∨ v.kind = .loop) := by
    rcases kind with kind | kind <;> simp [kind]
  rw [tidy.arrives_node hv (tidy.stops_of_ne_return hv (ne_finish_of_click click) goesOn)]
  simp [places, tidy.visit_of_click hv click, plain]

theorem arrives_return (tidy : g.Tidy) (hv : v ∈ g.nodes) (click : v.id.isClickTarget = true)
    (kind : v.kind = .return) : g.Arrives v.id events ↔ events = [⟨g.number v.id, none⟩] := by
  have stops : g.stops v.id = true := by
    simp [Graph.stops, Graph.isReturn_id tidy.distinct hv, kind]
  rw [arrives_of_stops stops, tidy.visit_of_click hv click]
  simp [kind]

/-- One of two choices is read at a branch or a loop. -/
theorem arrives_choice (tidy : g.Tidy) (hv : v ∈ g.nodes) (click : v.id.isClickTarget = true)
    (kind : v.kind = .decision ∨ v.kind = .loop) {a b : Choice}
    (places : v.places = [.choosing v.id a, .choosing v.id b]) :
    g.Arrives v.id events ↔
      (∃ rest, events = ⟨g.number v.id, some a⟩ :: rest ∧ g.Continues (.choosing v.id a) rest) ∨
      (∃ rest, events = ⟨g.number v.id, some b⟩ :: rest ∧ g.Continues (.choosing v.id b) rest) := by
  have goesOn : v.kind ≠ .return := by
    rintro same
    simp [same] at kind
  rw [tidy.arrives_node hv (tidy.stops_of_ne_return hv (ne_finish_of_click click) goesOn)]
  simp [places, tidy.visit_of_click hv click, kind, Place.choosing]

end Graph.Tidy

namespace Graph.Tidy

variable {g : Graph} {place : Place} {counter : Nat} {span : Span} {label : String}
  {events : List Event}

theorem continues_single (tidy : g.Tidy) {kind : NodeKind} (kinds : kind = .statement ∨ kind = .io)
    (within : (Fragment.single kind span label counter place).Within g) :
    g.Continues place events ↔
      ∃ rest, events = ⟨g.number (.source (counter + 1) span), none⟩ :: rest ∧
        g.Continues (.after (.source (counter + 1) span)) rest :=
  (tidy.continues_edgeTo within.into_node).trans (tidy.arrives_plain within.node_mem rfl kinds)

theorem continues_return (tidy : g.Tidy)
    (within : (Fragment.single .return span label counter place).Within g) :
    g.Continues place events ↔ events = [⟨g.number (.source (counter + 1) span), none⟩] :=
  (tidy.continues_edgeTo within.into_node).trans (tidy.arrives_return within.node_mem rfl rfl)

section Joined

variable {yes no : Fragment}

theorem continues_joined (tidy : g.Tidy)
    (within : (Fragment.joined place (.source counter span) label yes no).Within g) :
    g.Continues place events ↔
      (∃ rest, events = ⟨g.number (.source counter span), some .yes⟩ :: rest ∧
        g.Continues (.choosing (.source counter span) .yes) rest) ∨
      (∃ rest, events = ⟨g.number (.source counter span), some .no⟩ :: rest ∧
        g.Continues (.choosing (.source counter span) .no) rest) :=
  (tidy.continues_edgeTo within.into_decision).trans
    (tidy.arrives_choice within.decision_mem rfl (.inl rfl) rfl)

theorem arrives_merge (tidy : g.Tidy) {decision : NodeId}
    (within : (Fragment.joined place decision label yes no).Within g) :
    g.Arrives (.synthetic (no.counter + 1)) events ↔
      g.Continues (.after (.synthetic (no.counter + 1))) events :=
  tidy.arrives_synthetic within.merge_mem rfl (by simp) (by simp)

/-- Behind either side of a branch the walks are at the merge. -/
theorem continues_sides (tidy : g.Tidy) {decision : NodeId}
    (within : (Fragment.joined place decision label yes no).Within g) :
    (g.Continues yes.place events ↔ g.Continues (.after (.synthetic (no.counter + 1))) events) ∧
      (g.Continues no.place events ↔ g.Continues (.after (.synthetic (no.counter + 1))) events) :=
  ⟨(tidy.continues_edgeTo within.yes_into_merge).trans (tidy.arrives_merge within),
    (tidy.continues_edgeTo within.no_into_merge).trans (tidy.arrives_merge within)⟩

end Joined

section Looped

variable {inner : Fragment}

theorem continues_looped (tidy : g.Tidy)
    (within : (Fragment.looped place (.source counter span) inner).Within g) :
    g.Continues place events ↔
      (∃ rest, events = ⟨g.number (.source counter span), some .leave⟩ :: rest ∧
        g.Continues (.after (.synthetic (inner.counter + 1))) rest) ∨
      (∃ rest, events = ⟨g.number (.source counter span), some .enter⟩ :: rest ∧
        g.Continues (.choosing (.source counter span) .enter) rest) := by
  have leave : ∀ rest, g.Continues (.choosing (.source counter span) .leave) rest ↔
      g.Continues (.after (.synthetic (inner.counter + 1))) rest := fun rest =>
    (tidy.continues_edgeTo within.header_into_exit).trans
      (tidy.arrives_synthetic within.exit_mem rfl (by simp) (by simp))
  have header : g.Arrives (.source counter span) events ↔ _ :=
    tidy.arrives_choice within.header_mem rfl (.inr rfl) rfl
  simp only [← leave]
  exact (tidy.continues_edgeTo within.into_header).trans (header.trans or_comm)

/-- Behind the body of a loop the walks are again at the header. -/
theorem continues_inner (tidy : g.Tidy) {header : NodeId}
    (within : (Fragment.looped place header inner).Within g) :
    g.Continues inner.place events ↔ g.Continues place events :=
  (tidy.continues_iff within.back_to_header).trans
    (tidy.continues_edgeTo within.into_header).symm

end Looped

end Graph.Tidy

/-! ## Drawings and executions -/

namespace Statement

mutual

theorem continues_draw {g : Graph} (tidy : g.Tidy) (rules : LabelRules) (s : Statement)
    (counter n : Nat) (place : Place) (within : (s.draw rules counter place).Within g)
    (numbered : (s.draw rules counter place).Numbered g n) (events : List Event) :
    g.Continues place events ↔
      Followed n s (g.Continues (s.draw rules counter place).place) events :=
  match s with
  | .block span body =>
      continues_drawAll tidy rules body span counter n place within numbered events
  | .branch span test consequent (some alternate) => by
      obtain ⟨number, inYes, inNo⟩ := Fragment.Numbered.joined numbered
      rw [length_sources] at inNo
      rw [followed_branch, tidy.continues_joined within, number]
      have yes := continues_draw tidy rules consequent _ _ _ within.yes inYes
      have no := continues_draw tidy rules alternate _ _ _ within.no inNo
      simp only [yes, no]
      simp only [Followed.congr fun _ => (tidy.continues_sides within).1,
        Followed.congr fun _ => (tidy.continues_sides within).2]
      rfl
  | .branch span test consequent none => by
      obtain ⟨number, inYes, -⟩ := Fragment.Numbered.joined numbered
      rw [followed_branch_none, tidy.continues_joined within, number]
      have yes := continues_draw tidy rules consequent _ _ _ within.yes inYes
      have no : ∀ rest, g.Continues (.choosing (.source (counter + 1) span) .no) rest ↔
          g.Continues (draw rules (.branch span test consequent none) counter place).place rest :=
        fun _ => (tidy.continues_sides within).2
      simp only [yes, no, Followed.congr fun _ => (tidy.continues_sides within).1]
      rfl
  | .loop span kind body => by
      obtain ⟨number, inBody⟩ := Fragment.Numbered.looped numbered
      have inner := continues_draw tidy rules body _ _ _ within.inner inBody
      have unfolds : ∀ events, g.Continues place events ↔
          (∃ rest, events = ⟨n, some .leave⟩ :: rest ∧
            g.Continues (draw rules (.loop span kind body) counter place).place rest) ∨
          (∃ rest, events = ⟨n, some .enter⟩ :: rest ∧
            Followed (n + 1) body (g.Continues place) rest) := by
        intro events
        rw [tidy.continues_looped within, number]
        simp only [inner, Followed.congr fun _ => tidy.continues_inner within]
        rfl
      exact followed_loop_iff unfolds events
  | .return span => by
      rw [followed_return, tidy.continues_return within, Fragment.Numbered.single numbered]
  | .plain span text => by
      rw [followed_plain, tidy.continues_single (by split <;> simp) within,
        Fragment.Numbered.single numbered]
      rfl

/-- What the walks read from the place where statements are entered is what may be told of the
statements and of what the walks read from the place where control leaves them. -/
theorem continues_drawAll {g : Graph} (tidy : g.Tidy) (rules : LabelRules) (body : List Statement)
    (span : Span) (counter n : Nat) (place : Place)
    (within : (drawAll rules body counter place).Within g)
    (numbered : (drawAll rules body counter place).Numbered g n) (events : List Event) :
    g.Continues place events ↔
      Followed n (.block span body) (g.Continues (drawAll rules body counter place).place) events :=
  match body with
  | [] => followed_nil.symm
  | s :: rest => by
      obtain ⟨first, second⟩ := Fragment.Numbered.append numbered
      rw [length_sources] at second
      rw [followed_cons, continues_draw tidy rules s counter n place within.first first]
      exact Followed.congr fun events =>
        continues_drawAll tidy rules rest span _ _ _ within.second second events

end

theorem completes_of_runs {n : Nat} {s : Statement} {events : List Event} {ending : Ending}
    (run : Runs n s events ending) : ending = .completed → s.completes true = true := by
  induction run with
  | plain | empty | skip | leave | again => simp [completes, completesAll]
  | «return» | halt | stop => simp
  | next _ _ first second =>
      intro completed
      simpa [completes, completesAll, first rfl] using second completed
  | @yes _ _ _ _ alternate _ _ _ ih =>
      intro completed
      cases alternate <;> simp [completes, ih completed]
  | no _ ih =>
      intro completed
      simp [completes, ih completed]

end Statement

namespace Function

variable (f : Function) (rules : LabelRules)

theorem sources_graph :
    (f.graph rules).sources = (Site.nodes rules 1 f.sites).filter fun v => v.id.isClickTarget := by
  rw [Graph.sources, graph_nodes, List.cons_append, List.filter_cons_of_neg (by simp [entryNode,
    NodeId.isClickTarget]), List.filter_append]
  simp [terminalNode, NodeId.isClickTarget]

theorem sources_bodyFragment : (f.bodyFragment rules).sources = (f.graph rules).sources := by
  rw [sources_graph, Fragment.sources, bodyFragment_nodes]

theorem numbered_bodyFragment : (f.bodyFragment rules).Numbered (f.graph rules) 0 := by
  have sublist : (f.graph rules).sources.Sublist (f.graph rules).nodes := List.filter_sublist
  have distinct : ((f.graph rules).sources.map (·.id)).Nodup :=
    (f.graph_distinct rules).sublist (sublist.map _)
  rw [Fragment.Numbered, sources_bodyFragment]
  refine List.ext_getElem (by simp) fun k bound _ => ?_
  rw [List.length_map] at bound
  have found := distinct.idxOf_getElem k (by simpa using bound)
  simpa [Graph.number] using found

/-- Behind the body nothing more is read, and control is there only if the body completes. -/
theorem continues_behind {events : List Event} :
    (f.graph rules).Continues (f.bodyFragment rules).place events ↔
      (f.graph rules).isReturn (f.bodyFragment rules).place.tail = false ∧ events = [] := by
  have tidy := f.tidy_graph rules
  rcases f.graph_edges rules with ⟨goesOn, edges⟩ | ⟨returned, -⟩
  · have edge : (f.bodyFragment rules).place.edgeTo .finish ∈ (f.graph rules).edges := by
      rw [edges]
      exact List.mem_append_right _ (List.mem_singleton_self _)
    have stops : (f.graph rules).stops .finish = true := by simp [Graph.stops]
    have arrives : (f.graph rules).Continues (f.bodyFragment rules).place events ↔
        (f.graph rules).Arrives .finish events := tidy.continues_iff edge
    rw [arrives, Graph.arrives_of_stops stops, goesOn]
    simp [Graph.visit, NodeId.isClickTarget]
  · rw [returned]
    simp only [Bool.true_eq_false, false_and, iff_false]
    rintro ⟨e, member, same, -⟩
    exact f.place_ne_of_returned rules returned e member same

theorem isReturn_tail_of_runs {n : Nat} {span : Span} {events : List Event}
    (run : Statement.Runs n (.block span f.bodyStatements) events .completed) :
    (f.graph rules).isReturn (f.bodyFragment rules).place.tail = false := by
  have completes : Statement.completesAll f.bodyStatements true = true :=
    Statement.completes_of_runs run rfl
  have reached := (f.marked_bodyFragment rules).reached fun _ => ⟨.start, f.isReturn_start rules⟩
  exact (reached.2 completes).2

theorem executes_iff_arrives {events : List Event} :
    f.Executes events ↔ (f.graph rules).Arrives .start events := by
  have tidy := f.tidy_graph rules
  have entry : (f.graph rules).Arrives .start events ↔
      (f.graph rules).Continues (.after .start) events :=
    tidy.arrives_synthetic (f.entryNode_mem rules) rfl (by simp [entryNode]) (.inl rfl)
  have drawn : (f.graph rules).Continues (.after .start) events ↔
      Statement.Followed 0 (.block f.span f.bodyStatements)
        ((f.graph rules).Continues (f.bodyFragment rules).place) events := by
    rw [← f.statements_eq_bodyStatements]
    exact Statement.continues_drawAll tidy rules f.statements f.span 0 0 _
      (f.bodyFragment_within rules) (f.numbered_bodyFragment rules) events
  rw [entry, drawn]
  constructor
  · rintro ⟨ending, run⟩
    cases ending with
    | returned => exact .inl run
    | completed =>
        exact .inr ⟨events, [], (List.append_nil _).symm, run,
          (f.continues_behind rules).2 ⟨f.isReturn_tail_of_runs rules run, rfl⟩⟩
  · rintro (run | ⟨first, second, rfl, run, behind⟩)
    · exact ⟨.returned, run⟩
    · obtain ⟨-, rfl⟩ := (f.continues_behind rules).1 behind
      exact ⟨.completed, by simpa using run⟩

/-- The nodes that stand for pieces of source are those of the numbered statements. -/
theorem sources_statements :
    ((f.graph rules).sources.map fun v => (v.id.span?, v.kind, v.label)) =
      f.preorder.map fun s => (some s.span, s.nodeKind rules, s.nodeLabel rules) := by
  rw [sources_graph, Site.sources_nodes, sites, Statement.statements_sitesAll,
    statements_eq_bodyStatements]
  rfl

theorem statement_of_source {k : Nat} {v : Node} (found : (f.graph rules).sources[k]? = some v) :
    ∃ s, f.preorder[k]? = some s ∧ v.id.span? = some s.span ∧ v.kind = s.nodeKind rules ∧
      v.label = s.nodeLabel rules := by
  have same := congrArg (fun list => list[k]?) (f.sources_statements rules)
  simp only [List.getElem?_map, found, Option.map_some] at same
  obtain ⟨s, atIndex, shown⟩ := Option.map_eq_some_iff.1 same.symm
  simp only [Prod.mk.injEq] at shown
  exact ⟨s, atIndex, shown.1.symm, shown.2.1.symm, shown.2.2.symm⟩

/-- The nodes of a graph that stand for pieces of source are, in order, those of the statements of
the body, blocks left out; and when they are told apart by their numbers, the complete executions of
the function are what is read off the complete walks of its graph. -/
theorem executes_iff_completeWalk :
    ((f.graph rules).sources.map fun v => (v.id.span?, v.kind, v.label)) =
        (f.preorder.map fun s => (some s.span, s.nodeKind rules, s.nodeLabel rules)) ∧
    ∀ events, f.Executes events ↔
      ∃ walk last, (f.graph rules).CompleteWalk walk last ∧
        (f.graph rules).reading walk last = events := by
  constructor
  · exact f.sources_statements rules
  · intro events
    rw [f.executes_iff_arrives rules, Graph.arrives_iff]
    constructor
    · rintro ⟨walk, last, leads, stops, goesOn, reading⟩
      exact ⟨walk, last, ⟨leads, stops, goesOn⟩, reading⟩
    · rintro ⟨walk, last, ⟨leads, stops, goesOn⟩, reading⟩
      exact ⟨walk, last, leads, stops, goesOn, reading⟩

end Function

end Flowgraph
