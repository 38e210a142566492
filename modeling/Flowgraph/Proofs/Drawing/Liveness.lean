import Flowgraph.Proofs.Drawing.Structure
import Flowgraph.Proofs.Function.Execution
import Flowgraph.Proofs.Graph.Reachability

/-!
# Dead code

A site is live if control can come to it: a statement when the one before it completes, the meeting
point of a branch when one of its two ways completes, a loop and the point behind it when control
comes to the loop. The nodes that a graph reports as lying behind returns are exactly the nodes of
its dead sites. The two analyses agree because the live ids are closed under the edges that lead on,
and each of them is led to.
-/

namespace Flowgraph

namespace Statement

mutual

/-- Whether control goes on behind a statement, given whether it comes to the statement. -/
def completes : Statement → Bool → Bool
  | .block _ body, live => completesAll body live
  | .branch _ _ consequent (some alternate), live =>
      consequent.completes live || alternate.completes live
  | .branch _ _ consequent none, live => consequent.completes live || live
  | .loop _ _ _, live => live
  | .return _, _ => false
  | .plain _ _, live => live

def completesAll : List Statement → Bool → Bool
  | [], live => live
  | s :: rest, live => completesAll rest (s.completes live)

end

mutual

/-- The sites of a statement, each with whether control comes to it, given whether control comes to
the statement. -/
def survey : Statement → Bool → List (Site × Bool)
  | .block _ body, live => surveyAll body live
  | .branch span test consequent (some alternate), live =>
      (.statement (.branch span test consequent (some alternate)), live) ::
        (consequent.survey live ++ alternate.survey live ++
          [(.merge, consequent.completes live || alternate.completes live)])
  | .branch span test consequent none, live =>
      (.statement (.branch span test consequent none), live) ::
        (consequent.survey live ++ [(.merge, consequent.completes live || live)])
  | .loop span kind body, live =>
      (.statement (.loop span kind body), live) :: (body.survey live ++ [(.exit, live)])
  | .return span, live => [(.statement (.return span), live)]
  | .plain span text, live => [(.statement (.plain span text), live)]

def surveyAll : List Statement → Bool → List (Site × Bool)
  | [], _ => []
  | s :: rest, live => s.survey live ++ surveyAll rest (s.completes live)

end

mutual

theorem survey_sites (s : Statement) (live : Bool) : (s.survey live).map Prod.fst = s.sites :=
  match s with
  | .block _ body => surveyAll_sites body live
  | .branch _ _ consequent (some alternate) => by
      simp [survey, sites, survey_sites consequent, survey_sites alternate]
  | .branch _ _ consequent none => by simp [survey, sites, survey_sites consequent]
  | .loop _ _ body => by simp [survey, sites, survey_sites body]
  | .return _ => rfl
  | .plain _ _ => rfl

theorem surveyAll_sites (body : List Statement) (live : Bool) :
    (surveyAll body live).map Prod.fst = sitesAll body :=
  match body with
  | [] => rfl
  | s :: rest => by simp [surveyAll, sitesAll, survey_sites s, surveyAll_sites rest]

end

end Statement

namespace Function

def survey (f : Function) : List (Site × Bool) := Statement.surveyAll f.bodyStatements true

/-- The nodes of the dead sites of a function, in the order in which they are made. -/
def deadNodes (f : Function) (rules : LabelRules) : List Node :=
  ((f.survey.zipIdx 1).filter fun x => !x.1.2).map fun x => x.1.1.node rules x.2

end Function

/-! ## Surveys and walks -/

namespace Graph

/-- A place of one of the ids from which control goes on. -/
def Open (g : Graph) (ids : NodeId → Prop) (place : Place) : Prop :=
  ids place.tail ∧ g.isReturn place.tail = false

end Graph

def Site.marks (first : Nat) (survey : List (Site × Bool)) : List (NodeId × Bool) :=
  (survey.zipIdx first).map fun x => (x.1.1.id x.2, x.1.2)

namespace Site

@[simp] theorem marks_nil (first : Nat) : marks first [] = [] := rfl

@[simp] theorem marks_cons (first : Nat) (x : Site × Bool) (rest : List (Site × Bool)) :
    marks first (x :: rest) = (x.1.id first, x.2) :: marks (first + 1) rest := rfl

@[simp] theorem marks_append (first : Nat) (a b : List (Site × Bool)) :
    marks first (a ++ b) = marks first a ++ marks (first + a.length) b := by
  simp [marks, List.zipIdx_append]

end Site

/-- The marks of a fragment are right if control comes to its place when `live` says so: what is
marked is reached, the marked ids are closed under the edges that lead on, and `after` says whether
control goes on behind the fragment. -/
structure Fragment.Marked (g : Graph) (place : Place) (F : Fragment) (live : Bool)
    (marks : List (NodeId × Bool)) (after : Bool) : Prop where
  reached : (live = true → g.Open g.Reaches place) →
    (∀ x ∈ marks, x.2 = true → g.Reaches x.1) ∧ (after = true → g.Open g.Reaches F.place)
  closed : ∀ ids : NodeId → Prop, (∀ x ∈ marks, ids x.1 ↔ x.2 = true) →
    (g.Open ids place ↔ live = true) →
    (∀ e ∈ F.edges, g.Open ids e.place → ids e.target) ∧ (g.Open ids F.place ↔ after = true)
  dead : after = true → live = true

theorem Graph.Open.reaches {g : Graph} {place : Place} {target : NodeId}
    (passes : g.Open g.Reaches place) (member : place.edgeTo target ∈ g.edges) : g.Reaches target :=
  .step (e := place.edgeTo target) passes.1 passes.2 member

namespace Fragment.Marked

variable {g : Graph} {place : Place} {live : Bool}

theorem nothing (counter : Nat) : Marked g place (nothing counter place) live [] live where
  reached := fun comes => ⟨by simp, comes⟩
  closed := fun _ _ entry => ⟨by simp [Fragment.nothing], entry⟩
  dead := id

theorem single {kind : NodeKind} {span : Span} {label : String} {counter : Nat} {after : Bool}
    (distinct : (g.nodes.map (·.id)).Nodup)
    (within : (single kind span label counter place).Within g)
    (ends : after = true ↔ live = true ∧ kind ≠ .return) :
    Marked g place (single kind span label counter place) live
      [(.source (counter + 1) span, live)] after := by
  have kept : g.isReturn (.source (counter + 1) span) = decide (kind = .return) :=
    Graph.isReturn_id distinct within.node_mem
  refine ⟨fun comes => ?_, fun ids right entry => ?_, fun h => (ends.1 h).1⟩
  · have node : live = true → g.Reaches (.source (counter + 1) span) := fun h =>
      Graph.Open.reaches (comes h) within.into_node
    refine ⟨by simpa using node, fun h => ⟨node (ends.1 h).1, ?_⟩⟩
    simpa [Fragment.single, Place.after, kept] using (ends.1 h).2
  · have node : ids (.source (counter + 1) span) ↔ live = true := by simpa using right
    refine ⟨fun e member passes => ?_, ?_⟩
    · obtain rfl := List.mem_singleton.1 member
      exact node.2 (entry.1 passes)
    · rw [ends]
      simp [Graph.Open, Fragment.single, Place.after, kept, node]

theorem joined {decision : NodeId} {label : String} {yes no : Fragment}
    {marksYes marksNo : List (NodeId × Bool)} {afterYes afterNo : Bool}
    (distinct : (g.nodes.map (·.id)).Nodup)
    (within : (joined place decision label yes no).Within g)
    (hyes : Marked g (.choosing decision .yes) yes live marksYes afterYes)
    (hno : Marked g (.choosing decision .no) no live marksNo afterNo) :
    Marked g place (joined place decision label yes no) live
      ((decision, live) ::
        (marksYes ++ marksNo ++ [(.synthetic (no.counter + 1), afterYes || afterNo)]))
      (afterYes || afterNo) := by
  let merge := NodeId.synthetic (no.counter + 1)
  have atDecision : g.isReturn decision = false := Graph.isReturn_id distinct within.decision_mem
  have atMerge : g.isReturn merge = false := Graph.isReturn_id distinct within.merge_mem
  refine ⟨fun comes => ?_, fun ids right entry => ?_, fun h => ?_⟩
  · have node : live = true → g.Reaches decision := fun h =>
      Graph.Open.reaches (comes h) within.into_decision
    obtain ⟨inYes, behindYes⟩ := hyes.reached fun h => ⟨node h, atDecision⟩
    obtain ⟨inNo, behindNo⟩ := hno.reached fun h => ⟨node h, atDecision⟩
    have meets : (afterYes || afterNo) = true → g.Reaches merge := by
      intro h
      rcases Bool.or_eq_true _ _ ▸ h with h | h
      · exact Graph.Open.reaches (behindYes h) within.yes_into_merge
      · exact Graph.Open.reaches (behindNo h) within.no_into_merge
    refine ⟨fun x member marked => ?_, fun h => ⟨meets h, atMerge⟩⟩
    simp only [List.mem_cons, List.mem_append, List.not_mem_nil, or_false] at member
    rcases member with rfl | (member | member) | rfl
    · exact node marked
    · exact inYes x member marked
    · exact inNo x member marked
    · exact meets marked
  · simp only [List.mem_cons, List.mem_append, List.not_mem_nil, or_false] at right
    have node : ids decision ↔ live = true := right _ (.inl rfl)
    have meets : ids merge ↔ (afterYes || afterNo) = true := right _ (.inr (.inr rfl))
    obtain ⟨inYes, behindYes⟩ := hyes.closed ids (fun x h => right x (.inr (.inl (.inl h))))
      (by simp [Graph.Open, Place.choosing, node, atDecision])
    obtain ⟨inNo, behindNo⟩ := hno.closed ids (fun x h => right x (.inr (.inl (.inr h))))
      (by simp [Graph.Open, Place.choosing, node, atDecision])
    refine ⟨fun e member passes => ?_, ?_⟩
    · rcases mem_edges_joined.1 member with rfl | (member | member) | rfl | rfl
      · exact node.2 (entry.1 passes)
      · exact inYes e member passes
      · exact inNo e member passes
      · exact meets.2 (by simp [behindYes.1 passes])
      · exact meets.2 (by simp [behindNo.1 passes])
    · rw [← meets]
      exact ⟨fun h => h.1, fun h => ⟨h, atMerge⟩⟩
  · rcases Bool.or_eq_true _ _ ▸ h with h | h
    · exact hyes.dead h
    · exact hno.dead h

theorem looped {header : NodeId} {inner : Fragment} {marks : List (NodeId × Bool)} {after : Bool}
    (distinct : (g.nodes.map (·.id)).Nodup)
    (within : (looped place header inner).Within g)
    (body : Marked g (.choosing header .enter) inner live marks after) :
    Marked g place (looped place header inner) live
      ((header, live) :: (marks ++ [(.synthetic (inner.counter + 1), live)])) live := by
  let exit := NodeId.synthetic (inner.counter + 1)
  have atHeader : g.isReturn header = false := Graph.isReturn_id distinct within.header_mem
  have atExit : g.isReturn exit = false := Graph.isReturn_id distinct within.exit_mem
  refine ⟨fun comes => ?_, fun ids right entry => ?_, id⟩
  · have node : live = true → g.Reaches header := fun h =>
      Graph.Open.reaches (comes h) within.into_header
    have behind : live = true → g.Reaches exit := fun h =>
      Graph.Open.reaches ⟨node h, atHeader⟩ within.header_into_exit
    obtain ⟨inBody, -⟩ := body.reached fun h => ⟨node h, atHeader⟩
    refine ⟨fun x member marked => ?_, fun h => ⟨behind h, atExit⟩⟩
    simp only [List.mem_cons, List.mem_append, List.not_mem_nil, or_false] at member
    rcases member with rfl | member | rfl
    · exact node marked
    · exact inBody x member marked
    · exact behind marked
  · simp only [List.mem_cons, List.mem_append, List.not_mem_nil, or_false] at right
    have node : ids header ↔ live = true := right _ (.inl rfl)
    have behind : ids exit ↔ live = true := right _ (.inr (.inr rfl))
    obtain ⟨inBody, behindBody⟩ := body.closed ids (fun x h => right x (.inr (.inl h)))
      (by simp [Graph.Open, Place.choosing, node, atHeader])
    refine ⟨fun e member passes => ?_, ?_⟩
    · rcases mem_edges_looped.1 member with rfl | member | rfl | rfl
      · exact node.2 (entry.1 passes)
      · exact inBody e member passes
      · exact node.2 (body.dead (behindBody.1 passes))
      · exact behind.2 (node.1 passes.1)
    · rw [← behind]
      exact ⟨fun h => h.1, fun h => ⟨h, atExit⟩⟩

theorem append {a b : Fragment} {marksA marksB : List (NodeId × Bool)} {middle after : Bool}
    (first : Marked g place a live marksA middle)
    (second : Marked g a.place b middle marksB after) :
    Marked g place (a.append b) live (marksA ++ marksB) after := by
  refine ⟨fun comes => ?_, fun ids right entry => ?_, fun h => first.dead (second.dead h)⟩
  · obtain ⟨inFirst, behindFirst⟩ := first.reached comes
    obtain ⟨inSecond, behindSecond⟩ := second.reached behindFirst
    refine ⟨fun x member => ?_, behindSecond⟩
    exact (List.mem_append.1 member).elim (inFirst x) (inSecond x)
  · obtain ⟨inFirst, behindFirst⟩ :=
      first.closed ids (fun x h => right x (List.mem_append_left _ h)) entry
    obtain ⟨inSecond, behindSecond⟩ :=
      second.closed ids (fun x h => right x (List.mem_append_right _ h)) behindFirst
    refine ⟨fun e member => ?_, behindSecond⟩
    exact (List.mem_append.1 member).elim (inFirst e) (inSecond e)

end Fragment.Marked

namespace Statement

theorem length_survey (s : Statement) (live : Bool) : (s.survey live).length = s.sites.length := by
  rw [← survey_sites s live, List.length_map]

mutual

theorem marked_draw {g : Graph} (distinct : (g.nodes.map (·.id)).Nodup) (rules : LabelRules)
    (s : Statement) (counter : Nat) (place : Place) (live : Bool)
    (within : (s.draw rules counter place).Within g) :
    Fragment.Marked g place (s.draw rules counter place) live
      (Site.marks (counter + 1) (s.survey live)) (s.completes live) :=
  match s with
  | .block _ body => marked_drawAll distinct rules body counter place live within
  | .branch span test consequent (some alternate) => by
      let yes := draw rules consequent (counter + 1) (.choosing (.source (counter + 1) span) .yes)
      let no := draw rules alternate yes.counter (.choosing (.source (counter + 1) span) .no)
      have first : counter + 1 + 1 + consequent.sites.length = yes.counter + 1 := by
        simp only [yes, draw_counter]
        omega
      have last : counter + 1 + 1 + (consequent.sites.length + alternate.sites.length) =
          no.counter + 1 := by
        simp only [no, yes, draw_counter]
        omega
      simp only [survey, Site.marks_cons, Site.marks_append, Site.marks_nil, List.length_append,
        length_survey, first, last]
      exact .joined distinct within (marked_draw distinct rules consequent _ _ live within.yes)
        (marked_draw distinct rules alternate _ _ live within.no)
  | .branch span test consequent none => by
      let yes := draw rules consequent (counter + 1) (.choosing (.source (counter + 1) span) .yes)
      have last : counter + 1 + 1 + consequent.sites.length = yes.counter + 1 := by
        simp only [yes, draw_counter]
        omega
      simp only [survey, Site.marks_cons, Site.marks_append, Site.marks_nil, length_survey, last]
      rw [← List.append_nil (Site.marks (counter + 1 + 1) (consequent.survey live))]
      exact .joined distinct within (marked_draw distinct rules consequent _ _ live within.yes)
        (.nothing _)
  | .loop span _ body => by
      let inner := draw rules body (counter + 1) (.choosing (.source (counter + 1) span) .enter)
      have last : counter + 1 + 1 + body.sites.length = inner.counter + 1 := by
        simp only [inner, draw_counter]
        omega
      simp only [survey, Site.marks_cons, Site.marks_append, Site.marks_nil, length_survey, last]
      exact .looped distinct within (marked_draw distinct rules body _ _ live within.inner)
  | .return span => .single distinct within (by simp [completes])
  | .plain span text => .single distinct within (by simp only [completes]; split <;> simp)

/-- The survey of statements marks what is drawn of them. -/
theorem marked_drawAll {g : Graph} (distinct : (g.nodes.map (·.id)).Nodup) (rules : LabelRules)
    (body : List Statement) (counter : Nat) (place : Place) (live : Bool)
    (within : (drawAll rules body counter place).Within g) :
    Fragment.Marked g place (drawAll rules body counter place) live
      (Site.marks (counter + 1) (surveyAll body live)) (completesAll body live) :=
  match body with
  | [] => .nothing counter
  | s :: rest => by
      have middle : counter + 1 + s.sites.length = (s.draw rules counter place).counter + 1 := by
        rw [draw_counter]
        omega
      simp only [surveyAll, Site.marks_append, length_survey, middle]
      exact .append (marked_draw distinct rules s counter place live within.first)
        (marked_drawAll distinct rules rest _ _ _ within.second)

end

end Statement

theorem Site.marks_counters (first : Nat) (survey : List (Site × Bool)) :
    (marks first survey).map (·.1.counter?) = (List.range' first survey.length).map some := by
  induction survey generalizing first with
  | nil => rfl
  | cons x rest ih => simp [List.range'_succ, ih]

theorem Site.eq_of_mem_marks {first : Nat} {survey : List (Site × Bool)} {x y : NodeId × Bool}
    (hx : x ∈ marks first survey) (hy : y ∈ marks first survey) (same : x.1 = y.1) : x = y := by
  have distinct : ((marks first survey).map (·.1.counter?)).Nodup := by
    rw [marks_counters]
    exact List.Nodup.map (fun _ _ => Option.some.inj) List.nodup_range'
  exact List.inj_on_of_nodup_map distinct hx hy (congrArg NodeId.counter? same)

theorem Site.counter?_of_mem_marks {first : Nat} {survey : List (Site × Bool)} {x : NodeId × Bool}
    (member : x ∈ marks first survey) : x.1.counter? ≠ none := by
  obtain ⟨y, -, rfl⟩ := List.mem_map.1 member
  simp

namespace Function

variable (f : Function) (rules : LabelRules)

theorem marked_bodyFragment :
    Fragment.Marked (f.graph rules) (.after .start) (f.bodyFragment rules) true
      (Site.marks 1 f.survey) (Statement.completesAll f.bodyStatements true) := by
  rw [survey, ← f.statements_eq_bodyStatements]
  exact Statement.marked_drawAll (f.graph_distinct rules) rules f.statements 0 _ true
    (f.bodyFragment_within rules)

theorem isReturn_start : (f.graph rules).isReturn .start = false := by
  rw [show NodeId.start = f.entryNode.id from rfl,
    Graph.isReturn_id (f.graph_distinct rules) (f.entryNode_mem rules)]
  rfl

theorem reaches_iff_marked {x : NodeId × Bool} (member : x ∈ Site.marks 1 f.survey) :
    (f.graph rules).Reaches x.1 ↔ x.2 = true := by
  have marked := f.marked_bodyFragment rules
  have atStart := f.isReturn_start rules
  constructor
  · -- The ids that are not marked dead hold the start and are closed under the edges that lead on.
    let ids : NodeId → Prop := fun id => ∀ y ∈ Site.marks 1 f.survey, y.1 = id → y.2 = true
    have unnumbered : ∀ id : NodeId, id.counter? = none → ids id := by
      intro id none y hy same
      exact absurd (same ▸ none) (Site.counter?_of_mem_marks hy)
    have right : ∀ y ∈ Site.marks 1 f.survey, ids y.1 ↔ y.2 = true := by
      intro y hy
      refine ⟨fun h => h y hy rfl, fun h z hz same => ?_⟩
      rw [Site.eq_of_mem_marks hz hy same]
      exact h
    obtain ⟨closed, -⟩ := marked.closed ids right
      ⟨fun _ => rfl, fun _ => ⟨unnumbered .start rfl, atStart⟩⟩
    have kept : ∀ id, (f.graph rules).Reaches id → ids id := by
      intro id reached
      induction reached with
      | start => exact unnumbered .start rfl
      | @step e _ notReturn inGraph ih =>
          have inBody : e ∈ (f.bodyFragment rules).edges → ids e.target := fun h =>
            closed e h ⟨ih, notReturn⟩
          rcases f.graph_edges rules with ⟨-, edges⟩ | ⟨-, edges⟩
          · rcases List.mem_append.1 (edges ▸ inGraph) with h | h
            · exact inBody h
            · rw [List.mem_singleton.1 h]
              exact unnumbered .finish rfl
          · exact inBody (edges ▸ inGraph)
    exact fun reached => kept x.1 reached x member rfl
  · exact (marked.reached fun _ => ⟨.start, atStart⟩).1 x member

theorem siteNodes_eq :
    Site.nodes rules 1 f.sites = (f.survey.zipIdx 1).map fun x => x.1.1.node rules x.2 := by
  rw [sites, f.statements_eq_bodyStatements, ← Statement.surveyAll_sites f.bodyStatements true]
  simp [Site.nodes, survey, List.zipIdx_map]

theorem contains_live_site {x : (Site × Bool) × Nat} (member : x ∈ f.survey.zipIdx 1) :
    (f.graph rules).live.contains (x.1.1.id x.2) = x.1.2 := by
  rw [Bool.eq_iff_iff, Graph.contains_live]
  exact f.reaches_iff_marked rules (x := (x.1.1.id x.2, x.1.2)) (List.mem_map_of_mem member)

/-- The nodes that lie behind returns are those of the dead sites, in the order of their making; the
start and the end are never among them; and their number is the one in the statistics. -/
theorem nodesAfterReturn_eq_deadNodes :
    (f.graph rules).nodesAfterReturn = f.deadNodes rules ∧
    (∀ v ∈ (f.graph rules).nodesAfterReturn, v.id ≠ .start ∧ v.id ≠ .finish) ∧
    (f.graph rules).stats.nodesAfterReturn = (f.deadNodes rules).length := by
  have entry : (f.graph rules).live.contains .start = true := (Graph.contains_live ..).2 .start
  have kept : (f.survey.zipIdx 1).filter
      ((fun v => decide (v.id ≠ .finish) && !(f.graph rules).live.contains v.id) ∘
        fun x => x.1.1.node rules x.2) = (f.survey.zipIdx 1).filter fun x => !x.1.2 := by
    refine List.filter_congr fun x member => ?_
    rw [Function.comp_apply, Site.node_id, f.contains_live_site rules member,
      decide_eq_true (x.1.1.id_ne_finish x.2), Bool.true_and]
  have dead : (f.graph rules).nodesAfterReturn = f.deadNodes rules := by
    unfold Graph.nodesAfterReturn deadNodes
    rw [graph_nodes, siteNodes_eq, List.cons_append,
      List.filter_cons_of_neg (by simp [entryNode, entry]), List.filter_append, List.filter_map, kept]
    simp [terminalNode]
  refine ⟨dead, ?_, congrArg List.length dead⟩
  rw [dead]
  intro v member
  obtain ⟨x, -, rfl⟩ := List.mem_map.1 member
  rw [Site.node_id]
  exact ⟨x.1.1.id_ne_start x.2, x.1.1.id_ne_finish x.2⟩

/-- When both ways of a branch return, the point where they meet is dead, and so is what follows. -/
example (span : Span) (text : String) :
    (Statement.surveyAll
      [.branch span text (.return span) (some (.return span)), .plain span text] true).map
        Prod.snd = [true, true, true, false, false] := rfl

end Function

end Flowgraph
