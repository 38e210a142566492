import Flowgraph.Proofs.Drawing.Relocation

/-!
# Graphs in the making

A graph can be made in one pass over the statements that adds each node and each edge to what there
is so far. The pass carries the graph in the making with the last counter that has been used, and
goes from place to place. With a statement it appends to any draft the fragment of that statement,
so that what it makes in the end is the graph of the function. The fragment is entered by its first
edge and by no other, and it does not depend on what the draft holds.
-/

namespace Flowgraph

/-- A graph in the making and the last counter that has been used. -/
structure Draft where
  graph : Graph
  counter : Nat
deriving DecidableEq, Inhabited, Repr

/-- The id with a counter; it stands for a piece of source if a span is given. -/
def NodeId.numbered (span? : Option Span) (counter : Nat) : NodeId :=
  match span? with
  | some span => .source counter span
  | none => .synthetic counter

namespace Draft

/-! ## The pass -/

def make (span? : Option Span) (kind : NodeKind) (label : String) : StateM Draft NodeId := fun d =>
  let id := NodeId.numbered span? (d.counter + 1)
  (id, { graph := d.graph.addNode ⟨id, kind, label⟩, counter := d.counter + 1 })

def link (e : Edge) : StateM Draft Unit :=
  modify fun d => { d with graph := d.graph.addEdge e }

def lead (place : Place) (target : NodeId) : StateM Draft Place := do
  link (place.edgeTo target)
  return .after target

def single (kind : NodeKind) (span : Span) (label : String) (place : Place) :
    StateM Draft Place := do
  let id ← make (some span) kind label
  lead place id

def branch (span : Span) (label : String) (consequent alternate : Place → StateM Draft Place)
    (place : Place) : StateM Draft Place := do
  let decision ← make (some span) .decision label
  link (place.edgeTo decision)
  let yes ← consequent (.choosing decision .yes)
  let no ← alternate (.choosing decision .no)
  let merge ← make none .merge ""
  link (yes.edgeTo merge)
  lead no merge

def loop (span : Span) (body : Place → StateM Draft Place) (place : Place) : StateM Draft Place := do
  let header ← make (some span) .loop "Loop"
  link (place.edgeTo header)
  let inner ← body (.choosing header .enter)
  link (inner.backTo header)
  let exit ← make none .exit ""
  lead (.choosing header .leave) exit

mutual

/-- The pass over a statement, from a place on to another. -/
def lower (rules : LabelRules) : Statement → Place → StateM Draft Place
  | .block _ body, place => lowerAll rules body place
  | .branch span test consequent (some alternate), place =>
      branch span (rules.snippet test ++ " ?") (lower rules consequent) (lower rules alternate) place
  | .branch span test consequent none, place =>
      branch span (rules.snippet test ++ " ?") (lower rules consequent) pure place
  | .loop span _ body, place => loop span (lower rules body) place
  | .return span, place => single .return span "Return" place
  | .plain span text, place =>
      single (if rules.isIo text then .io else .statement) span (rules.snippet text) place

def lowerAll (rules : LabelRules) : List Statement → Place → StateM Draft Place
  | [], place => return place
  | s :: rest, place => do
      let next ← lower rules s place
      lowerAll rules rest next

end

def start (name : String) : Draft := ⟨(Graph.empty name).addNode ⟨.start, .entry, name⟩, 0⟩

/-- The draft with the end, to which the last place is led on if it is not after a return. -/
def finish (place : Place) (d : Draft) : Graph :=
  let g := d.graph.addNode Function.terminalNode
  if g.isReturn place.tail then g else g.addEdge (place.edgeTo .finish)

/-! ## What the pass appends -/

def extend (d : Draft) (F : Fragment) : Draft :=
  { graph :=
      { d.graph with nodes := d.graph.nodes ++ F.nodes, edges := d.graph.edges ++ F.edges }
    counter := F.counter }

/-- The pass appends what is drawn, and comes to the place where control leaves it. -/
def Draws (pass : Place → StateM Draft Place) (draw : Nat → Place → Fragment) : Prop :=
  ∀ d place, (pass place).run d =
    pure ((draw d.counter place).place, d.extend (draw d.counter place))

theorem run_make (span? : Option Span) (kind : NodeKind) (label : String) (d : Draft) :
    (make span? kind label).run d =
      pure (NodeId.numbered span? (d.counter + 1),
        ⟨d.graph.addNode ⟨NodeId.numbered span? (d.counter + 1), kind, label⟩, d.counter + 1⟩) :=
  rfl

theorem run_link (e : Edge) (d : Draft) :
    (link e).run d = pure ((), { d with graph := d.graph.addEdge e }) :=
  rfl

theorem run_lead (place : Place) (target : NodeId) (d : Draft) :
    (lead place target).run d =
      pure (.after target, { d with graph := d.graph.addEdge (place.edgeTo target) }) :=
  rfl

namespace Draws

variable {first second : Place → StateM Draft Place} {a b : Nat → Place → Fragment}

theorem nothing : Draws pure Fragment.nothing := by
  intro d place
  simp only [extend, Fragment.nothing, List.append_nil]
  rfl

theorem single (kind : NodeKind) (span : Span) (label : String) :
    Draws (Draft.single kind span label) (Fragment.single kind span label) :=
  fun _ _ => rfl

theorem branch (yes : Draws first a) (no : Draws second b) (span : Span) (label : String) :
    Draws (Draft.branch span label first second) (Fragment.branch span label a b) := by
  intro d place
  simp only [Draft.branch, StateT.run_bind, run_make, run_link, run_lead, pure_bind, yes _ _, no _ _]
  simp [extend, Fragment.branch, NodeId.numbered, Graph.addNode, Graph.addEdge]

theorem loop (body : Draws first a) (span : Span) :
    Draws (Draft.loop span first) (Fragment.loop span a) := by
  intro d place
  simp only [Draft.loop, StateT.run_bind, run_make, run_link, run_lead, pure_bind, body _ _]
  simp [extend, Fragment.loop, NodeId.numbered, Graph.addNode, Graph.addEdge, Place.backTo,
    Place.edgeTo, Place.choosing]

theorem andThen (hfirst : Draws first a) (hsecond : Draws second b) :
    Draws (fun place => first place >>= second) fun counter place => (a counter place).andThen b := by
  intro d place
  simp only [StateT.run_bind, hfirst _ _, hsecond _ _, pure_bind]
  simp [extend, Fragment.andThen]

end Draws

variable (rules : LabelRules)

mutual

theorem draws_lower (s : Statement) : Draws (lower rules s) (s.draw rules) :=
  match s with
  | .block _ body => draws_lowerAll body
  | .branch span test consequent (some alternate) =>
      .branch (draws_lower consequent) (draws_lower alternate) span (rules.snippet test ++ " ?")
  | .branch span test consequent none =>
      .branch (draws_lower consequent) .nothing span (rules.snippet test ++ " ?")
  | .loop span _ body => .loop (draws_lower body) span
  | .return span => .single .return span "Return"
  | .plain span text =>
      .single (if rules.isIo text then .io else .statement) span (rules.snippet text)

/-- The pass over statements appends their fragment to any draft. -/
theorem draws_lowerAll (body : List Statement) :
    Draws (lowerAll rules body) (Statement.drawAll rules body) :=
  match body with
  | [] => .nothing
  | s :: rest => .andThen (draws_lower s) (draws_lowerAll rest)

end

/-- What the pass makes of the statements of a function is its graph. -/
theorem finish_lowerAll (f : Function) :
    ∃ made, (lowerAll rules f.statements (.after .start)).run (start f.name) = pure made ∧
      finish made.1 made.2 = f.graph rules :=
  ⟨_, draws_lowerAll rules f.statements (start f.name) (.after .start), rfl⟩

/-! ## Drafts that a pass can go on from -/

def ids (d : Draft) : List NodeId := d.graph.nodes.map (·.id)

/-- No node has a counter that is still to be used, and the place is after one of the nodes. -/
structure Ready (d : Draft) (place : Place) : Prop where
  used : ∀ id ∈ d.ids, ∀ n, id.counter? = some n → n ≤ d.counter
  there : place.tail ∈ d.ids

theorem ready_start (name : String) : (start name).Ready (.after .start) := by
  constructor <;> simp [start, ids, Graph.addNode, Graph.empty, Place.after, NodeId.counter?]

variable {rules} {d : Draft} {place : Place} {F : Fragment}

theorem ids_extend (d : Draft) (F : Fragment) : (d.extend F).ids = d.ids ++ F.ids := by
  simp [extend, ids, Fragment.ids]

theorem counters_draw (rules : LabelRules) (s : Statement) (counter : Nat) (place : Place) :
    (s.draw rules counter place).nodes.map (·.id.counter?) =
        (List.range' (counter + 1) (s.draw rules counter place).nodes.length).map some ∧
      (s.draw rules counter place).counter =
        counter + (s.draw rules counter place).nodes.length := by
  have length : (Site.nodes rules (counter + 1) s.sites).length = s.sites.length := by
    simp [Site.nodes]
  rw [s.draw_nodes, s.draw_counter, length]
  exact ⟨Site.nodes_counters rules (counter + 1) s.sites, rfl⟩

theorem counter_of_mem_ids {s : Statement} {counter : Nat} {id : NodeId}
    (member : id ∈ (s.draw rules counter place).ids) :
    ∃ n, id.counter? = some n ∧ counter < n ∧ n ≤ (s.draw rules counter place).counter := by
  obtain ⟨numbered, last⟩ := counters_draw rules s counter place
  obtain ⟨v, hv, rfl⟩ := List.mem_map.1 member
  have inRange := List.mem_map_of_mem (f := (·.id.counter?)) hv
  rw [numbered] at inRange
  obtain ⟨n, between, same⟩ := List.mem_map.1 inRange
  rw [List.mem_range'_1] at between
  exact ⟨n, same.symm, by omega, by omega⟩

theorem Ready.notMem_ids {s : Statement} (ready : d.Ready place) {id : NodeId}
    (member : id ∈ (s.draw rules d.counter place).ids) : id ∉ d.ids := by
  intro old
  obtain ⟨n, counter, above, -⟩ := counter_of_mem_ids member
  have := ready.used id old n counter
  omega

/-- The pass can go on from where it comes to. -/
theorem Ready.extend (ready : d.Ready place) (s : Statement) :
    (d.extend (s.draw rules d.counter place)).Ready (s.draw rules d.counter place).place := by
  have drawn := s.drawn_draw rules d.counter place
  constructor
  · intro id member n counter
    rw [ids_extend] at member
    rcases List.mem_append.1 member with old | new
    · have before := ready.used id old n counter
      have last := (counters_draw rules s d.counter place).2
      change n ≤ (s.draw rules d.counter place).counter
      omega
    · obtain ⟨m, same, -, bound⟩ := counter_of_mem_ids new
      obtain rfl : n = m := Option.some.inj (counter.symm.trans same)
      exact bound
  · rw [ids_extend]
    rcases drawn.place_cases with ⟨-, -, same⟩ | ⟨v, hv, after⟩
    · rw [same]
      exact List.mem_append_left _ ready.there
    · rw [after]
      exact List.mem_append_right _ (List.mem_map_of_mem hv)

/-- The fragment of a statement, as the pass appends it to a draft. Of a statement in which there
are only blocks it is nothing, and the place stays as it is, with its label. Any other fragment is
entered by its first edge, which leads from the place to its first node and is the only one that
touches what the draft had; its other edges lead from node to node of it, and control leaves it
after one of its nodes with nothing pending. Appended to another draft from another place it is the
same fragment, with all its counters moved along and its first edge led in from there. -/
theorem lower_fragment (ready : d.Ready place) (rules : LabelRules) (s : Statement) :
    ∃ F : Fragment, F = s.draw rules d.counter place ∧
      (lower rules s place).run d = pure (F.place, d.extend F) ∧ (d.extend F).Ready F.place ∧
      F.nodes.map (·.id.counter?) = (List.range' (d.counter + 1) F.nodes.length).map some ∧
      F.counter = d.counter + F.nodes.length ∧
      (s.preorder = [] → (lower rules s place).run d = pure (place, d)) ∧
      (s.preorder ≠ [] →
        (∃ v nodes edges, F.nodes = v :: nodes ∧ F.edges = place.edgeTo v.id :: edges ∧
          ∀ e ∈ edges, e.source ∈ F.ids ∧ e.target ∈ F.ids) ∧
        (∀ (i : Nat) (e : Edge), F.edges[i]? = some e →
          (e.source ∈ d.ids ∨ e.target ∈ d.ids ↔ i = 0)) ∧
        F.place.tail ∈ F.ids ∧ F.place.pending = none ∧
        ∀ (other : Draft) (elsewhere : Place), ∃ G : Fragment,
          G = (F.renumber (shift d.counter other.counter)).enteredFrom elsewhere ∧
          (lower rules s elsewhere).run other = pure (G.place, other.extend G)) := by
  have drawn := s.drawn_draw rules d.counter place
  have made := draws_lower rules s
  obtain ⟨numbered, last⟩ := counters_draw rules s d.counter place
  refine ⟨_, rfl, made d place, ready.extend s, numbered, last, fun blank => ?_, fun some => ?_⟩
  · have nothing := made d place
    rw [Statement.draw_eq_nothing rules blank] at nothing
    rw [nothing]
    simp [extend, Fragment.nothing]
  · have kept := Statement.nodes_draw_ne_nil some rules d.counter place
    have entry := drawn.single_entry kept
    obtain ⟨w, closing, after⟩ := drawn.place_cases.resolve_left fun none => kept none.1
    refine ⟨entry, ?touches, ?behind, congrArg Place.pending after, ?elsewhere⟩
    case touches =>
      obtain ⟨v, nodes, edges, -, split, inner⟩ := entry
      intro i e found
      rw [split] at found
      cases i with
      | zero =>
          obtain rfl : place.edgeTo v.id = e := Option.some.inj found
          exact iff_of_true (.inl ready.there) rfl
      | succ i =>
          obtain ⟨source, target⟩ := inner e (List.mem_of_getElem? found)
          simp [ready.notMem_ids source, ready.notMem_ids target]
    case behind =>
      rw [after]
      exact List.mem_map_of_mem closing
    case elsewhere =>
      intro other elsewhere
      refine ⟨_, rfl, ?_⟩
      rw [made other elsewhere, Statement.draw_elsewhere rules some d.counter other.counter place]

def emptySides : Statement := .branch ⟨0, 9⟩ "a" (.block ⟨6, 9⟩ []) none

/-- As the body of a loop it is entered with the label of the loop, and its merge with both of its
own. -/
theorem lower_fragment_emptySides :
    (start "f").Ready (.after .start) ∧ emptySides.preorder ≠ [] ∧
    ∃ made, (lower ⟨20, []⟩ emptySides (.choosing (.source 7 ⟨30, 60⟩) .enter)).run
        ⟨Graph.empty "g", 7⟩ = pure made ∧
      made.1 = .after (.synthetic 9) ∧
      made.2.graph.edges =
        [⟨.source 7 ⟨30, 60⟩, .source 8 ⟨0, 9⟩, .fallthrough, some .enter⟩,
          ⟨.source 8 ⟨0, 9⟩, .synthetic 9, .fallthrough, some .yes⟩,
          ⟨.source 8 ⟨0, 9⟩, .synthetic 9, .fallthrough, some .no⟩] := by
  have kept : emptySides.preorder ≠ [] := by simp [emptySides, Statement.preorder]
  obtain ⟨F, drawn, -, -, -, -, -, reaches⟩ :=
    lower_fragment (ready_start "f") ⟨20, []⟩ emptySides
  obtain ⟨-, -, -, -, moves⟩ := reaches kept
  obtain ⟨G, moved, run⟩ := moves ⟨Graph.empty "g", 7⟩ (.choosing (.source 7 ⟨30, 60⟩) .enter)
  subst moved drawn
  exact ⟨ready_start "f", kept, _, run, rfl, rfl⟩

end Draft

end Flowgraph
