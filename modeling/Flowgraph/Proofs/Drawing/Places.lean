import Flowgraph.Proofs.Drawing.Sites

/-!
# The places of a drawing

Each node has the places from which it may be left: two for a branch or a loop, one for any other
node, none for the end. The balance of a drawing is that the places its edges leave from, together
with the place where control leaves it, are the place where control enters it and the places of its
nodes, each as often on one side as on the other. So every pending label is used up exactly once,
and what may leave a node of a graph follows from the kind of the node.
-/

namespace Flowgraph

/-- The edge that leads back from a place to the header of a loop. -/
def Place.backTo (place : Place) (header : NodeId) : Edge :=
  ⟨place.tail, header, .loopBack, place.pending⟩

namespace Fragment

def joined (place : Place) (decision : NodeId) (label : String) (yes no : Fragment) : Fragment :=
  let merge := NodeId.synthetic (no.counter + 1)
  { nodes := ⟨decision, .decision, label⟩ :: (yes.nodes ++ no.nodes ++ [⟨merge, .merge, ""⟩])
    edges := place.edgeTo decision ::
      (yes.edges ++ no.edges ++ [yes.place.edgeTo merge, no.place.edgeTo merge])
    counter := no.counter + 1
    place := .after merge }

def looped (place : Place) (header : NodeId) (inner : Fragment) : Fragment :=
  let exit := NodeId.synthetic (inner.counter + 1)
  { nodes := ⟨header, .loop, "Loop"⟩ :: (inner.nodes ++ [⟨exit, .exit, ""⟩])
    edges := place.edgeTo header ::
      (inner.edges ++ [inner.place.backTo header, (Place.choosing header .leave).edgeTo exit])
    counter := inner.counter + 1
    place := .after exit }

def append (a b : Fragment) : Fragment :=
  ⟨a.nodes ++ b.nodes, a.edges ++ b.edges, b.counter, b.place⟩

section Members

variable {place : Place} {decision header : NodeId} {label : String} {A B : Fragment}

theorem mem_nodes_joined {v : Node} :
    v ∈ (joined place decision label A B).nodes ↔
      v = ⟨decision, .decision, label⟩ ∨ (v ∈ A.nodes ∨ v ∈ B.nodes) ∨
        v = ⟨.synthetic (B.counter + 1), .merge, ""⟩ := by
  simp [joined, or_assoc]

theorem mem_edges_joined {e : Edge} :
    e ∈ (joined place decision label A B).edges ↔
      e = place.edgeTo decision ∨ (e ∈ A.edges ∨ e ∈ B.edges) ∨
        e = A.place.edgeTo (.synthetic (B.counter + 1)) ∨
        e = B.place.edgeTo (.synthetic (B.counter + 1)) := by
  simp [joined, or_assoc]

theorem mem_nodes_looped {v : Node} :
    v ∈ (looped place header A).nodes ↔
      v = ⟨header, .loop, "Loop"⟩ ∨ v ∈ A.nodes ∨ v = ⟨.synthetic (A.counter + 1), .exit, ""⟩ := by
  simp [looped]

theorem mem_edges_looped {e : Edge} :
    e ∈ (looped place header A).edges ↔
      e = place.edgeTo header ∨ e ∈ A.edges ∨ e = A.place.backTo header ∨
        e = (Place.choosing header .leave).edgeTo (.synthetic (A.counter + 1)) := by
  simp [looped]

end Members

/-- The fragments that statements have, after the last counter used and from the place where they
are entered. -/
inductive Drawn : Nat → Place → Fragment → Prop
  | nothing (counter : Nat) (place : Place) : Drawn counter place (nothing counter place)
  | single (kind : NodeKind) (span : Span) (label : String) (counter : Nat) (place : Place)
      (plain : kind = .statement ∨ kind = .io ∨ kind = .return) :
      Drawn counter place (single kind span label counter place)
  | joined (span : Span) (label : String) (counter : Nat) (place : Place) {yes no : Fragment} :
      Drawn (counter + 1) (.choosing (.source (counter + 1) span) .yes) yes →
      Drawn yes.counter (.choosing (.source (counter + 1) span) .no) no →
      Drawn counter place (joined place (.source (counter + 1) span) label yes no)
  | looped (span : Span) (counter : Nat) (place : Place) {inner : Fragment} :
      Drawn (counter + 1) (.choosing (.source (counter + 1) span) .enter) inner →
      Drawn counter place (looped place (.source (counter + 1) span) inner)
  | append {counter : Nat} {place : Place} {a b : Fragment} :
      Drawn counter place a → Drawn a.counter a.place b → Drawn counter place (a.append b)

end Fragment

namespace Statement

mutual

theorem drawn_draw (rules : LabelRules) (s : Statement) (counter : Nat) (place : Place) :
    Fragment.Drawn counter place (s.draw rules counter place) :=
  match s with
  | .block _ body => drawn_drawAll rules body counter place
  | .branch span test consequent (some alternate) =>
      .joined span (rules.snippet test ++ " ?") counter place (drawn_draw rules consequent _ _)
        (drawn_draw rules alternate _ _)
  | .branch span test consequent none =>
      .joined span (rules.snippet test ++ " ?") counter place (drawn_draw rules consequent _ _)
        (.nothing _ _)
  | .loop span _ body => .looped span counter place (drawn_draw rules body _ _)
  | .return span => .single .return span "Return" counter place (by simp)
  | .plain span text =>
      .single _ span (rules.snippet text) counter place (by split <;> simp)

theorem drawn_drawAll (rules : LabelRules) (body : List Statement) (counter : Nat) (place : Place) :
    Fragment.Drawn counter place (drawAll rules body counter place) :=
  match body with
  | [] => .nothing counter place
  | s :: rest => .append (drawn_draw rules s counter place) (drawn_drawAll rules rest _ _)

end

end Statement

def Edge.place (e : Edge) : Place := ⟨e.source, e.label⟩

@[simp] theorem Place.place_edgeTo (place : Place) (target : NodeId) :
    (place.edgeTo target).place = place := rfl

@[simp] theorem Place.place_backTo (place : Place) (header : NodeId) :
    (place.backTo header).place = place := rfl

def Node.places (v : Node) : List Place :=
  match v.kind with
  | .decision => [.choosing v.id .yes, .choosing v.id .no]
  | .loop => [.choosing v.id .enter, .choosing v.id .leave]
  | .terminal => []
  | _ => [.after v.id]

theorem Node.tail_of_mem_places {v : Node} {place : Place} (member : place ∈ v.places) :
    place.tail = v.id := by
  unfold Node.places at member
  split at member <;> simp [Place.choosing, Place.after] at member <;> grind

namespace Fragment

variable {F : Fragment} {counter : Nat} {place : Place}

/-- The edges of a drawing leave from the place where it is entered and from the places of its
nodes, except for the one place where control leaves it. -/
theorem Drawn.balance (drawn : Drawn counter place F) :
    (F.edges.map Edge.place ++ [F.place]).Perm (place :: F.nodes.flatMap Node.places) := by
  induction drawn with
  | nothing => exact List.Perm.refl _
  | single kind span label counter place plain =>
      rcases plain with rfl | rfl | rfl <;> exact List.Perm.refl _
  | @joined span label counter place yes no _ _ ihYes ihNo =>
      rw [List.perm_iff_count] at ihYes ihNo ⊢
      intro q
      have hyes := ihYes q
      have hno := ihNo q
      simp only [List.count_append, List.count_cons, List.count_nil] at hyes hno
      simp only [Fragment.joined, Node.places, List.map_cons, List.map_append, List.map_nil,
        Place.place_edgeTo, List.flatMap_cons, List.flatMap_append, List.flatMap_nil,
        List.count_append, List.count_cons, List.count_nil]
      omega
  | @looped span counter place inner _ ih =>
      rw [List.perm_iff_count] at ih ⊢
      intro q
      have h := ih q
      simp only [List.count_append, List.count_cons, List.count_nil] at h
      simp only [Fragment.looped, Node.places, List.map_cons, List.map_append, List.map_nil,
        Place.place_edgeTo, Place.place_backTo, List.flatMap_cons, List.flatMap_append,
        List.flatMap_nil, List.count_append, List.count_cons, List.count_nil]
      omega
  | @append counter place a b _ _ first second =>
      rw [List.perm_iff_count] at first second ⊢
      intro q
      have hfirst := first q
      have hsecond := second q
      simp only [List.count_append, List.count_cons, List.count_nil] at hfirst hsecond
      simp only [Fragment.append, List.map_append, List.flatMap_append, List.count_append,
        List.count_cons, List.count_nil]
      omega

/-- Control leaves a drawing where it entered, if nothing is drawn, or else after one of its
nodes. -/
theorem Drawn.place_cases (drawn : Drawn counter place F) :
    (F.nodes = [] ∧ F.edges = [] ∧ F.place = place) ∨ ∃ v ∈ F.nodes, F.place = .after v.id := by
  induction drawn with
  | nothing => exact .inl ⟨rfl, rfl, rfl⟩
  | single => exact .inr ⟨_, List.mem_singleton_self _, rfl⟩
  | joined | looped =>
      exact .inr ⟨_, List.mem_cons_of_mem _ (List.mem_append_right _ (List.mem_singleton_self _)),
        rfl⟩
  | @append counter place a b _ _ first second =>
      rcases second with ⟨nodes, edges, same⟩ | ⟨v, member, after⟩
      · simpa [Fragment.append, nodes, edges, same] using first
      · exact .inr ⟨v, List.mem_append_right _ member, after⟩

theorem Drawn.place_eq_or (drawn : Drawn counter place F) :
    F.place = place ∨ F.place.pending = none := by
  rcases drawn.place_cases with ⟨-, -, same⟩ | ⟨v, -, after⟩
  · exact .inl same
  · exact .inr (by rw [after]; rfl)

theorem Drawn.target_mem (drawn : Drawn counter place F) :
    ∀ e ∈ F.edges, ∃ v ∈ F.nodes, v.id = e.target := by
  induction drawn with
  | nothing => simp [Fragment.nothing]
  | single => simp [Fragment.single, Place.edgeTo]
  | joined span label counter place _ _ yes no =>
      intro e member
      rcases mem_edges_joined.1 member with rfl | (inYes | inNo) | rfl | rfl
      · exact ⟨_, mem_nodes_joined.2 (.inl rfl), rfl⟩
      · obtain ⟨v, hv, same⟩ := yes e inYes
        exact ⟨v, mem_nodes_joined.2 (.inr (.inl (.inl hv))), same⟩
      · obtain ⟨v, hv, same⟩ := no e inNo
        exact ⟨v, mem_nodes_joined.2 (.inr (.inl (.inr hv))), same⟩
      · exact ⟨_, mem_nodes_joined.2 (.inr (.inr rfl)), rfl⟩
      · exact ⟨_, mem_nodes_joined.2 (.inr (.inr rfl)), rfl⟩
  | looped span counter place _ body =>
      intro e member
      rcases mem_edges_looped.1 member with rfl | inBody | rfl | rfl
      · exact ⟨_, mem_nodes_looped.2 (.inl rfl), rfl⟩
      · obtain ⟨v, hv, same⟩ := body e inBody
        exact ⟨v, mem_nodes_looped.2 (.inr (.inl hv)), same⟩
      · exact ⟨_, mem_nodes_looped.2 (.inl rfl), rfl⟩
      · exact ⟨_, mem_nodes_looped.2 (.inr (.inr rfl)), rfl⟩
  | append _ _ first second =>
      intro e member
      rcases List.mem_append.1 member with inFirst | inSecond
      · obtain ⟨v, hv, same⟩ := first e inFirst
        exact ⟨v, List.mem_append_left _ hv, same⟩
      · obtain ⟨v, hv, same⟩ := second e inSecond
        exact ⟨v, List.mem_append_right _ hv, same⟩

/-- The way out of a loop is never a way back. -/
theorem Drawn.fallthrough_of_leave (drawn : Drawn counter place F)
    (entry : place.pending ≠ some .leave) :
    ∀ e ∈ F.edges, e.label = some .leave → e.kind = .fallthrough := by
  induction drawn with
  | nothing => simp [Fragment.nothing]
  | single => simp [Fragment.single, Place.edgeTo]
  | joined span label counter place _ _ yes no =>
      intro e member label
      rcases mem_edges_joined.1 member with rfl | (inYes | inNo) | rfl | rfl
      · rfl
      · exact yes (by simp [Place.choosing]) e inYes label
      · exact no (by simp [Place.choosing]) e inNo label
      · rfl
      · rfl
  | looped span counter place inner body =>
      intro e member label
      rcases mem_edges_looped.1 member with rfl | inBody | rfl | rfl
      · rfl
      · exact body (by simp [Place.choosing]) e inBody label
      · rcases inner.place_eq_or with same | unlabelled
        · simp [Place.backTo, Place.choosing, same] at label
        · simp [Place.backTo, unlabelled] at label
      · rfl
  | append first _ ihFirst ihSecond =>
      intro e member label
      rcases List.mem_append.1 member with inFirst | inSecond
      · exact ihFirst entry e inFirst label
      · refine ihSecond ?_ e inSecond label
        rcases first.place_eq_or with same | unlabelled
        · rwa [same]
        · simp [unlabelled]

/-! ## Fragments of a graph -/

structure Within (F : Fragment) (g : Graph) : Prop where
  nodes : ∀ v ∈ F.nodes, v ∈ g.nodes
  edges : ∀ e ∈ F.edges, e ∈ g.edges

namespace Within

variable {g : Graph} {kind : NodeKind} {span : Span} {label : String} {decision header : NodeId}
  {A B : Fragment}

section Single

variable (within : (single kind span label counter place).Within g)

include within

theorem node_mem : ⟨.source (counter + 1) span, kind, label⟩ ∈ g.nodes :=
  within.nodes _ (List.mem_singleton_self _)

theorem into_node : place.edgeTo (.source (counter + 1) span) ∈ g.edges :=
  within.edges _ (List.mem_singleton_self _)

end Single

section Joined

variable (within : (joined place decision label A B).Within g)

include within

theorem yes : A.Within g :=
  ⟨fun v h => within.nodes v (mem_nodes_joined.2 (.inr (.inl (.inl h)))),
    fun e h => within.edges e (mem_edges_joined.2 (.inr (.inl (.inl h))))⟩

theorem no : B.Within g :=
  ⟨fun v h => within.nodes v (mem_nodes_joined.2 (.inr (.inl (.inr h)))),
    fun e h => within.edges e (mem_edges_joined.2 (.inr (.inl (.inr h))))⟩

theorem decision_mem : ⟨decision, .decision, label⟩ ∈ g.nodes :=
  within.nodes _ (mem_nodes_joined.2 (.inl rfl))

theorem merge_mem : ⟨.synthetic (B.counter + 1), .merge, ""⟩ ∈ g.nodes :=
  within.nodes _ (mem_nodes_joined.2 (.inr (.inr rfl)))

theorem into_decision : place.edgeTo decision ∈ g.edges :=
  within.edges _ (mem_edges_joined.2 (.inl rfl))

theorem yes_into_merge : A.place.edgeTo (.synthetic (B.counter + 1)) ∈ g.edges :=
  within.edges _ (mem_edges_joined.2 (.inr (.inr (.inl rfl))))

theorem no_into_merge : B.place.edgeTo (.synthetic (B.counter + 1)) ∈ g.edges :=
  within.edges _ (mem_edges_joined.2 (.inr (.inr (.inr rfl))))

end Joined

section Looped

variable (within : (looped place header A).Within g)

include within

theorem inner : A.Within g :=
  ⟨fun v h => within.nodes v (mem_nodes_looped.2 (.inr (.inl h))),
    fun e h => within.edges e (mem_edges_looped.2 (.inr (.inl h)))⟩

theorem header_mem : ⟨header, .loop, "Loop"⟩ ∈ g.nodes :=
  within.nodes _ (mem_nodes_looped.2 (.inl rfl))

theorem exit_mem : ⟨.synthetic (A.counter + 1), .exit, ""⟩ ∈ g.nodes :=
  within.nodes _ (mem_nodes_looped.2 (.inr (.inr rfl)))

theorem into_header : place.edgeTo header ∈ g.edges :=
  within.edges _ (mem_edges_looped.2 (.inl rfl))

theorem back_to_header : A.place.backTo header ∈ g.edges :=
  within.edges _ (mem_edges_looped.2 (.inr (.inr (.inl rfl))))

theorem header_into_exit :
    (Place.choosing header .leave).edgeTo (.synthetic (A.counter + 1)) ∈ g.edges :=
  within.edges _ (mem_edges_looped.2 (.inr (.inr (.inr rfl))))

end Looped

theorem first (within : (A.append B).Within g) : A.Within g :=
  ⟨fun v h => within.nodes v (List.mem_append_left _ h),
    fun e h => within.edges e (List.mem_append_left _ h)⟩

theorem second (within : (A.append B).Within g) : B.Within g :=
  ⟨fun v h => within.nodes v (List.mem_append_right _ h),
    fun e h => within.edges e (List.mem_append_right _ h)⟩

end Within

end Fragment

end Flowgraph
