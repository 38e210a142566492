import Flowgraph.Proofs.Drawing.Skeleton
import Flowgraph.Proofs.Function.Execution

/-!
# Drawings elsewhere

A drawing does not depend on where it is made. After another counter it has the same nodes and edges
with the counters moved along, and from another place only its first edge is another one: that is
the only edge that leaves from the place, and all other edges lead from node to node of the drawing.
-/

namespace Flowgraph

/-! ## Other counters -/

def NodeId.renumber (f : Nat → Nat) : NodeId → NodeId
  | .source counter span => .source (f counter) span
  | .synthetic counter => .synthetic (f counter)
  | .start => .start
  | .finish => .finish

def Node.renumber (f : Nat → Nat) (v : Node) : Node := { v with id := v.id.renumber f }

def Edge.renumber (f : Nat → Nat) (e : Edge) : Edge :=
  { e with source := e.source.renumber f, target := e.target.renumber f }

def Place.renumber (f : Nat → Nat) (place : Place) : Place :=
  { place with tail := place.tail.renumber f }

def Fragment.renumber (f : Nat → Nat) (F : Fragment) : Fragment :=
  ⟨F.nodes.map (Node.renumber f), F.edges.map (Edge.renumber f), f F.counter, F.place.renumber f⟩

/-- From a counter on, the counters keep their distances. -/
def Steady (counter : Nat) (f : Nat → Nat) : Prop := ∀ n, counter ≤ n → f (n + 1) = f n + 1

theorem Steady.mono {counter later : Nat} {f : Nat → Nat} (steady : Steady counter f)
    (le : counter ≤ later) : Steady later f :=
  fun n from' => steady n (Nat.le_trans le from')

/-- The counter that is as far behind `new` as the given one is behind `old`. -/
def shift (old new counter : Nat) : Nat := counter - old + new

theorem shift_self (old new : Nat) : shift old new old = new := by
  simp [shift]

theorem steady_shift (old new : Nat) : Steady old (shift old new) := by
  intro n le
  unfold shift
  omega

/-- A way to draw that has its counters moved along when it is made after another one. -/
structure Movable (f : Nat → Nat) (draw : Nat → Place → Fragment) : Prop where
  grows : ∀ counter place, counter ≤ (draw counter place).counter
  moves : ∀ counter place, Steady counter f →
    draw (f counter) (place.renumber f) = (draw counter place).renumber f

namespace Movable

variable {f : Nat → Nat} {yes no body second : Nat → Place → Fragment}

theorem nothing (f : Nat → Nat) : Movable f Fragment.nothing :=
  ⟨fun _ _ => Nat.le_refl _, fun _ _ _ => rfl⟩

theorem single (f : Nat → Nat) (kind : NodeKind) (span : Span) (label : String) :
    Movable f (Fragment.single kind span label) := by
  refine ⟨fun counter _ => Nat.le_succ counter, fun counter place steady => ?_⟩
  have next := steady counter (Nat.le_refl _)
  simp [Fragment.single, Fragment.renumber, Node.renumber, Edge.renumber, Place.renumber,
    NodeId.renumber, Place.edgeTo, Place.after, next]

theorem branch (hyes : Movable f yes) (hno : Movable f no) (span : Span) (label : String) :
    Movable f (Fragment.branch span label yes no) := by
  have grows (counter : Nat) (p q : Place) :
      counter ≤ (yes (counter + 1) p).counter ∧
        counter ≤ (no (yes (counter + 1) p).counter q).counter := by
    have first := hyes.grows (counter + 1) p
    have last := hno.grows (yes (counter + 1) p).counter q
    omega
  refine ⟨fun counter place => Nat.le_succ_of_le (grows counter _ _).2,
    fun counter place steady => ?_⟩
  let yesPlace (n : Nat) := Place.choosing (.source n span) .yes
  let noPlace (n : Nat) := Place.choosing (.source n span) .no
  have bounds := grows counter (yesPlace (counter + 1)) (noPlace (counter + 1))
  have next := steady counter (Nat.le_refl _)
  have first : yes (f (counter + 1)) (yesPlace (f (counter + 1))) = _ :=
    hyes.moves (counter + 1) (yesPlace (counter + 1)) (steady.mono (Nat.le_succ _))
  have last : no (f _) (noPlace (f (counter + 1))) = _ :=
    hno.moves _ (noPlace (counter + 1)) (steady.mono bounds.1)
  have closing := steady _ bounds.2
  rw [next] at first last
  simp only [yesPlace, noPlace] at first last closing
  simp [Fragment.branch, Fragment.renumber, Node.renumber, Edge.renumber, Place.renumber,
    NodeId.renumber, Place.edgeTo, Place.after, next, first, last, closing]

theorem loop (hbody : Movable f body) (span : Span) : Movable f (Fragment.loop span body) := by
  have grows (counter : Nat) (p : Place) : counter ≤ (body (counter + 1) p).counter := by
    have inner := hbody.grows (counter + 1) p
    omega
  refine ⟨fun counter place => Nat.le_succ_of_le (grows counter _), fun counter place steady => ?_⟩
  let bodyPlace (n : Nat) := Place.choosing (.source n span) .enter
  have next := steady counter (Nat.le_refl _)
  have inner : body (f (counter + 1)) (bodyPlace (f (counter + 1))) = _ :=
    hbody.moves (counter + 1) (bodyPlace (counter + 1)) (steady.mono (Nat.le_succ _))
  have closing := steady _ (grows counter (bodyPlace (counter + 1)))
  rw [next] at inner
  simp only [bodyPlace] at inner closing
  simp [Fragment.loop, Fragment.renumber, Node.renumber, Edge.renumber, Place.renumber,
    NodeId.renumber, Place.edgeTo, Place.after, next, inner, closing]

theorem andThen {first : Nat → Place → Fragment} (hfirst : Movable f first)
    (hsecond : Movable f second) :
    Movable f fun counter place => (first counter place).andThen second := by
  refine ⟨fun counter place => Nat.le_trans (hfirst.grows counter place) (hsecond.grows _ _),
    fun counter place steady => ?_⟩
  have behind := hsecond.moves _ (first counter place).place
    (steady.mono (hfirst.grows counter place))
  rw [hfirst.moves counter place steady]
  simp only [Fragment.andThen, Fragment.renumber] at behind ⊢
  simp [behind]

end Movable

namespace Statement

variable (f : Nat → Nat) (rules : LabelRules)

mutual

theorem movable_draw (s : Statement) : Movable f (s.draw rules) :=
  match s with
  | .block _ body => movable_drawAll body
  | .branch span test consequent (some alternate) =>
      .branch (movable_draw consequent) (movable_draw alternate) span (rules.snippet test ++ " ?")
  | .branch span test consequent none =>
      .branch (movable_draw consequent) (.nothing f) span (rules.snippet test ++ " ?")
  | .loop span _ body => .loop (movable_draw body) span
  | .return span => .single f .return span "Return"
  | .plain span text =>
      .single f (if rules.isIo text then .io else .statement) span (rules.snippet text)

theorem movable_drawAll (body : List Statement) : Movable f (drawAll rules body) :=
  match body with
  | [] => .nothing f
  | s :: rest => .andThen (movable_draw s) (movable_drawAll rest)

end

end Statement

/-! ## Other places -/

def Fragment.enteredFrom (place : Place) (F : Fragment) : Fragment :=
  { F with
    edges := match F.edges with
      | [] => []
      | e :: rest => { e with source := place.tail, label := place.pending } :: rest }

theorem Skeleton.draw_enteredFrom {o : Skeleton} (some : o ≠ .done) (counter : Nat)
    (place other : Place) : o.draw counter other = (o.draw counter place).enteredFrom other := by
  cases o with
  | done => exact absurd rfl some
  | _ => rfl

namespace Statement

variable (rules : LabelRules)

mutual

theorem skeleton_eq_done_iff (s : Statement) (rest : Skeleton) :
    s.skeleton rules rest = .done ↔ s.preorder = [] ∧ rest = .done :=
  match s with
  | .block _ body => skeletonAll_eq_done_iff body rest
  | .branch _ _ _ (some _) | .branch _ _ _ none | .loop _ _ _ | .return _ | .plain _ _ => by
      simp [skeleton, preorder]

/-- A skeleton is done when nothing but blocks is in the statements and nothing follows. -/
theorem skeletonAll_eq_done_iff (body : List Statement) (rest : Skeleton) :
    skeletonAll rules body rest = .done ↔ preorderAll body = [] ∧ rest = .done :=
  match body with
  | [] => by simp [skeletonAll, preorderAll]
  | s :: more => by
      rw [skeletonAll, skeleton_eq_done_iff s, skeletonAll_eq_done_iff more, preorderAll,
        List.append_eq_nil_iff, and_assoc]

end

variable {s : Statement}

theorem draw_eq_draw_skeleton (s : Statement) : s.draw rules = (s.skeleton rules .done).draw :=
  (Skeleton.draw_eq_of_done (draw_skeleton rules s .done)).symm

/-- Of a statement in which there are only blocks nothing is drawn. -/
theorem draw_eq_nothing (blank : s.preorder = []) : s.draw rules = Fragment.nothing := by
  rw [draw_eq_draw_skeleton, (skeleton_eq_done_iff rules s .done).2 ⟨blank, rfl⟩]
  rfl

/-- Any other statement is drawn after another counter and from another place as it is drawn here,
with its counters moved along and its first edge led in from there. -/
theorem draw_elsewhere (some : s.preorder ≠ []) (old new : Nat) (place other : Place) :
    s.draw rules new other =
      ((s.draw rules old place).renumber (shift old new)).enteredFrom other := by
  have kept : s.skeleton rules .done ≠ .done := fun done =>
    some ((skeleton_eq_done_iff rules s .done).1 done).1
  have moved := (movable_draw (shift old new) rules s).moves old place (steady_shift old new)
  rw [shift_self] at moved
  rw [← moved, draw_eq_draw_skeleton]
  exact Skeleton.draw_enteredFrom kept new _ other

end Statement

/-! ## A single way in -/

namespace Fragment

variable {F : Fragment} {counter : Nat} {place : Place}

/-- The first edge of a drawing leads from the place where it is entered to its first node. -/
theorem Drawn.enters (drawn : Drawn counter place F) :
    (F.nodes = [] ∧ F.edges = [] ∧ F.place = place) ∨
      ∃ v nodes edges, F.nodes = v :: nodes ∧ F.edges = place.edgeTo v.id :: edges := by
  induction drawn with
  | nothing => exact .inl ⟨rfl, rfl, rfl⟩
  | single | joined | looped => exact .inr ⟨_, _, _, rfl, rfl⟩
  | @append counter place a b _ _ first second =>
      rcases first with ⟨noNodes, noEdges, same⟩ | ⟨v, nodes, edges, atNodes, atEdges⟩
      · rw [same] at second
        simpa [Fragment.append, noNodes, noEdges] using second
      · exact .inr ⟨v, nodes ++ b.nodes, edges ++ b.edges, by simp [Fragment.append, atNodes],
          by simp [Fragment.append, atEdges]⟩

def ids (F : Fragment) : List NodeId := F.nodes.map (·.id)

/-- All edges but the first leave from places of the nodes, and so does control. -/
theorem Drawn.source_mem_ids (drawn : Drawn counter place F) {first : Edge} {edges : List Edge}
    (split : F.edges = first :: edges) (entry : first.place = place) :
    ∀ e ∈ edges, e.source ∈ F.ids := by
  intro e member
  have balance := drawn.balance
  rw [split, List.map_cons, List.cons_append, entry] at balance
  have inPlaces : e.place ∈ F.nodes.flatMap Node.places :=
    balance.cons_inv.mem_iff.1 (List.mem_append_left _ (List.mem_map_of_mem member))
  obtain ⟨v, hv, own⟩ := List.mem_flatMap.1 inPlaces
  exact List.mem_map.2 ⟨v, hv, (Node.tail_of_mem_places own).symm⟩

theorem Drawn.target_mem_ids (drawn : Drawn counter place F) : ∀ e ∈ F.edges, e.target ∈ F.ids := by
  intro e member
  obtain ⟨v, hv, same⟩ := drawn.target_mem e member
  exact List.mem_map.2 ⟨v, hv, same⟩

/-- A drawing that has a node is entered by its first edge, which leads from the place to its first
node; all its other edges lead from node to node. -/
theorem Drawn.single_entry (drawn : Drawn counter place F) (some : F.nodes ≠ []) :
    ∃ v nodes edges, F.nodes = v :: nodes ∧ F.edges = place.edgeTo v.id :: edges ∧
      ∀ e ∈ edges, e.source ∈ F.ids ∧ e.target ∈ F.ids := by
  rcases drawn.enters with ⟨none, -, -⟩ | ⟨v, nodes, edges, atNodes, atEdges⟩
  · exact absurd none some
  · refine ⟨v, nodes, edges, atNodes, atEdges, fun e member => ⟨?_, ?_⟩⟩
    · exact drawn.source_mem_ids atEdges (Place.place_edgeTo place v.id) e member
    · exact drawn.target_mem_ids e (atEdges ▸ List.mem_cons_of_mem _ member)

end Fragment

theorem Statement.nodes_draw_ne_nil {s : Statement} (some : s.preorder ≠ []) (rules : LabelRules)
    (counter : Nat) (place : Place) : (s.draw rules counter place).nodes ≠ [] := by
  intro empty
  have head := (s.skeleton rules .done).head?_nodes counter place
  rw [← draw_eq_draw_skeleton, empty, List.head?_nil] at head
  have done := Skeleton.eq_done_of_first? head.symm
  exact some ((skeleton_eq_done_iff rules s .done).1 done).1

end Flowgraph
