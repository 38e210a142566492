import Flowgraph.Proofs.Drawing.Structure
import Flowgraph.Proofs.Function.Execution

/-!
# Skeletons

The skeleton of a body is what its graph shows of it: blocks are spliced into the statements around
them, a branch without a second side has an empty one, and of each statement only its span and what
labels its node is kept. Bodies have the same graph exactly when they have the same skeleton. Blocks
leave no trace because drawing a skeleton is drawing the body; and a skeleton can be read off its
drawing because a node of the source is always entered from the place reached before it.
-/

namespace Flowgraph

/-- Statements one after the other: a skeleton is done, or it is a statement and the rest. -/
inductive Skeleton where
  | done
  | plain (span : Span) (snippet : String) (io : Bool) (rest : Skeleton)
  | return (span : Span) (rest : Skeleton)
  | branch (span : Span) (test : String) (yes no rest : Skeleton)
  | loop (span : Span) (body rest : Skeleton)
deriving DecidableEq, Inhabited, Repr

namespace Statement

mutual

/-- The skeleton of a statement, followed by the rest. -/
def skeleton (rules : LabelRules) : Statement → Skeleton → Skeleton
  | .block _ body, rest => skeletonAll rules body rest
  | .branch span test consequent (some alternate), rest =>
      .branch span (rules.snippet test) (consequent.skeleton rules .done)
        (alternate.skeleton rules .done) rest
  | .branch span test consequent none, rest =>
      .branch span (rules.snippet test) (consequent.skeleton rules .done) .done rest
  | .loop span _ body, rest => .loop span (body.skeleton rules .done) rest
  | .return span, rest => .return span rest
  | .plain span text, rest => .plain span (rules.snippet text) (rules.isIo text) rest

def skeletonAll (rules : LabelRules) : List Statement → Skeleton → Skeleton
  | [], rest => rest
  | s :: more, rest => s.skeleton rules (skeletonAll rules more rest)

end

end Statement

def Function.canonical (f : Function) (rules : LabelRules) : String × Skeleton :=
  (f.name, Statement.skeletonAll rules f.bodyStatements .done)

/-! ## Drawing a skeleton -/

namespace Fragment

@[simp] theorem andThen_nothing (a : Fragment) : a.andThen nothing = a := by
  simp [andThen, nothing]

theorem andThen_assoc (a : Fragment) (b c : Nat → Place → Fragment) :
    (a.andThen b).andThen c = a.andThen fun counter place => (b counter place).andThen c := by
  simp [andThen]

end Fragment

namespace Skeleton

def draw : Skeleton → Nat → Place → Fragment
  | .done, counter, place => .nothing counter place
  | .plain span snippet io rest, counter, place =>
      (Fragment.single (if io then .io else .statement) span snippet counter place).andThen rest.draw
  | .return span rest, counter, place =>
      (Fragment.single .return span "Return" counter place).andThen rest.draw
  | .branch span test yes no rest, counter, place =>
      (Fragment.branch span (test ++ " ?") yes.draw no.draw counter place).andThen rest.draw
  | .loop span body rest, counter, place =>
      (Fragment.loop span body.draw counter place).andThen rest.draw

theorem drawn_draw (o : Skeleton) (counter : Nat) (place : Place) :
    Fragment.Drawn counter place (o.draw counter place) := by
  induction o generalizing counter place with
  | done => exact .nothing counter place
  | plain span snippet io rest ih =>
      exact .append (.single _ span snippet counter place (by split <;> simp)) (ih _ _)
  | «return» span rest ih =>
      exact .append (.single _ span "Return" counter place (by simp)) (ih _ _)
  | branch span test yes no rest ihYes ihNo ih =>
      exact .append (.joined span (test ++ " ?") counter place (ihYes _ _) (ihNo _ _)) (ih _ _)
  | loop span body rest ihBody ih =>
      exact .append (.looped span counter place (ihBody _ _)) (ih _ _)

end Skeleton

/-- What is drawn with nothing after it is what is drawn. -/
theorem Skeleton.draw_eq_of_done {o : Skeleton} {drawing : Nat → Place → Fragment}
    (same : ∀ counter place, o.draw counter place =
      (drawing counter place).andThen Skeleton.done.draw) : o.draw = drawing := by
  funext counter place
  rw [same]
  exact Fragment.andThen_nothing _

namespace Statement

mutual

theorem draw_skeleton (rules : LabelRules) (s : Statement) (rest : Skeleton) (counter : Nat)
    (place : Place) :
    (s.skeleton rules rest).draw counter place =
      (s.draw rules counter place).andThen rest.draw :=
  match s with
  | .block _ body => drawAll_skeletonAll rules body rest counter place
  | .branch span test consequent (some alternate) => by
      have yes := Skeleton.draw_eq_of_done (draw_skeleton rules consequent .done)
      have no := Skeleton.draw_eq_of_done (draw_skeleton rules alternate .done)
      simp only [skeleton, Skeleton.draw, draw, yes, no]
  | .branch span test consequent none => by
      have yes := Skeleton.draw_eq_of_done (draw_skeleton rules consequent .done)
      simp only [skeleton, Skeleton.draw, draw, yes]
  | .loop span _ body => by
      have inner := Skeleton.draw_eq_of_done (draw_skeleton rules body .done)
      simp only [skeleton, Skeleton.draw, draw, inner]
  | .return _ => rfl
  | .plain _ _ => rfl

/-- Blocks leave no trace: what is drawn of statements is drawn of their skeleton. -/
theorem drawAll_skeletonAll (rules : LabelRules) (body : List Statement) (rest : Skeleton)
    (counter : Nat) (place : Place) :
    (skeletonAll rules body rest).draw counter place =
      (drawAll rules body counter place).andThen rest.draw :=
  match body with
  | [] => by simp [skeletonAll, drawAll, Fragment.andThen, Fragment.nothing]
  | s :: more => by
      have later : (skeletonAll rules more rest).draw =
          fun n p => (drawAll rules more n p).andThen rest.draw := by
        funext n p
        exact drawAll_skeletonAll rules more rest n p
      rw [skeletonAll, draw_skeleton rules s, later, drawAll, Fragment.andThen_assoc]

end

end Statement

theorem Function.bodyFragment_eq_draw (f : Function) (rules : LabelRules) :
    f.bodyFragment rules = (f.canonical rules).2.draw 0 (.after .start) := by
  rw [canonical, Statement.drawAll_skeletonAll, ← f.statements_eq_bodyStatements]
  exact (Fragment.andThen_nothing _).symm

/-! ## Reading a skeleton off its drawing -/

namespace Skeleton

def first? (counter : Nat) : Skeleton → Option Node
  | .done => none
  | .plain span snippet io _ =>
      some ⟨.source (counter + 1) span, if io then .io else .statement, snippet⟩
  | .return span _ => some ⟨.source (counter + 1) span, .return, "Return"⟩
  | .branch span test _ _ _ => some ⟨.source (counter + 1) span, .decision, test ++ " ?"⟩
  | .loop span _ _ => some ⟨.source (counter + 1) span, .loop, "Loop"⟩

theorem head?_nodes (o : Skeleton) (counter : Nat) (place : Place) :
    (o.draw counter place).nodes.head? = o.first? counter := by
  cases o <;> rfl

theorem head?_edges (o : Skeleton) (counter : Nat) (place : Place) :
    (o.draw counter place).edges.head? = (o.first? counter).map fun v => place.edgeTo v.id := by
  cases o <;> rfl

theorem isClickTarget_first? {o : Skeleton} {counter : Nat} {v : Node}
    (first : o.first? counter = some v) : v.id.isClickTarget = true := by
  cases o <;> simp [first?] at first <;> rw [← first] <;> rfl

theorem eq_done_of_first? {o : Skeleton} {counter : Nat} (first : o.first? counter = none) :
    o = .done := by
  cases o <;> simp [first?] at first ⊢

/-- What follows a place does not begin with a node of the source that is entered from there. -/
def Closed (place : Place) (nodes : List Node) (edges : List Edge) : Prop :=
  ∀ v, nodes.head? = some v → edges.head? = some (place.edgeTo v.id) → v.id.isClickTarget = false

theorem closed_cons {v : Node} (synthetic : v.id.isClickTarget = false) (place : Place)
    (nodes : List Node) (edges : List Edge) : Closed place (v :: nodes) edges := by
  intro w head _
  obtain rfl : v = w := Option.some.inj head
  exact synthetic

/-- The drawing of a second side is not taken for more of the first, since it is entered from
another place. -/
theorem closed_draw_append {v : Node} (synthetic : v.id.isClickTarget = false) (o : Skeleton)
    (counter : Nat) {place other : Place} (ne : other ≠ place) (nodes : List Node)
    (edges : List Edge) :
    Closed other ((o.draw counter place).nodes ++ v :: nodes)
      ((o.draw counter place).edges ++ edges) := by
  intro w headNode headEdge
  have atNodes := o.head?_nodes counter place
  have atEdges := o.head?_edges counter place
  cases first : o.first? counter with
  | none =>
      obtain rfl := eq_done_of_first? first
      exact closed_cons synthetic other nodes edges w headNode headEdge
  | some u =>
      rw [first] at atEdges
      rw [List.head?_append, atEdges] at headEdge
      have same : place.edgeTo u.id = other.edgeTo w.id := Option.some.inj headEdge
      exact absurd (congrArg Edge.place same).symm ne

/-- What is entered by one choice is not left by another. -/
theorem place_ne_of_choosing (o : Skeleton) (counter : Nat) (id : NodeId) {a b : Choice}
    (ne : a ≠ b) : (o.draw counter (.choosing id a)).place ≠ .choosing id b := by
  intro same
  rcases (o.drawn_draw counter (.choosing id a)).place_eq_or with entry | unlabelled
  · rw [entry] at same
    exact ne (Option.some.inj (congrArg Place.pending same))
  · rw [same] at unlabelled
    cases unlabelled

section Unique

variable {o o' : Skeleton} {counter : Nat} {place : Place} {nodes nodes' : List Node}
  {edges edges' : List Edge}

theorem first?_eq_none_of_done
    (sameNodes : nodes = (o'.draw counter place).nodes ++ nodes')
    (sameEdges : edges = (o'.draw counter place).edges ++ edges')
    (closed : Closed place nodes edges) : o'.first? counter = none := by
  cases first : o'.first? counter with
  | none => rfl
  | some v =>
      have click := isClickTarget_first? first
      have headNode : nodes.head? = some v := by
        rw [sameNodes, List.head?_append, head?_nodes, first]
        rfl
      have headEdge : edges.head? = some (place.edgeTo v.id) := by
        rw [sameEdges, List.head?_append, head?_edges, first]
        rfl
      rw [closed v headNode headEdge] at click
      cases click

/-- Drawings that agree as far as they go begin with the same node. -/
theorem first?_eq
    (sameNodes : (o.draw counter place).nodes ++ nodes = (o'.draw counter place).nodes ++ nodes')
    (sameEdges : (o.draw counter place).edges ++ edges = (o'.draw counter place).edges ++ edges')
    (closed : Closed (o.draw counter place).place nodes edges)
    (closed' : Closed (o'.draw counter place).place nodes' edges') :
    o.first? counter = o'.first? counter := by
  cases first : o.first? counter with
  | none =>
      obtain rfl := eq_done_of_first? first
      exact (first?_eq_none_of_done sameNodes sameEdges closed).symm
  | some v =>
      cases first' : o'.first? counter with
      | none =>
          obtain rfl := eq_done_of_first? first'
          have none := first?_eq_none_of_done sameNodes.symm sameEdges.symm closed'
          rw [first] at none
          cases none
      | some v' =>
          have heads := congrArg List.head? sameNodes
          rw [List.head?_append, List.head?_append, head?_nodes, head?_nodes, first, first'] at heads
          simpa using heads

end Unique

/-- A skeleton can be read off its drawing, whatever follows, as long as what follows does not go on
from the place where the drawing ends. -/
theorem eq_of_draw {o o' : Skeleton} {counter : Nat} {place : Place} {nodes nodes' : List Node}
    {edges edges' : List Edge}
    (sameNodes : (o.draw counter place).nodes ++ nodes = (o'.draw counter place).nodes ++ nodes')
    (sameEdges : (o.draw counter place).edges ++ edges = (o'.draw counter place).edges ++ edges')
    (closed : Closed (o.draw counter place).place nodes edges)
    (closed' : Closed (o'.draw counter place).place nodes' edges') : o = o' := by
  induction o generalizing o' counter place nodes nodes' edges edges' with
  | done =>
      have first := first?_eq sameNodes sameEdges closed closed'
      exact (eq_done_of_first? first.symm).symm
  | plain span snippet io rest ih =>
      have first := first?_eq sameNodes sameEdges closed closed'
      cases o' with
      | plain span' snippet' io' rest' =>
          simp only [first?, Option.some.injEq, Node.mk.injEq, NodeId.source.injEq, true_and] at first
          obtain ⟨rfl, kind, rfl⟩ := first
          obtain rfl : io = io' := by cases io <;> cases io' <;> simp at kind ⊢
          rw [ih (congrArg List.tail sameNodes) (congrArg List.tail sameEdges) closed closed']
      | _ => cases io <;> simp [first?] at first
  | «return» span rest ih =>
      have first := first?_eq sameNodes sameEdges closed closed'
      cases o' with
      | «return» span' rest' =>
          simp only [first?, Option.some.injEq, Node.mk.injEq, NodeId.source.injEq, true_and,
            and_true] at first
          subst first
          rw [ih (congrArg List.tail sameNodes) (congrArg List.tail sameEdges) closed closed']
      | plain _ _ io' _ => cases io' <;> simp [first?] at first
      | _ => simp [first?] at first
  | branch span test yes no rest ihYes ihNo ih =>
      have first := first?_eq sameNodes sameEdges closed closed'
      cases o' with
      | branch span' test' yes' no' rest' =>
          simp only [first?, Option.some.injEq, Node.mk.injEq, NodeId.source.injEq, true_and] at first
          obtain ⟨rfl, label⟩ := first
          obtain rfl : test = test' := String.append_left_inj " ?" |>.1 label
          simp only [draw, Fragment.branch, Fragment.andThen, List.append_assoc, List.cons_append,
            List.cons.injEq, true_and, List.nil_append] at sameNodes sameEdges
          obtain rfl : yes = yes' :=
            ihYes sameNodes sameEdges
              (closed_draw_append rfl no _ (yes.place_ne_of_choosing _ _ (by simp)) _ _)
              (closed_draw_append rfl no' _ (yes'.place_ne_of_choosing _ _ (by simp)) _ _)
          simp only [List.append_cancel_left_eq] at sameNodes sameEdges
          obtain rfl : no = no' :=
            ihNo sameNodes sameEdges (closed_cons rfl _ _ _) (closed_cons rfl _ _ _)
          simp only [List.append_cancel_left_eq, List.cons.injEq, true_and] at sameNodes sameEdges
          rw [ih sameNodes sameEdges closed closed']
      | plain _ _ io' _ => cases io' <;> simp [first?] at first
      | _ => simp [first?] at first
  | loop span body rest ihBody ih =>
      have first := first?_eq sameNodes sameEdges closed closed'
      cases o' with
      | loop span' body' rest' =>
          simp only [first?, Option.some.injEq, Node.mk.injEq, NodeId.source.injEq, true_and,
            and_true] at first
          subst first
          simp only [draw, Fragment.loop, Fragment.andThen, List.append_assoc, List.cons_append,
            List.cons.injEq, true_and, List.nil_append] at sameNodes sameEdges
          obtain rfl : body = body' :=
            ihBody sameNodes sameEdges (closed_cons rfl _ _ _) (closed_cons rfl _ _ _)
          simp only [List.append_cancel_left_eq, List.cons.injEq, true_and] at sameNodes sameEdges
          rw [ih sameNodes sameEdges closed closed']
      | plain _ _ io' _ => cases io' <;> simp [first?] at first
      | _ => simp [first?] at first

end Skeleton

namespace Function

variable (rules : LabelRules) {f f' : Function}

theorem graph_eq_of_canonical (same : f.canonical rules = f'.canonical rules) :
    f.graph rules = f'.graph rules := by
  have name : f.name = f'.name := congrArg Prod.fst same
  have body : f.bodyFragment rules = f'.bodyFragment rules := by
    rw [bodyFragment_eq_draw, bodyFragment_eq_draw, same]
  unfold graph entryNode
  rw [name, body]

/-- Two functions have the same graph exactly when they have the same name and, blocks spliced and
spans of blocks and kinds of loops left out, the same statements. -/
theorem graph_eq_iff_canonical_eq (rules : LabelRules) (f f' : Function) :
    f.graph rules = f'.graph rules ↔ f.canonical rules = f'.canonical rules := by
  refine ⟨fun same => ?_, graph_eq_of_canonical rules⟩
  have name : f.name = f'.name := by
    rw [← f.graph_name rules, same, graph_name]
  have nodes : (f.bodyFragment rules).nodes ++ [terminalNode] =
      (f'.bodyFragment rules).nodes ++ [terminalNode] := by
    have all := congrArg Graph.nodes same
    rw [graph_nodes, graph_nodes] at all
    rw [bodyFragment_nodes, bodyFragment_nodes]
    exact (List.cons.inj all).2
  have body_edges : ∀ h : Function,
      ∃ last, (h.graph rules).edges = (h.bodyFragment rules).edges ++ last := by
    intro h
    rcases h.graph_edges rules with ⟨-, edges⟩ | ⟨-, edges⟩
    · exact ⟨_, edges⟩
    · exact ⟨[], by rw [edges, List.append_nil]⟩
  obtain ⟨last, edges⟩ := body_edges f
  obtain ⟨last', edges'⟩ := body_edges f'
  rw [same, edges'] at edges
  rw [bodyFragment_eq_draw, bodyFragment_eq_draw] at nodes edges
  have skeletons := Skeleton.eq_of_draw nodes edges.symm (Skeleton.closed_cons rfl _ _ _)
    (Skeleton.closed_cons rfl _ _ _)
  exact Prod.ext name skeletons

end Function

end Flowgraph
