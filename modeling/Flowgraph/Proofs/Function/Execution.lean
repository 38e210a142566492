import Flowgraph.Function.Statement
import Flowgraph.Graph.Basic

/-!
# Executions

What a function can do, said of its statements alone. A plain statement is one step, a return is a
step that ends the function, a block runs its statements in order, a branch goes one of its two
ways, and a loop is entered or left each time control is at its header. An execution is told as the
statements it comes to, by their number in the body, with the choices made. The laws below say what
may be told of a statement when it is known what may be told of what comes after it; for a loop this
is the only solution of its unfolding.
-/

namespace Flowgraph

/-- A statement that is executed, by its number, and the choice made there if it is a branch or a
loop. -/
structure Event where
  statement : Nat
  choice : Option Choice
deriving DecidableEq, Inhabited, Repr

namespace Statement

mutual

/-- A statement and the statements within it, each before what is within it; blocks are left out. -/
def preorder : Statement → List Statement
  | .block _ body => preorderAll body
  | .branch span test consequent (some alternate) =>
      .branch span test consequent (some alternate) :: (consequent.preorder ++ alternate.preorder)
  | .branch span test consequent none => .branch span test consequent none :: consequent.preorder
  | .loop span kind body => .loop span kind body :: body.preorder
  | .return span => [.return span]
  | .plain span text => [.plain span text]

def preorderAll : List Statement → List Statement
  | [] => []
  | s :: rest => s.preorder ++ preorderAll rest

end

mutual

theorem ne_block_of_mem_preorder (s : Statement) {other : Statement} (member : other ∈ s.preorder) :
    ∀ span body, other ≠ .block span body :=
  match s, member with
  | .block _ body, member => ne_block_of_mem_preorderAll body member
  | .branch _ _ consequent (some alternate), member => by
      rcases List.mem_cons.1 member with rfl | within
      · exact nofun
      · rcases List.mem_append.1 within with inFirst | inSecond
        · exact ne_block_of_mem_preorder consequent inFirst
        · exact ne_block_of_mem_preorder alternate inSecond
  | .branch _ _ consequent none, member => by
      rcases List.mem_cons.1 member with rfl | within
      · exact nofun
      · exact ne_block_of_mem_preorder consequent within
  | .loop _ _ body, member => by
      rcases List.mem_cons.1 member with rfl | within
      · exact nofun
      · exact ne_block_of_mem_preorder body within
  | .return _, member | .plain _ _, member => by
      obtain rfl := List.mem_singleton.1 member
      exact nofun

theorem ne_block_of_mem_preorderAll (body : List Statement) {other : Statement}
    (member : other ∈ preorderAll body) : ∀ span inner, other ≠ .block span inner :=
  match body, member with
  | [], member => absurd member List.not_mem_nil
  | s :: rest, member => by
      rcases List.mem_append.1 member with inFirst | inRest
      · exact ne_block_of_mem_preorder s inFirst
      · exact ne_block_of_mem_preorderAll rest inRest

end

/-- How the execution of a statement ends: control goes on behind it, or the function returns. -/
inductive Ending where
  | completed
  | returned
deriving DecidableEq, Inhabited, Repr

/-- The executions of a statement whose number is the first argument; what is within it is numbered
on from there. -/
inductive Runs : Nat → Statement → List Event → Ending → Prop
  | plain {n : Nat} {span : Span} {text : String} :
      Runs n (.plain span text) [⟨n, none⟩] .completed
  | return {n : Nat} {span : Span} : Runs n (.return span) [⟨n, none⟩] .returned
  | empty {n : Nat} {span : Span} : Runs n (.block span []) [] .completed
  | next {n : Nat} {span : Span} {s : Statement} {rest : List Statement} {first second : List Event}
      {ending : Ending} :
      Runs n s first .completed →
      Runs (n + s.preorder.length) (.block span rest) second ending →
      Runs n (.block span (s :: rest)) (first ++ second) ending
  | halt {n : Nat} {span : Span} {s : Statement} {rest : List Statement} {events : List Event} :
      Runs n s events .returned → Runs n (.block span (s :: rest)) events .returned
  | yes {n : Nat} {span : Span} {test : String} {consequent : Statement}
      {alternate : Option Statement} {events : List Event} {ending : Ending} :
      Runs (n + 1) consequent events ending →
      Runs n (.branch span test consequent alternate) (⟨n, some .yes⟩ :: events) ending
  | no {n : Nat} {span : Span} {test : String} {consequent alternate : Statement}
      {events : List Event} {ending : Ending} :
      Runs (n + 1 + consequent.preorder.length) alternate events ending →
      Runs n (.branch span test consequent (some alternate)) (⟨n, some .no⟩ :: events) ending
  | skip {n : Nat} {span : Span} {test : String} {consequent : Statement} :
      Runs n (.branch span test consequent none) [⟨n, some .no⟩] .completed
  | leave {n : Nat} {span : Span} {kind : LoopKind} {body : Statement} :
      Runs n (.loop span kind body) [⟨n, some .leave⟩] .completed
  | again {n : Nat} {span : Span} {kind : LoopKind} {body : Statement} {first second : List Event}
      {ending : Ending} :
      Runs (n + 1) body first .completed →
      Runs n (.loop span kind body) second ending →
      Runs n (.loop span kind body) (⟨n, some .enter⟩ :: (first ++ second)) ending
  | stop {n : Nat} {span : Span} {kind : LoopKind} {body : Statement} {events : List Event} :
      Runs (n + 1) body events .returned →
      Runs n (.loop span kind body) (⟨n, some .enter⟩ :: events) .returned

def choices : Statement → List (Option Choice)
  | .branch .. => [some .yes, some .no]
  | .loop .. => [some .enter, some .leave]
  | .return _ | .plain .. => [none]
  | .block .. => []

/-- What is told of a statement is told of the statements that are numbered, with choices that they
offer. -/
theorem mem_preorder_of_runs {n : Nat} {s : Statement} {events : List Event} {ending : Ending}
    (run : Runs n s events ending) :
    ∀ e ∈ events, ∃ t, (t, e.statement) ∈ s.preorder.zipIdx n ∧ e.choice ∈ t.choices := by
  induction run with
  | plain | «return» | leave | empty => simp [preorder, choices]
  | @skip _ span test consequent => simp [preorder, choices]
  | @next n _ s rest _ _ _ _ _ ihFirst ihSecond =>
      intro e member
      simp only [preorder, preorderAll, List.zipIdx_append, List.mem_append] at ihSecond ⊢
      rcases List.mem_append.1 member with inFirst | inSecond
      · obtain ⟨t, ht, offered⟩ := ihFirst e inFirst
        exact ⟨t, .inl ht, offered⟩
      · obtain ⟨t, ht, offered⟩ := ihSecond e inSecond
        exact ⟨t, .inr ht, offered⟩
  | halt _ ih =>
      intro e member
      obtain ⟨t, ht, offered⟩ := ih e member
      refine ⟨t, ?_, offered⟩
      simp only [preorder, preorderAll, List.zipIdx_append, List.mem_append]
      exact .inl ht
  | @yes _ _ _ _ alternate _ _ _ ih =>
      intro e member
      rcases List.mem_cons.1 member with rfl | later
      · cases alternate <;> simp [preorder, choices]
      · obtain ⟨t, ht, offered⟩ := ih e later
        cases alternate <;> exact ⟨t, by simp [preorder, List.zipIdx_append, ht], offered⟩
  | no _ ih =>
      intro e member
      rcases List.mem_cons.1 member with rfl | later
      · simp [preorder, choices]
      · obtain ⟨t, ht, offered⟩ := ih e later
        exact ⟨t, by simp [preorder, List.zipIdx_append, ht], offered⟩
  | again _ _ ihBody ihLoop =>
      intro e member
      rcases List.mem_cons.1 member with rfl | later
      · simp [preorder, choices]
      · rcases List.mem_append.1 later with inBody | inLoop
        · obtain ⟨t, ht, offered⟩ := ihBody e inBody
          exact ⟨t, by simp [preorder, ht], offered⟩
        · exact ihLoop e inLoop
  | stop _ ih =>
      intro e member
      rcases List.mem_cons.1 member with rfl | later
      · simp [preorder, choices]
      · obtain ⟨t, ht, offered⟩ := ih e later
        exact ⟨t, by simp [preorder, ht], offered⟩
/-- What may be told of a statement and of what comes after it. -/
def Followed (n : Nat) (s : Statement) (next : List Event → Prop) (events : List Event) : Prop :=
  Runs n s events .returned ∨
    ∃ first second, events = first ++ second ∧ Runs n s first .completed ∧ next second

section Laws

variable {n : Nat} {span : Span} {events : List Event} {next : List Event → Prop}

theorem Followed.congr {s : Statement} {next' : List Event → Prop}
    (same : ∀ events, next events ↔ next' events) :
    Followed n s next events ↔ Followed n s next' events := by
  simp only [Followed, same]

theorem followed_plain {text : String} :
    Followed n (.plain span text) next events ↔ ∃ rest, events = ⟨n, none⟩ :: rest ∧ next rest := by
  constructor
  · rintro (returned | ⟨first, second, rfl, run, after⟩)
    · cases returned
    · cases run
      exact ⟨second, rfl, after⟩
  · rintro ⟨rest, rfl, after⟩
    exact .inr ⟨[⟨n, none⟩], rest, rfl, .plain, after⟩

theorem followed_return : Followed n (.return span) next events ↔ events = [⟨n, none⟩] := by
  constructor
  · rintro (returned | ⟨first, second, rfl, run, after⟩)
    · cases returned
      rfl
    · cases run
  · rintro rfl
    exact .inl .return

theorem followed_nil : Followed n (.block span []) next events ↔ next events := by
  constructor
  · rintro (returned | ⟨first, second, rfl, run, after⟩)
    · cases returned
    · cases run
      exact after
  · intro after
    exact .inr ⟨[], events, rfl, .empty, after⟩

theorem followed_cons {s : Statement} {rest : List Statement} :
    Followed n (.block span (s :: rest)) next events ↔
      Followed n s (Followed (n + s.preorder.length) (.block span rest) next) events := by
  constructor
  · rintro (returned | ⟨first, second, rfl, run, after⟩)
    · cases returned with
      | next run later => exact .inr ⟨_, _, rfl, run, .inl later⟩
      | halt run => exact .inl run
    · cases run with
      | @next _ _ _ _ before behind _ run later =>
          exact .inr ⟨before, behind ++ second, List.append_assoc .., run,
            .inr ⟨behind, second, rfl, later, after⟩⟩
  · rintro (returned | ⟨first, second, rfl, run, later | ⟨before, behind, rfl, later, after⟩⟩)
    · exact .inl (.halt returned)
    · exact .inl (.next run later)
    · exact .inr ⟨first ++ before, behind, (List.append_assoc ..).symm, .next run later, after⟩

theorem followed_branch {test : String} {consequent alternate : Statement} :
    Followed n (.branch span test consequent (some alternate)) next events ↔
      (∃ rest, events = ⟨n, some .yes⟩ :: rest ∧ Followed (n + 1) consequent next rest) ∨
      (∃ rest, events = ⟨n, some .no⟩ :: rest ∧
        Followed (n + 1 + consequent.preorder.length) alternate next rest) := by
  constructor
  · rintro (returned | ⟨first, second, rfl, run, after⟩)
    · cases returned with
      | yes run => exact .inl ⟨_, rfl, .inl run⟩
      | no run => exact .inr ⟨_, rfl, .inl run⟩
    · cases run with
      | yes run => exact .inl ⟨_, rfl, .inr ⟨_, second, rfl, run, after⟩⟩
      | no run => exact .inr ⟨_, rfl, .inr ⟨_, second, rfl, run, after⟩⟩
  · rintro (⟨rest, rfl, run | ⟨first, second, rfl, run, after⟩⟩ |
      ⟨rest, rfl, run | ⟨first, second, rfl, run, after⟩⟩)
    · exact .inl (.yes run)
    · exact .inr ⟨_, second, rfl, .yes run, after⟩
    · exact .inl (.no run)
    · exact .inr ⟨_, second, rfl, .no run, after⟩

theorem followed_branch_none {test : String} {consequent : Statement} :
    Followed n (.branch span test consequent none) next events ↔
      (∃ rest, events = ⟨n, some .yes⟩ :: rest ∧ Followed (n + 1) consequent next rest) ∨
      (∃ rest, events = ⟨n, some .no⟩ :: rest ∧ next rest) := by
  constructor
  · rintro (returned | ⟨first, second, rfl, run, after⟩)
    · cases returned with
      | yes run => exact .inl ⟨_, rfl, .inl run⟩
    · cases run with
      | yes run => exact .inl ⟨_, rfl, .inr ⟨_, second, rfl, run, after⟩⟩
      | skip => exact .inr ⟨second, rfl, after⟩
  · rintro (⟨rest, rfl, run | ⟨first, second, rfl, run, after⟩⟩ | ⟨rest, rfl, after⟩)
    · exact .inl (.yes run)
    · exact .inr ⟨_, second, rfl, .yes run, after⟩
    · exact .inr ⟨[⟨n, some .no⟩], rest, rfl, .skip, after⟩

end Laws

section Loop

variable {n : Nat} {span : Span} {kind : LoopKind} {body : Statement} {next : List Event → Prop}
  {told : List Event → Prop}

/-- What may be told at the header of a loop solves the unfolding of the loop. -/
theorem followed_of_unfolds
    (unfolds : ∀ events, told events ↔
      (∃ rest, events = ⟨n, some .leave⟩ :: rest ∧ next rest) ∨
      (∃ rest, events = ⟨n, some .enter⟩ :: rest ∧ Followed (n + 1) body told rest))
    (events : List Event) (h : told events) : Followed n (.loop span kind body) next events := by
  -- A way back to the header leaves less to tell, because entering the body is told.
  induction length : events.length using Nat.strongRecOn generalizing events with
  | _ size ih =>
      obtain ⟨rest, rfl, after⟩ | ⟨rest, rfl, run | ⟨first, second, rfl, run, again⟩⟩ :=
        (unfolds events).1 h
      · exact .inr ⟨[⟨n, some .leave⟩], rest, rfl, .leave, after⟩
      · exact .inl (.stop run)
      · have shorter : second.length < size := by
          rw [← length, List.length_cons, List.length_append]
          omega
        rcases ih _ shorter second again rfl with returned | ⟨before, behind, rfl, later, after⟩
        · exact .inl (.again run returned)
        · exact .inr ⟨⟨n, some .enter⟩ :: (first ++ before), behind, by simp, .again run later,
            after⟩

theorem told_of_runs
    (unfolds : ∀ events, told events ↔
      (∃ rest, events = ⟨n, some .leave⟩ :: rest ∧ next rest) ∨
      (∃ rest, events = ⟨n, some .enter⟩ :: rest ∧ Followed (n + 1) body told rest))
    {events : List Event} {ending : Ending} (run : Runs n (.loop span kind body) events ending) :
    (ending = .returned → told events) ∧
      (ending = .completed → ∀ rest, next rest → told (events ++ rest)) := by
  generalize same : Statement.loop span kind body = s at run
  induction run with
  | leave =>
      cases same
      exact ⟨by simp, fun _ rest after => (unfolds _).2 (.inl ⟨rest, rfl, after⟩)⟩
  | @again _ _ _ _ first second ending run _ _ ih =>
      cases same
      obtain ⟨returned, completed⟩ := ih unfolds rfl
      refine ⟨fun h => ?_, fun h rest after => ?_⟩
      · exact (unfolds _).2 (.inr ⟨_, rfl, .inr ⟨first, second, rfl, run, returned h⟩⟩)
      · exact (unfolds _).2 (.inr ⟨first ++ second ++ rest, rfl,
          .inr ⟨first, second ++ rest, List.append_assoc .., run, completed h rest after⟩⟩)
  | stop run =>
      cases same
      exact ⟨fun _ => (unfolds _).2 (.inr ⟨_, rfl, .inl run⟩), by simp⟩
  | _ => cases same

/-- The unfolding of a loop has no other solution. -/
theorem followed_loop_iff
    (unfolds : ∀ events, told events ↔
      (∃ rest, events = ⟨n, some .leave⟩ :: rest ∧ next rest) ∨
      (∃ rest, events = ⟨n, some .enter⟩ :: rest ∧ Followed (n + 1) body told rest))
    (events : List Event) : told events ↔ Followed n (.loop span kind body) next events := by
  refine ⟨followed_of_unfolds unfolds events, ?_⟩
  rintro (returned | ⟨first, second, rfl, run, after⟩)
  · exact (told_of_runs unfolds returned).1 rfl
  · exact (told_of_runs unfolds run).2 rfl second after

end Loop

end Statement

namespace Function

/-- The statements in braces, or the value of an arrow function as the only one. -/
def bodyStatements (f : Function) : List Statement :=
  match f.body with
  | some (.block body) => body
  | some (.expression value) => [value]
  | none => []

theorem statements_eq_bodyStatements (f : Function) : f.statements = f.bodyStatements := by
  unfold statements bodyStatements
  cases f.body with
  | none => rfl
  | some body => cases body <;> rfl

def preorder (f : Function) : List Statement := Statement.preorderAll f.bodyStatements

/-- The complete executions of a function: its body runs to its end, or the function returns. -/
def Executes (f : Function) (events : List Event) : Prop :=
  ∃ ending, Statement.Runs 0 (.block f.span f.bodyStatements) events ending

/-- An execution tells of the statements of the function, each with a choice that it offers. -/
theorem statement_of_executes {f : Function} {events : List Event} (executes : f.Executes events)
    {e : Event} (member : e ∈ events) :
    ∃ s, f.preorder[e.statement]? = some s ∧ e.choice ∈ s.choices := by
  obtain ⟨_, run⟩ := executes
  obtain ⟨s, told, offered⟩ := Statement.mem_preorder_of_runs run e member
  exact ⟨s, List.mem_zipIdx_iff_getElem?.1 told, offered⟩

end Function

end Flowgraph
