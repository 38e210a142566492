import Flowgraph.Proofs.Drawing.Complexity
import Flowgraph.Proofs.Syntax.Traversal
import Flowgraph.Proofs.Text.Slice

/-!
# Statements and their pieces of source

Each statement that lowering makes has the span of a node of the tree, and one that is kept whole
has the text of that node.
-/

namespace Flowgraph

/-- The statement has the span of the node and, if it is kept whole, the text of the node. -/
structure Statement.ComesFrom (s : Statement) (source : String) (u : SyntaxTree) : Prop where
  span_eq : s.span = u.span
  text_eq : ∀ span text, s = .plain span text → text = u.text source

namespace SyntaxTree

variable {source : String} {levels : Nat} {t u : SyntaxTree} {s : Statement}

theorem mem_preorder_of_child {child : SyntaxTree} (member : child ∈ t.children)
    (inside : u ∈ child.preorder) : u ∈ t.preorder := by
  obtain ⟨info, children⟩ := t
  exact List.mem_cons_of_mem _ (mem_preorderAll.2 ⟨child, member, inside⟩)

theorem mem_preorder_of_at? {address : List Nat} {part : SyntaxTree}
    (found : t.at? address = some part) (inside : u ∈ part.preorder) : u ∈ t.preorder := by
  induction address generalizing t with
  | nil =>
      obtain rfl := Option.some.inj found
      exact inside
  | cons i rest ih =>
      rw [at?_cons] at found
      obtain ⟨child, atChild, below⟩ := Option.bind_eq_some_iff.1 found
      exact mem_preorder_of_child (List.mem_of_getElem? atChild) (ih below)

/-- The text of a node is what its range cuts out. -/
theorem text_eq_of_slice? {text : List Char} (cut : Text.slice? source.toList t.span = some text) :
    t.text source = String.ofList text := by
  rw [SyntaxTree.text, Text.slice, cut]
  rfl

theorem comesFrom_whole (t : SyntaxTree) (source : String) :
    (t.whole source).ComesFrom source t :=
  ⟨rfl, fun _ _ same => (Statement.plain.inj same).2.symm⟩

theorem comesFrom_lowerWith (source : String) (lower : SyntaxTree → Statement) (t : SyntaxTree) :
    (t.lowerWith source lower).ComesFrom source t := by
  by_cases block : t.kind = "statement_block"
  · rw [lowerWith_block source lower block]
    exact ⟨rfl, nofun⟩
  by_cases branch : t.kind = "if_statement"
  · rw [lowerWith_if source lower branch]
    exact ⟨rfl, nofun⟩
  cases loop : loopKind? t.kind with
  | some kind =>
      rw [lowerWith_loop source lower loop]
      exact ⟨rfl, nofun⟩
  | none =>
      rcases lowerWith_other source lower block branch loop with same | same
      · rw [same]
        exact ⟨rfl, nofun⟩
      · rw [same]
        exact t.comesFrom_whole source

/-- The statement of a node has its span, whatever it is made into. -/
theorem comesFrom_statement (source : String) (levels : Nat) (t : SyntaxTree) :
    (t.statement source levels).ComesFrom source t := by
  cases levels with
  | zero => exact t.comesFrom_whole source
  | succ levels =>
      rw [statement_succ]
      exact comesFrom_lowerWith source _ t

/-- What is within the statement of a node is within those of its parts. -/
theorem mem_preorder_statement
    (member : s ∈ (t.statement source (levels + 1)).preorder) :
    s = t.statement source (levels + 1) ∨
      ∃ x ∈ t.parts, s ∈ (x.2.statement source levels).preorder := by
  have own : ∀ other : Statement, s ∈ other.listed → s = other := by
    intro other listed
    cases other with
    | block => cases listed
    | _ => exact List.mem_singleton.1 listed
  rw [preorder_statement] at member
  rcases List.mem_append.1 member with here | within
  · exact .inl (own _ here)
  · exact .inr (List.mem_flatMap.1 within)

theorem comesFrom_of_mem_preorder (member : s ∈ (t.statement source levels).preorder) :
    ∃ u ∈ t.preorder, s.ComesFrom source u := by
  induction levels generalizing t with
  | zero =>
      obtain rfl := List.mem_singleton.1 member
      exact ⟨t, t.mem_preorder_self, t.comesFrom_whole source⟩
  | succ levels ih =>
      rcases mem_preorder_statement member with rfl | ⟨x, isPart, inside⟩
      · exact ⟨t, t.mem_preorder_self, comesFrom_statement source _ t⟩
      · obtain ⟨u, below, origin⟩ := ih inside
        exact ⟨u, mem_preorder_of_at? (at?_of_mem_parts isPart).1 below, origin⟩

/-- The statements of a function, those within others included, come from nodes of its tree. -/
theorem comesFrom_of_function? {f : Function} (made : t.function? source = some f)
    (member : s ∈ f.preorder) : ∃ u ∈ t.preorder, s.ComesFrom source u := by
  rw [preorder_of_function? made] at member
  cases found : t.childByField "body" with
  | none =>
      rw [found] at member
      cases member
  | some body =>
      rw [found] at member
      obtain ⟨u, below, origin⟩ := comesFrom_of_mem_preorder member
      exact ⟨u, mem_preorder_of_child (List.mem_of_find?_eq_some found) below, origin⟩

end SyntaxTree

end Flowgraph
