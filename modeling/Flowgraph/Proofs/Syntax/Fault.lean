import Flowgraph.Analysis
import Flowgraph.Proofs.Syntax.Traversal

/-!
# The first faulty node

The search for a faulty node passes over every node that is not marked, with all that is in it.
Where the marks are right, that is where no fault is: the search finds the node that a search of the
whole tree finds, and from a tree whose root is marked it never comes back without one. So what is
reported of a text with syntax errors always says where the first of them is.
-/

namespace Flowgraph

namespace SyntaxTree

namespace Cursor

variable {enter p : SyntaxTree → Bool} {c : Cursor}

theorem findWhere?_step (enter p : SyntaxTree → Bool) (c : Cursor) :
    c.findWhere? enter p =
      if p c.node then some c.node else (c.nextWhere? enter).bind (findWhere? enter p) := by
  rw [findWhere?.eq_def]
  split
  · rfl
  · split <;> simp_all

/-- In the nodes that are not entered there is nothing with the property. -/
def Spares (enter p : SyntaxTree → Bool) (trees : List SyntaxTree) : Prop :=
  ∀ t ∈ trees, enter t = false → ∀ u ∈ t.preorder, p u = false

/-- What a step leaves behind does not have the property, if the node does not. -/
theorem find?_passed (spares : Spares enter p c.ahead) (fails : ¬p c.node = true) :
    (c.passed enter).find? p = none := by
  refine List.find?_eq_none.2 fun u member => ?_
  unfold passed at member
  split at member
  · rw [List.mem_singleton.1 member]
    exact fails
  · next passed =>
      have here : c.node ∈ c.ahead := List.mem_append_left _ (mem_preorder_self c.node)
      exact Bool.not_eq_true _ ▸ spares c.node here (Bool.not_eq_true _ ▸ passed) u member

/-- The pruned search finds what a search of all that is to come finds. -/
theorem findWhere?_eq (c : Cursor) (spares : Spares enter p c.ahead) :
    c.findWhere? enter p = c.ahead.find? p := by
  induction c using findWhere?.induct enter p with
  | case1 c holds =>
      rw [findWhere?_step, if_pos holds, ahead_eq, List.find?_cons_of_pos holds]
  | case2 c fails next move ih =>
      have later : c.ahead = c.passed enter ++ next.ahead := by
        rw [c.ahead_eq_passed enter, move]
        rfl
      have onward := ih fun t member => spares t (later ▸ List.mem_append_right _ member)
      rw [findWhere?_step, if_neg fails, move, Option.bind_some, onward, later, List.find?_append,
        find?_passed spares fails, Option.none_or]
  | case3 c fails last =>
      rw [findWhere?_step, if_neg fails, last, Option.bind_none, c.ahead_eq_passed enter, last,
        Option.map_none, Option.getD_none, List.append_nil, find?_passed spares fails]

end Cursor

/-- Just those nodes are marked that a faulty node is in. -/
def Marked (root : SyntaxTree) : Prop :=
  ∀ t ∈ root.preorder, t.info.hasError = true ↔ ∃ u ∈ t.preorder, u.isFault = true

instance (root : SyntaxTree) : Decidable root.Marked :=
  inferInstanceAs (Decidable (∀ t ∈ root.preorder,
    t.info.hasError = true ↔ ∃ u ∈ t.preorder, u.isFault = true))

variable {t : SyntaxTree}

theorem Marked.spares (marked : t.Marked) : Cursor.Spares (·.info.hasError) isFault t.preorder := by
  intro u member unmarked v inside
  exact Bool.eq_false_iff.2 fun faulty =>
    Bool.eq_false_iff.1 unmarked ((marked u member).2 ⟨v, inside, faulty⟩)

theorem Marked.firstFault_eq (marked : t.Marked) : t.firstFault = t.preorder.find? isFault := by
  have spares := marked.spares
  rw [← Cursor.ahead_on] at spares
  rw [firstFault, Cursor.findWhere?_eq _ spares, Cursor.ahead_on]

/-- The search comes back without a node just where there is no mark to begin with. -/
theorem Marked.firstFault_eq_none_iff (marked : t.Marked) :
    t.firstFault = none ↔ t.info.hasError = false := by
  rw [marked.firstFault_eq, List.find?_eq_none, ← Bool.not_eq_true,
    marked t (mem_preorder_self t)]
  simp

end SyntaxTree

namespace SyntaxFault

open SyntaxTree

theorem head?_missing (kind : String) (row column : Nat) :
    (missing kind row column).message.toList.head? = some 'm' := by
  change ("missing \x60" ++ kind ++ "\x60" ++ place row column).toList.head? = some 'm'
  rw [String.append_assoc, String.append_assoc, String.toList_append]
  rfl

theorem head?_unexpected (row column : Nat) :
    (unexpected row column).message.toList.head? = some 'u' := by
  change ("unexpected token" ++ place row column).toList.head? = some 'u'
  rw [String.toList_append]
  rfl

/-- A fault that has a place is worded otherwise than one that has none. -/
theorem message_ofNode_ne (source : String) (t : SyntaxTree) :
    (ofNode source t).message ≠ somewhere.message := by
  intro same
  have first : (ofNode source t).message.toList.head? = some 's' := by
    rw [same]
    rfl
  by_cases absent : t.info.isMissing = true
  · simp only [ofNode, if_pos absent, head?_missing] at first
    exact absurd first (by decide)
  · simp only [ofNode, if_neg absent, head?_unexpected] at first
    exact absurd first (by decide)

theorem ofTree?_eq_some (source : String) {t u : SyntaxTree} (flagged : t.info.hasError = true)
    (found : t.firstFault = some u) : ofTree? source t = some (ofNode source u) := by
  rw [ofTree?, if_pos flagged, found]

end SyntaxFault

theorem parseSource_eq_of_fault {source : String} {language : Language} {t : SyntaxTree}
    {fault : SyntaxFault} (parsed : language.dialect.parse source = some t)
    (faulty : SyntaxFault.ofTree? source t = some fault) :
    parseSource source language = .error (.parse fault.message) := by
  unfold parseSource
  rw [parsed]
  simp only [faulty]

open SyntaxTree

/-- In a tree whose marks are right the search finds the first faulty node of all that are in it,
and none just if there is none. If its root is marked, then there is one, and what is reported of
the text is the kind of this node and its place, never that there are errors somewhere. -/
theorem firstFault_exact {t : SyntaxTree} (marked : t.Marked) :
    t.firstFault = t.preorder.find? isFault ∧
    (∀ u, t.firstFault = some u ↔
      u.isFault = true ∧ ∃ before after, t.preorder = before ++ u :: after ∧
        ∀ v ∈ before, v.isFault = false) ∧
    (t.firstFault = none ↔ ∀ u ∈ t.preorder, u.isFault = false) ∧
    (t.info.hasError = true → ∃ u ∈ t.preorder, t.firstFault = some u ∧ ∀ source,
      SyntaxFault.ofTree? source t = some (.ofNode source u) ∧
      SyntaxFault.ofTree? source t ≠ some .somewhere ∧
      ∀ language : Language, language.dialect.parse source = some t →
        parseSource source language = .error (.parse (SyntaxFault.ofNode source u).message) ∧
        parseSource source language ≠ .error (.parse SyntaxFault.somewhere.message)) := by
  have found := marked.firstFault_eq
  refine ⟨found, fun u => ?_, ?_, fun flagged => ?_⟩
  · rw [found, List.find?_eq_some_iff_append]
    simp
  · rw [found, List.find?_eq_none]
    simp
  · obtain ⟨u, first⟩ := Option.ne_none_iff_exists'.1 fun none => by
      rw [marked.firstFault_eq_none_iff.1 none] at flagged
      cases flagged
    have member := List.mem_of_find?_eq_some (found.symm.trans first)
    refine ⟨u, member, first, fun source => ?_⟩
    have reported := SyntaxFault.ofTree?_eq_some source flagged first
    have placed := SyntaxFault.message_ofNode_ne source u
    refine ⟨reported, fun vague => ?_, fun language parsed => ?_⟩
    · rw [reported] at vague
      exact placed (congrArg SyntaxFault.message (Option.some.inj vague))
    · have refused := parseSource_eq_of_fault parsed reported
      refine ⟨refused, fun vague => ?_⟩
      rw [refused] at vague
      exact placed (Failure.parse.inj (Except.error.inj vague))

def flagged (kind : String) (start stop : Nat) (isMissing hasError : Bool)
    (children : List SyntaxTree) : SyntaxTree :=
  .node { kind, named := true, field := none, span := ⟨start, stop⟩, isError := false, isMissing,
          hasError } children

/-- The parenthesis that is missing in the second line of `a` and `f(;`. -/
def missingParenthesis : SyntaxTree := flagged ")" 5 5 true true []

def unclosedCall : SyntaxTree :=
  flagged "program" 0 6 false true [
    flagged "expression_statement" 0 2 false false [flagged "identifier" 0 1 false false []],
    flagged "expression_statement" 3 6 false true [
      flagged "call_expression" 3 5 false true [
        flagged "identifier" 3 4 false false [],
        flagged "arguments" 4 5 false true [missingParenthesis]]]]

theorem firstFault_unclosedCall :
    unclosedCall.Marked ∧ unclosedCall.firstFault = some missingParenthesis ∧
    SyntaxFault.ofTree? "a;\nf(;" unclosedCall = some (.missing ")" 1 2) := by
  have marked : unclosedCall.Marked := by decide
  obtain ⟨whole, -, -, reports⟩ := firstFault_exact marked
  have first : unclosedCall.firstFault = some missingParenthesis := whole.trans rfl
  obtain ⟨u, -, found, report⟩ := reports rfl
  obtain rfl : missingParenthesis = u := Option.some.inj (first.symm.trans found)
  exact ⟨marked, first, (report "a;\nf(;").1.trans rfl⟩

end Flowgraph
