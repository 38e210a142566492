import Flowgraph.Analysis
import Flowgraph.Proofs.Syntax.Traversal

/-!
# The function that an offset selects

The search with a cursor is compared with what it is meant to find: the function that begins first,
or of those that cover the offset the one that ends first.
-/

namespace Flowgraph

namespace SyntaxTree

/-- The functions that an offset may select: all of them when it is zero, those that cover it
otherwise. -/
def Selectable (offset : Nat) (t : SyntaxTree) : Prop :=
  t.isFunction = true ∧ (offset = 0 ∨ t.covers offset = true)

variable {root t : SyntaxTree} {offset : Nat}

theorem locate_zero (root : SyntaxTree) : root.locate 0 = root.preorder.find? isFunction := by
  rw [locate, if_pos rfl, firstFunction_eq]

/-- When the tree does not cover the offset nothing in it does, so the test of the tree itself
changes nothing. -/
theorem locate_of_ne_zero (nested : root.Nested) (cursor : offset ≠ 0) :
    root.locate offset = root.postorder.find? fun t => t.isFunction && t.covers offset := by
  rw [locate, if_neg cursor, functionAt_eq]
  split
  next covers =>
    rw [Nested.postorderWhere_covers root nested covers, List.find?_filter]
    congr 1
    funext t
    rw [Bool.decide_and, Bool.decide_eq_true, Bool.decide_eq_true, Bool.and_comm]
  next outside =>
    have none := Nested.not_covers_of_mem root nested (Bool.eq_false_iff.2 outside)
    exact (List.find?_eq_none.2 fun u member => by simp [none u member]).symm

theorem locate_eq_none_iff (nested : root.Nested) :
    root.locate offset = none ↔ ¬∃ t ∈ root.preorder, t.Selectable offset := by
  by_cases cursor : offset = 0
  · subst cursor
    simp [locate_zero, Selectable]
  · simp [locate_of_ne_zero nested cursor, Selectable, cursor, mem_postorder_iff]

theorem selectable_of_locate (nested : root.Nested) (found : root.locate offset = some t) :
    t ∈ root.preorder ∧ t.Selectable offset := by
  by_cases cursor : offset = 0
  · subst cursor
    rw [locate_zero] at found
    exact ⟨List.mem_of_find?_eq_some found, List.find?_some found, .inl rfl⟩
  · rw [locate_of_ne_zero nested cursor] at found
    have fits := List.find?_some found
    obtain ⟨function, covers⟩ := Bool.and_eq_true_iff.1 fits
    exact ⟨(mem_postorder_iff root).1 (List.mem_of_find?_eq_some found), function, .inr covers⟩

theorem isSome_function? (function : t.isFunction = true) (source : String) :
    (t.function? source).isSome = true := by
  rw [function?, Option.isSome_map]
  exact (Bool.and_eq_true_iff.1 function).2

end SyntaxTree

open SyntaxTree

variable {root : SyntaxTree}

theorem locateFunction_eq_ok_iff {offset : Nat} {t : SyntaxTree} :
    locateFunction root offset = .ok t ↔ root.locate offset = some t := by
  cases found : root.locate offset <;> simp [locateFunction, found]

theorem locateFunction_eq_error_iff {offset : Nat} {failure : Failure} :
    locateFunction root offset = .error failure ↔
      failure = .noFunction ∧ root.locate offset = none := by
  cases found : root.locate offset <;> simp [locateFunction, found, eq_comm]

theorem analyze_eq_error_iff {a : Analyzer} {source : String} {offset : Nat} {language : Language}
    {failure : Failure} (nested : root.Nested) (parsed : parseSource source language = .ok root) :
    a.analyze source offset language = .error failure ↔ locateFunction root offset = .error failure := by
  have analyzed : a.analyze source offset language = analyzeTree a.rules source root offset := by
    unfold Analyzer.analyze
    rw [parsed]
  rw [analyzed]
  cases found : locateFunction root offset with
  | error other => simp [analyzeTree, found]
  | ok t =>
      have function := (selectable_of_locate nested (locateFunction_eq_ok_iff.1 found)).2.1
      obtain ⟨f, made⟩ := Option.isSome_iff_exists.1 (isSome_function? function source)
      simp [analyzeTree, found, made]

/-- The search finds what it is meant to find, and an analysis of a text that can be parsed fails
only when there is nothing to find. -/
theorem locateFunction_exact (nested : root.Nested) (offset : Nat) :
    (∀ t, locateFunction root 0 = .ok t ↔ root.preorder.find? isFunction = some t) ∧
    (offset ≠ 0 → ∀ t, locateFunction root offset = .ok t ↔
      root.postorder.find? (fun u => u.isFunction && u.covers offset) = some t) ∧
    (∀ t, locateFunction root offset = .ok t →
      t ∈ root.preorder ∧ t.named = true ∧ t.functionKind?.isSome = true ∧
      (∀ source, (t.function? source).isSome = true) ∧
      (offset ≠ 0 → (t.span.start ≤ offset ∧ offset ≤ t.span.stop) ∧
        ∀ u ∈ preorderAll t.children, u.isFunction = true →
          ¬(u.span.start ≤ offset ∧ offset ≤ u.span.stop))) ∧
    (∀ failure, locateFunction root offset = .error failure ↔
      failure = .noFunction ∧ ¬∃ t ∈ root.preorder, t.Selectable offset) ∧
    ∀ (a : Analyzer) (source : String) (language : Language),
      parseSource source language = .ok root → ∀ failure,
        a.analyze source offset language = .error failure ↔
          failure = .noFunction ∧ ¬∃ t ∈ root.preorder, t.Selectable offset := by
  have fails : ∀ failure, locateFunction root offset = .error failure ↔
      failure = .noFunction ∧ ¬∃ t ∈ root.preorder, t.Selectable offset := fun failure => by
    rw [locateFunction_eq_error_iff, locate_eq_none_iff nested]
  refine ⟨fun t => ?_, fun cursor t => ?_, fun t found => ?_, fails,
    fun a source language parsed failure => (analyze_eq_error_iff nested parsed).trans (fails failure)⟩
  · rw [locateFunction_eq_ok_iff, locate_zero]
  · rw [locateFunction_eq_ok_iff, locate_of_ne_zero nested cursor]
  · rw [locateFunction_eq_ok_iff] at found
    obtain ⟨member, function, covers⟩ := selectable_of_locate nested found
    obtain ⟨named, kind⟩ := Bool.and_eq_true_iff.1 function
    refine ⟨member, named, kind, isSome_function? function, fun cursor => ⟨?_, ?_⟩⟩
    · exact covers_iff.1 (covers.resolve_left cursor)
    · rw [locate_of_ne_zero nested cursor] at found
      intro u below isFunction within
      have fails := not_below_of_find?_postorder root found u below
      rw [isFunction, covers_iff.2 within] at fails
      cases fails

def placed (kind : String) (named : Bool) (start stop : Nat) (children : List SyntaxTree) :
    SyntaxTree :=
  .node { kind, named, field := none, span := ⟨start, stop⟩, isError := false, isMissing := false,
          hasError := false } children

def SyntaxTree.asField (t : SyntaxTree) (field : String) : SyntaxTree :=
  .node { t.info with field := some field } t.children

def innerFunction : SyntaxTree :=
  placed "function_expression" true 1 15 [
    placed "function" false 1 9 [], placed "formal_parameters" true 10 12 []]

/-- Two functions that touch, the first of which holds another that ends where it does. -/
def touching : SyntaxTree :=
  placed "program" true 0 30 [
    placed "arrow_function" true 0 15 [innerFunction], placed "arrow_function" true 15 30 []]

/-- Where two functions touch, the innermost that ends there is selected. -/
theorem locateFunction_touching :
    touching.Nested ∧ locateFunction touching 15 = .ok innerFunction :=
  have nested : touching.Nested := by decide
  ⟨nested, ((locateFunction_exact nested 15).2.1 (by decide) innerFunction).2 rfl⟩

end Flowgraph
