import Flowgraph.Proofs.Graph.Labels
import Flowgraph.Proofs.Text.Numeral
import Mathlib.Data.List.Basic

/-!
# How much of a statement its label shows

A label shows whole grapheme clusters of the first line, as many as the width allows. What is shown
falls into the same clusters as it does in the line.
-/

namespace Flowgraph

namespace LabelRules

open Grapheme

variable {text line : List Char}

/-- The line is the text up to its first line feed, without the blanks at its end. -/
def IsFirstLine (text line : List Char) : Prop :=
  ∃ blanks rest, text = line ++ (blanks ++ rest) ∧ '\n' ∉ line ++ blanks ∧
    (∀ c ∈ rest.head?, c = '\n') ∧ (∀ c ∈ blanks, Text.isBlank c = true) ∧
    ∀ c ∈ line.getLast?, Text.isBlank c = false

/-- Every text has one first line. -/
theorem isFirstLine_iff : IsFirstLine text line ↔ firstLine text = line := by
  constructor
  · rintro ⟨blanks, rest, rfl, sameLine, feed, blank, solid⟩
    have inside : ∀ c ∈ line ++ blanks, decide (c ≠ '\n') = true := fun c member =>
      decide_eq_true fun same => sameLine (same ▸ member)
    have boundary : ∀ c ∈ rest.head?, decide (c ≠ '\n') = false := fun c member => by
      simp [feed c member]
    rw [← List.append_assoc, firstLine, (Text.takeWhile_append_dropWhile inside boundary).1,
      Text.trimEnd_append blank solid]
  · rintro rfl
    obtain ⟨blanks, parts, blank, solid⟩ := Text.exists_eq_trimEnd (text.takeWhile (· ≠ '\n'))
    refine ⟨blanks, text.dropWhile (· ≠ '\n'), ?_, ?_, ?_, blank, solid⟩
    · rw [← List.append_assoc, firstLine, ← parts, List.takeWhile_append_dropWhile]
    · rw [firstLine, ← parts]
      intro member
      simpa using List.mem_takeWhile_imp member
    · intro c first
      have stopped := List.head?_dropWhile_not (fun c => decide (c ≠ '\n')) text
      rw [Option.mem_def.1 first] at stopped
      simpa using stopped

variable (rules : LabelRules) (text : String)

theorem toList_snippet :
    (rules.snippet text).toList = ((clusters (firstLine text.toList)).take rules.width).flatten := by
  rw [snippet, String.toList_ofList, snippetChars]

/-- A label cannot do with fewer clusters than the line has. -/
theorem flatten_take_eq_iff {line : List Char} {n : Nat} :
    ((clusters line).take n).flatten = line ↔ (clusters line).length ≤ n := by
  constructor
  · intro whole
    have again := clusters_take line n
    rw [whole] at again
    have length := congrArg List.length again
    rw [List.length_take] at length
    omega
  · intro wide
    rw [List.take_of_length_le wide, flatten_clusters]

/-- A text has one first line, and the line falls into extended grapheme clusters in one way. A
label is a beginning of that line; its own clusters are the first ones of the line, as many as the
width allows. It is the line if there are no more, it has no line feed, and a wider label begins
with it. -/
theorem snippet_exact :
    ∃ line pieces, (∀ other, IsFirstLine text.toList other ↔ other = line) ∧
      (∀ others, IsClusters line others ↔ others = pieces) ∧
      (rules.snippet text).toList <+: line ∧
      (∀ others, IsClusters (rules.snippet text).toList others ↔
        others = pieces.take (min rules.width pieces.length)) ∧
      ((rules.snippet text).toList = line ↔ pieces.length ≤ rules.width) ∧
      '\n' ∉ (rules.snippet text).toList ∧
      ∀ wider : LabelRules, rules.width ≤ wider.width →
        (rules.snippet text).toList <+: (wider.snippet text).toList := by
  refine ⟨firstLine text.toList, clusters (firstLine text.toList), fun other => ?_, fun others => ?_,
    ?_, fun others => ?_, ?_, rules.newline_notMem_snippet text, fun wider wide => ?_⟩
  · rw [isFirstLine_iff, eq_comm]
  · rw [isClusters_iff, eq_comm]
  · have parts := flatten_clusters (firstLine text.toList)
    rw [← List.take_append_drop rules.width (clusters (firstLine text.toList)),
      List.flatten_append] at parts
    rw [toList_snippet]
    exact ⟨_, parts⟩
  · rw [isClusters_iff, toList_snippet, clusters_take, List.take_eq_take_min, eq_comm]
  · rw [toList_snippet, flatten_take_eq_iff]
  · rw [toList_snippet, toList_snippet, ← List.take_append_drop rules.width
      ((clusters (firstLine text.toList)).take wider.width), List.take_take, Nat.min_eq_left wide,
      List.flatten_append]
    exact List.prefix_append _ _

end LabelRules

end Flowgraph
