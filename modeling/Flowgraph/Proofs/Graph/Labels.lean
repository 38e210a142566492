import Flowgraph.Proofs.Drawing.Sites
import Flowgraph.Proofs.Text.Grapheme

/-!
# What stands in a label

The grapheme clusters of a text make up the text, so the beginning of a line has no line feed. Of
the labels of a graph only the name of the function may have one.
-/

namespace Flowgraph

namespace Text

theorem mem_of_mem_trimEnd {text : List Char} {c : Char} (member : c ∈ trimEnd text) : c ∈ text := by
  rw [trimEnd, List.mem_reverse] at member
  exact List.mem_reverse.1 ((List.dropWhile_suffix _).subset member)

end Text

namespace LabelRules

variable (rules : LabelRules)

theorem newline_notMem_firstLine (text : List Char) : '\n' ∉ firstLine text := by
  intro member
  have other := List.mem_takeWhile_imp (Text.mem_of_mem_trimEnd member)
  simp at other

theorem newline_notMem_snippet (text : String) : '\n' ∉ (rules.snippet text).toList := by
  intro member
  rw [snippet, String.toList_ofList, snippetChars] at member
  obtain ⟨cluster, taken, inside⟩ := List.mem_flatten.1 member
  refine newline_notMem_firstLine text.toList ?_
  rw [← Grapheme.flatten_clusters (firstLine text.toList)]
  exact List.mem_flatten.2 ⟨cluster, List.mem_of_mem_take taken, inside⟩

end LabelRules

variable (f : Function) (rules : LabelRules)

theorem Statement.newline_notMem_nodeLabel (s : Statement) : '\n' ∉ (s.nodeLabel rules).toList := by
  match s with
  | .branch _ test _ _ =>
      simp [nodeLabel, rules.newline_notMem_snippet test]
  | .plain _ text => exact rules.newline_notMem_snippet text
  | .block _ _ | .loop _ _ _ | .return _ => simp [nodeLabel]

theorem Site.newline_notMem_label (counter : Nat) (site : Site) :
    '\n' ∉ (site.node rules counter).label.toList := by
  cases site with
  | statement s => exact s.newline_notMem_nodeLabel rules
  | merge => exact List.not_mem_nil
  | exit => exact List.not_mem_nil

/-- Besides the name of the function no label of a graph can be of more than one line. -/
theorem Function.newline_notMem_label (unbroken : '\n' ∉ f.name.toList) :
    ∀ v ∈ (f.graph rules).nodes, '\n' ∉ v.label.toList := by
  intro v member
  rcases f.node_cases rules member with rfl | rfl | ⟨site, counter, rfl⟩
  · exact unbroken
  · decide
  · exact site.newline_notMem_label rules counter

end Flowgraph
