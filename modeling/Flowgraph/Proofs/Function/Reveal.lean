import Flowgraph.CommandLine.Run
import Flowgraph.Proofs.Drawing.Execution
import Flowgraph.Proofs.Function.Origin
import Flowgraph.Proofs.Graph.Labels
import Flowgraph.Proofs.Graph.NodeId
import Flowgraph.Proofs.Text.Slice

/-!
# From a click back to the source

The id of a node that stands for a statement carries the span of the statement, which is the span of
a node of the tree. So in the file from which the graph was drawn the range of the id is there, and
what is shown for it is the text of the statement.
-/

namespace Flowgraph

namespace CommandLine

/-- The name of the file with the lines and columns of both ends of the range, then the text. -/
def shownRange (file source : String) (span : Span) (text : List Char) : Output :=
  let first := Location.ofOffset source span.start
  let last := Location.ofOffset source span.stop
  { stdout := file ++ ":" ++ (Numeral.render first.line ++ ":" ++ Numeral.render first.column) ++
      "-" ++ (Numeral.render last.line ++ ":" ++ Numeral.render last.column) ++ "\n" ++
      String.ofList text ++ "\n"
    stderr := "" }

variable {files : Files} {file source id : String} {span : Span}

/-- How a click on a file that can be read ends. -/
theorem reveal_eq (held : files file = .text source) (id : String) :
    reveal files file id =
      match NodeId.revealedSpan? id with
      | none => .error (.noRange id)
      | some span =>
          if span.stop < span.start ∨ Text.byteSize source.toList < span.stop then
            .error (.outside span file (Text.byteSize source.toList))
          else
            match Text.slice? source.toList span with
            | none => .error (.notBoundary span)
            | some text => .ok (shownRange file source span text) := by
  have read : readSource files file = .ok source := by rw [readSource, held]
  rw [reveal, read]
  cases found : NodeId.revealedSpan? id with
  | none => rfl
  | some span =>
      by_cases outside : span.stop < span.start ∨ Text.byteSize source.toList < span.stop
      · simp only [bind, Except.bind, outside, if_true]
        rfl
      · simp only [bind, Except.bind, outside, if_false]
        cases Text.slice? source.toList span <;> rfl

theorem reveal_eq_shownRange {text : List Char} (held : files file = .text source)
    (found : NodeId.revealedSpan? id = some span)
    (cut : Text.slice? source.toList span = some text) :
    reveal files file id = .ok (shownRange file source span text) := by
  obtain ⟨ordered, -, stop⟩ := Span.fits_iff.2 ⟨text, cut⟩
  have bound := stop.le_byteSize
  simp only [reveal_eq held, found, cut]
  exact if_neg (by omega)

/-- Nothing else is shown. -/
theorem exists_reveal_eq_ok_iff (held : files file = .text source) :
    (∃ out, reveal files file id = .ok out) ↔
      ∃ span, NodeId.revealedSpan? id = some span ∧ span.Fits source.toList := by
  constructor
  · rintro ⟨out, shown⟩
    rw [reveal_eq held] at shown
    split at shown
    · cases shown
    · next span found =>
        split at shown
        · cases shown
        · split at shown
          · cases shown
          · next text cut => exact ⟨span, found, Span.fits_iff.2 ⟨text, cut⟩⟩
  · rintro ⟨span, found, fits⟩
    obtain ⟨text, cut⟩ := Span.fits_iff.1 fits
    exact ⟨_, reveal_eq_shownRange held found cut⟩

end CommandLine

/-! ## The nodes of a graph -/

namespace Statement

/-- The text of a statement that is kept whole is what its range cuts out. -/
theorem ComesFrom.eq_of_slice? {s : Statement} {source given : String} {u : SyntaxTree} {span : Span}
    {text : List Char} (origin : s.ComesFrom source u) (whole : s = .plain span given)
    (cut : Text.slice? source.toList s.span = some text) : given = String.ofList text := by
  rw [origin.span_eq] at cut
  rw [origin.text_eq _ _ whole, SyntaxTree.text_eq_of_slice? cut]

/-- Only what is kept whole is drawn as a plain statement or as input or output. -/
theorem eq_plain_of_nodeKind {s : Statement} {rules : LabelRules}
    (noBlock : ∀ span body, s ≠ .block span body)
    (kind : s.nodeKind rules = .statement ∨ s.nodeKind rules = .io) :
    ∃ text, s = .plain s.span text ∧ s.nodeLabel rules = rules.snippet text :=
  match s, noBlock, kind with
  | .plain _ text, _, _ => ⟨text, rfl, rfl⟩
  | .block span body, noBlock, _ => absurd rfl (noBlock span body)
  | .branch _ _ _ _, _, kind | .loop _ _ _, _, kind | .return _, _, kind => by
      simp [nodeKind] at kind

end Statement

namespace CommandLine

/-- A click on a node that stands for a statement shows the text of the statement, and the line and
column to which the characters before it lead, and those before its end. A click on any other node
of a graph shows nothing, and of all ids those show something that tell a range of the file. -/
theorem reveal_graph_nodes {t : SyntaxTree} {source : String} {f : Function} {files : Files}
    {file : String} (made : t.function? source = some f)
    (ranges : ∀ u ∈ t.preorder, u.span.Fits source.toList)
    (size : Text.byteSize source.toList ≤ Numeral.max64) (held : files file = .text source)
    (rules : LabelRules) :
    (∀ (k : Nat) (v : Node), (f.graph rules).sources[k]? = some v →
      ∃ s before text after, f.preorder[k]? = some s ∧
        NodeId.revealedSpan? v.id.render = some s.span ∧
        source.toList = before ++ (text ++ after) ∧
        Text.byteSize before = s.span.start ∧ Text.byteSize (before ++ text) = s.span.stop ∧
        Location.ofOffset source s.span.start = before.foldl Location.after ⟨1, 1⟩ ∧
        Location.ofOffset source s.span.stop = (before ++ text).foldl Location.after ⟨1, 1⟩ ∧
        reveal files file v.id.render = .ok (shownRange file source s.span text) ∧
        (v.kind = .statement ∨ v.kind = .io →
          s = .plain s.span (String.ofList text) ∧ v.label = rules.snippet (String.ofList text))) ∧
    (∀ v ∈ (f.graph rules).nodes, v.id.isClickTarget = false →
      NodeId.revealedSpan? v.id.render = none ∧
        reveal files file v.id.render = .error (.noRange v.id.render)) ∧
    (∀ v ∈ (f.graph rules).nodes,
      v.id.isClickTarget = false ↔ v.kind ∈ [.entry, .merge, .exit, .terminal]) ∧
    ∀ id, (∃ out, reveal files file id = .ok out) ↔
      ∃ span, NodeId.revealedSpan? id = some span ∧
        (span.start ≤ span.stop ∧ span.stop ≤ Text.byteSize source.toList) ∧
        Text.IsBoundary source.toList span.start ∧ Text.IsBoundary source.toList span.stop := by
  refine ⟨?source, ?other, fun v member => f.isClickTarget_eq_false_iff rules member, ?any⟩
  case source =>
    intro k v found
    obtain ⟨s, atIndex, span, kind, label⟩ := f.statement_of_source rules found
    have member := List.mem_of_getElem? atIndex
    obtain ⟨u, below, origin⟩ := SyntaxTree.comesFrom_of_function? made member
    have fits : s.span.Fits source.toList := origin.span_eq ▸ ranges u below
    obtain ⟨text, cut⟩ := Span.fits_iff.1 fits
    obtain ⟨before, after, parts, start, stop⟩ := Text.slice?_eq_some_iff.1 cut
    obtain ⟨counter, same⟩ := NodeId.span?_eq_some_iff.1 span
    have bound := fits.stop.le_byteSize
    have ordered := fits.ordered
    have revealed : NodeId.revealedSpan? v.id.render = some s.span := by
      rw [same]
      exact NodeId.revealedSpan?_source (by omega) (by omega)
    have upTo : source.toList = (before ++ text) ++ after := by rw [parts, List.append_assoc]
    refine ⟨s, before, text, after, atIndex, revealed, parts, start, stop,
      Location.ofOffset_eq parts start, Location.ofOffset_eq upTo stop,
      reveal_eq_shownRange held revealed cut, fun plain => ?_⟩
    rw [kind] at plain
    obtain ⟨given, whole, snippet⟩ :=
      Statement.eq_plain_of_nodeKind (Statement.ne_block_of_mem_preorderAll _ member) plain
    rw [label, snippet, ← origin.eq_of_slice? whole cut]
    exact ⟨whole, rfl⟩
  case other =>
    intro v _ other
    have noRange := NodeId.revealedSpan?_other other
    refine ⟨noRange, ?_⟩
    rw [reveal_eq held, noRange]
  case any =>
    intro id
    simp only [exists_reveal_eq_ok_iff held, Span.fits_iff_inside]

/-- The tree of `()=>é`, of which the last character takes two bytes. -/
def shortArrow : SyntaxTree :=
  let info (kind : String) (field : Option String) (start stop : Nat) : NodeInfo :=
    { kind, named := true, field, span := ⟨start, stop⟩, isError := false, isMissing := false,
      hasError := false }
  .node (info "arrow_function" none 0 6) [
    .node (info "formal_parameters" (some "parameters") 0 2) [],
    .node (info "identifier" (some "body") 4 6) []]

def shortFiles : Files := fun _ => .text "()=>é"

theorem reveal_graph_nodes_short :
    (shortArrow.function? "()=>é").isSome = true ∧
    (∀ u ∈ shortArrow.preorder, u.span.Fits "()=>é".toList) ∧
    Text.byteSize "()=>é".toList ≤ Numeral.max64 ∧
    reveal shortFiles "f.js" (NodeId.source 1 ⟨4, 6⟩).render =
      .ok (shownRange "f.js" "()=>é" ⟨4, 6⟩ ['é']) := by
  have ranges : ∀ u ∈ shortArrow.preorder, u.span.Fits "()=>é".toList := by decide
  have size : Text.byteSize "()=>é".toList ≤ Numeral.max64 := by decide
  have held : shortFiles "f.js" = .text "()=>é" := rfl
  have made : shortArrow.function? "()=>é" = some
      { name := "Arrow Fn", kind := .arrow, span := ⟨0, 6⟩,
        body := some (.expression (.plain ⟨4, 6⟩ "é")) } := by rfl
  obtain ⟨s, before, text, after, atIndex, -, -, -, -, -, -, shown, plain⟩ :=
    (reveal_graph_nodes made ranges size held ⟨9, []⟩).1 0
      ⟨.source 1 ⟨4, 6⟩, .statement, LabelRules.snippet ⟨9, []⟩ "é"⟩ rfl
  obtain rfl : Statement.plain ⟨4, 6⟩ "é" = s := Option.some.inj atIndex
  have whole : "é" = String.ofList text := (Statement.plain.inj (plain (.inl rfl)).1).2
  have letters : text = "é".toList := by rw [whole, String.toList_ofList]
  subst letters
  exact ⟨by rw [made]; rfl, ranges, size, shown⟩

end CommandLine

end Flowgraph
