import Flowgraph.Proofs.Graph.NodeId
import Flowgraph.Settings.Basic
import Mathlib.Data.List.Basic

/-!
# Reading drawings back

A drawing in the dot language is read line by line. A quoted text ends at the first quote that no
backslash stands before, and what stands between the quotes is the text that was written, but for
its line breaks. So a drawing tells the nodes and edges of its graph in their order, whatever the
labels are, and which font it names.
-/

namespace Flowgraph

namespace Dot

/-! ## Quoted texts -/

/-- Reads up to the first quote that no backslash stands before. A backslash and the character
behind it stand for that character. -/
def readInside? : List Char → Option (List Char × List Char)
  | [] => none
  | '"' :: rest => some ([], rest)
  | ['\\'] => none
  | '\\' :: c :: rest => (readInside? rest).map fun (text, after) => (c :: text, after)
  | c :: rest => (readInside? rest).map fun (text, after) => (c :: text, after)

def readQuoted? : List Char → Option (String × List Char)
  | '"' :: rest => (readInside? rest).map fun (text, after) => (String.ofList text, after)
  | _ => none

def unbrokenChar (c : Char) : Char := if c = '\n' ∨ c = '\r' then ' ' else c

/-- The text in one line, with a blank for each line break. -/
def unbroken (text : String) : String := String.ofList (text.toList.map unbrokenChar)

theorem readInside?_escapeChar (c : Char) (rest : List Char) :
    readInside? (escapeChar c ++ rest) =
      (readInside? rest).map fun (text, after) => (unbrokenChar c :: text, after) := by
  by_cases backslash : c = '\\'
  · subst backslash
    rfl
  by_cases mark : c = '"'
  · subst mark
    rfl
  by_cases lineBreak : c = '\n' ∨ c = '\r' <;>
    simp [escapeChar, unbrokenChar, backslash, mark, lineBreak, readInside?]

theorem readInside?_escape (text rest : List Char) :
    readInside? (text.flatMap escapeChar ++ '"' :: rest) = some (text.map unbrokenChar, rest) := by
  induction text with
  | nil => rfl
  | cons c text ih =>
      rw [List.flatMap_cons, List.append_assoc, readInside?_escapeChar, ih]
      rfl

/-- A quoted text ends at the quote that was written behind it, whatever follows. -/
theorem readQuoted?_quote_escape (text : String) (rest : List Char) :
    readQuoted? ((quote (escape text)).toList ++ rest) = some (unbroken text, rest) := by
  have opening : (quote (escape text)).toList ++ rest =
      '"' :: (text.toList.flatMap escapeChar ++ '"' :: rest) := by
    simp [quote, escape]
  rw [opening, readQuoted?, readInside?_escape]
  rfl

theorem newline_notMem_quote_escape (text : String) : '\n' ∉ (quote (escape text)).toList := by
  have inside (c : Char) : '\n' ∉ escapeChar c := by
    unfold escapeChar
    split_ifs <;> simp_all [eq_comm]
  simp [quote, escape, inside]

/-- Ids are written between quotes as they are: nothing in them is escaped. -/
theorem escapeChar_of_mem_chars {id : NodeId} {c : Char} (member : c ∈ id.chars) :
    escapeChar c = [c] ∧ unbrokenChar c = c := by
  have noBackslash : c ≠ '\\' := by
    rintro rfl
    exact NodeId.notMem_chars (by decide) (by decide) (by decide) (by decide) id member
  have noQuote : c ≠ '"' := by
    rintro rfl
    exact NodeId.notMem_chars (by decide) (by decide) (by decide) (by decide) id member
  have noBreak : ¬ (c = '\n' ∨ c = '\r') := by
    rintro (rfl | rfl) <;>
      exact NodeId.notMem_chars (by decide) (by decide) (by decide) (by decide) id member
  simp [escapeChar, unbrokenChar, noBackslash, noQuote, noBreak]

theorem escape_render (id : NodeId) : escape id.render = id.render := by
  have same : id.chars.flatMap escapeChar = id.chars.flatMap fun c => [c] :=
    List.flatMap_congr fun c member => (escapeChar_of_mem_chars member).1
  simp [escape, NodeId.render, same]

theorem unbroken_render (id : NodeId) : unbroken id.render = id.render := by
  have same : id.chars.map unbrokenChar = id.chars.map fun c => c :=
    List.map_congr_left fun c member => (escapeChar_of_mem_chars member).2
  simp [unbroken, NodeId.render, same]

def readId? (text : List Char) : Option (NodeId × List Char) := do
  let (name, rest) ← readQuoted? text
  let id ← NodeId.readAny? name.toList
  return (id, rest)

@[simp] theorem readId?_quote_render (id : NodeId) (rest : List Char) :
    readId? ((quote id.render).toList ++ rest) = some (id, rest) := by
  have quoted := readQuoted?_quote_escape id.render rest
  rw [escape_render, unbroken_render] at quoted
  have name : id.render.toList = id.chars := String.toList_ofList
  simp [readId?, quoted, name]

theorem newline_notMem_quote_render (id : NodeId) : '\n' ∉ (quote id.render).toList :=
  escape_render id ▸ newline_notMem_quote_escape id.render

/-! ## Lines -/

def kindTail (kind : NodeKind) : String :=
  ", shape=" ++ kind.shape ++ ", style=" ++ quote kind.style ++ ", fillcolor=" ++
    quote kind.fillColor ++ ", color=" ++ quote kind.borderColor ++
    (if kind.isPoint then ", width=0.15" else "") ++
    (match kind.fontColor? with
      | some color => ", fontcolor=" ++ quote color
      | none => "") ++ "];"

def edgeTail (e : Edge) : String :=
  (match edgeAttributes e with
    | [] => ""
    | attributes => " [" ++ ", ".intercalate attributes ++ "]") ++ ";"

theorem toList_nodeLine (n : Node) :
    (nodeLine n).toList =
      "  ".toList ++ ((quote n.id.render).toList ++
        (" [label=".toList ++ ((quote (escape n.label)).toList ++ (kindTail n.kind).toList))) := by
  unfold nodeLine kindTail
  cases n.kind.fontColor? <;> simp only [String.toList_append, List.append_assoc]

theorem toList_edgeLine (e : Edge) :
    (edgeLine e).toList =
      "  ".toList ++ ((quote e.source.render).toList ++
        (" -> ".toList ++ ((quote e.target.render).toList ++ (edgeTail e).toList))) := by
  unfold edgeLine edgeTail
  cases edgeAttributes e <;> simp only [String.toList_append, List.append_assoc]

def readKind? (text : String) : Option NodeKind := NodeKind.all.find? fun kind => kindTail kind = text

/-- No two kinds are drawn alike. -/
@[simp] theorem readKind?_kindTail (kind : NodeKind) : readKind? (kindTail kind) = some kind := by
  cases kind <;> rfl

def edgesBetween (source target : NodeId) : List Edge :=
  [none, some .yes, some .no, some .enter, some .leave].flatMap fun label =>
    [{ source, target, kind := .fallthrough, label }, { source, target, kind := .loopBack, label }]

def readEnds? (source target : NodeId) (text : String) : Option Edge :=
  (edgesBetween source target).find? fun e => edgeTail e = text

@[simp] theorem readEnds?_edgeTail (e : Edge) : readEnds? e.source e.target (edgeTail e) = some e := by
  obtain ⟨source, target, kind, label⟩ := e
  cases kind <;> rcases label with _ | _ | _ | _ | _ <;> rfl

def readNode? (line : List Char) : Option Node := do
  let rest ← line.dropPrefix? "  ".toList
  let (id, rest) ← readId? rest
  let rest ← rest.dropPrefix? " [label=".toList
  let (label, rest) ← readQuoted? rest
  let kind ← readKind? (String.ofList rest)
  return { id, kind, label }

def readEdge? (line : List Char) : Option Edge := do
  let rest ← line.dropPrefix? "  ".toList
  let (source, rest) ← readId? rest
  let rest ← rest.dropPrefix? " -> ".toList
  let (target, rest) ← readId? rest
  readEnds? source target (String.ofList rest)

/-- Reads the font that a line of defaults names, for nodes or for edges. -/
def readFont? (line : List Char) : Option String := do
  let rest ← line.dropPrefix? "  ".toList
  let rest ← rest.dropPrefix? "node [fontname=".toList <|> rest.dropPrefix? "edge [fontname=".toList
  let (font, _) ← readQuoted? rest
  return font

def shown (n : Node) : Node := { n with label := unbroken n.label }

theorem readNode?_nodeLine (n : Node) : readNode? (nodeLine n).toList = some (shown n) := by
  rw [toList_nodeLine]
  simp only [readNode?, List.dropPrefix?_append_of_beq, BEq.rfl, readId?_quote_render,
    readQuoted?_quote_escape, Option.bind_eq_bind, Option.bind_some, String.ofList_toList,
    readKind?_kindTail]
  rfl

theorem readEdge?_edgeLine (e : Edge) : readEdge? (edgeLine e).toList = some e := by
  rw [toList_edgeLine]
  simp only [readEdge?, List.dropPrefix?_append_of_beq, BEq.rfl, readId?_quote_render,
    Option.bind_eq_bind, Option.bind_some, String.ofList_toList, readEnds?_edgeTail]

/-- A line that does not begin with a quoted id is that of no node and no edge. -/
theorem read?_eq_none {line : List Char} (noId : (line.dropPrefix? "  ".toList).bind readId? = none) :
    readNode? line = none ∧ readEdge? line = none := by
  constructor
  · simp only [readNode?, Option.bind_eq_bind, ← Option.bind_assoc, noId, Option.bind_none]
  · simp only [readEdge?, Option.bind_eq_bind, ← Option.bind_assoc, noId, Option.bind_none]

/-- The line of an edge has no label behind its first id. -/
theorem readNode?_edgeLine (e : Edge) : readNode? (edgeLine e).toList = none := by
  have other (rest : List Char) : (" -> ".toList ++ rest).dropPrefix? " [label=".toList = none :=
    rfl
  rw [toList_edgeLine]
  simp only [readNode?, List.dropPrefix?_append_of_beq, BEq.rfl, readId?_quote_render,
    Option.bind_eq_bind, Option.bind_some, other, Option.bind_none]

/-- The line of a node has no arrow behind its id. -/
theorem readEdge?_nodeLine (n : Node) : readEdge? (nodeLine n).toList = none := by
  have other (rest : List Char) : (" [label=".toList ++ rest).dropPrefix? " -> ".toList = none :=
    rfl
  rw [toList_nodeLine]
  simp only [readEdge?, List.dropPrefix?_append_of_beq, BEq.rfl, readId?_quote_render,
    Option.bind_eq_bind, Option.bind_some, other, Option.bind_none]

/-- A line that begins with a quoted id names no font. -/
theorem readFont?_quote (text : String) (rest : List Char) :
    readFont? ("  ".toList ++ ((quote text).toList ++ rest)) = none := by
  simp only [readFont?, List.dropPrefix?_append_of_beq, BEq.rfl, quote, String.toList_append]
  rfl

theorem newline_notMem_kindTail (kind : NodeKind) : '\n' ∉ (kindTail kind).toList := by
  have shape : '\n' ∉ kind.shape.toList := by cases kind <;> decide
  have style : '\n' ∉ kind.style.toList := by cases kind <;> decide
  have fillColor : '\n' ∉ kind.fillColor.toList := by cases kind <;> decide
  have borderColor : '\n' ∉ kind.borderColor.toList := by cases kind <;> decide
  have fontColor : ∀ color ∈ kind.fontColor?, '\n' ∉ color.toList := by cases kind <;> decide
  unfold kindTail
  cases color : kind.fontColor? with
  | none => split <;> simp [quote, shape, style, fillColor, borderColor]
  | some color' => split <;> simp [quote, shape, style, fillColor, borderColor, fontColor _ color]

theorem newline_notMem_edgeTail (e : Edge) : '\n' ∉ (edgeTail e).toList := by
  have apart : ∀ kind label, '\n' ∉ (edgeTail ⟨.start, .finish, kind, label⟩).toList := by
    intro kind label
    cases kind <;> rcases label with _ | _ | _ | _ | _ <;> decide
  exact apart e.kind e.label

theorem newline_notMem_nodeLine (n : Node) : '\n' ∉ (nodeLine n).toList := by
  simp [toList_nodeLine, newline_notMem_quote_render, newline_notMem_quote_escape,
    newline_notMem_kindTail]

theorem newline_notMem_edgeLine (e : Edge) : '\n' ∉ (edgeLine e).toList := by
  simp [toList_edgeLine, newline_notMem_quote_render, newline_notMem_edgeTail]

end Dot

/-! ## Whole drawings -/

theorem Settings.layoutFault?_eq_none_iff {layout : Layout} :
    layoutFault? layout = none ↔
      layout.rankDir ∈ rankDirs ∧ layout.splines ∈ splinesModes := by
  unfold layoutFault?
  split_ifs with rankDir splines <;> simp_all

namespace Dot

/-- No line of a drawing is broken. The two words of the layout are not quoted, but known words. -/
theorem newline_notMem_of_mem_lines {layout : Layout}
    (accepted : Settings.layoutFault? layout = none) {g : Graph} {line : String}
    (member : line ∈ lines g layout) : '\n' ∉ line.toList := by
  obtain ⟨rankDir, splines⟩ := Settings.layoutFault?_eq_none_iff.1 accepted
  have rankDir : '\n' ∉ layout.rankDir.toList :=
    (by decide : ∀ word ∈ Settings.rankDirs, '\n' ∉ word.toList) _ rankDir
  have splines : '\n' ∉ layout.splines.toList :=
    (by decide : ∀ word ∈ Settings.splinesModes, '\n' ∉ word.toList) _ splines
  have font := newline_notMem_quote_escape layout.fontName
  simp only [lines, List.mem_append, List.mem_map, List.mem_cons, List.not_mem_nil, or_false] at member
  rcases member with ((header | ⟨n, -, rfl⟩) | ⟨e, -, rfl⟩) | rfl
  · rcases header with rfl | rfl | rfl | rfl | rfl
    · decide
    all_goals simp [rankDir, splines, font]
  · exact newline_notMem_nodeLine n
  · exact newline_notMem_edgeLine e
  · decide

theorem toList_toDot (g : Graph) (layout : Layout) :
    (g.toDot layout).toList = ((lines g layout).map String.toList).flatMap (· ++ ['\n']) := by
  simp [Graph.toDot, String.toList_join, List.flatMap_map]

theorem fields_toDot {layout : Layout} (accepted : Settings.layoutFault? layout = none) (g : Graph) :
    Text.fields '\n' (g.toDot layout).toList = (lines g layout).map String.toList ++ [[]] := by
  rw [toList_toDot, Text.fields_flatMap]
  intro piece member
  obtain ⟨line, inside, rfl⟩ := List.mem_map.1 member
  exact newline_notMem_of_mem_lines accepted inside

structure Content where
  fontNames : List String
  nodes : List Node
  edges : List Edge
deriving DecidableEq, Repr

def content (text : String) : Content :=
  let lines := Text.fields '\n' text.toList
  { fontNames := lines.filterMap readFont?
    nodes := lines.filterMap readNode?
    edges := lines.filterMap readEdge? }

def header (layout : Layout) : List String := (lines (.empty "") layout).take 5

theorem lines_eq (g : Graph) (layout : Layout) :
    lines g layout =
      header layout ++ (g.nodes.map nodeLine ++ (g.edges.map edgeLine ++ ["\x7d"])) := by
  simp [lines, header, Graph.empty]

/-- What a reader of single lines finds in a drawing, part by part. -/
theorem filterMap_lines {α : Type} (read? : List Char → Option α) (g : Graph) (layout : Layout) :
    ((lines g layout).map String.toList ++ [[]]).filterMap read? =
      (header layout).filterMap (fun line => read? line.toList) ++
        (g.nodes.filterMap (fun n => read? (nodeLine n).toList) ++
          (g.edges.filterMap (fun e => read? (edgeLine e).toList) ++
            [['\x7d'], []].filterMap read?)) := by
  simp [lines_eq, List.filterMap_append, List.filterMap_map, Function.comp_def]

theorem noId_of_mem_header {layout : Layout} {line : String} (member : line ∈ header layout) :
    (line.toList.dropPrefix? "  ".toList).bind readId? = none := by
  simp only [header, lines, List.cons_append, List.take_succ_cons, List.take_zero, List.mem_cons,
    List.not_mem_nil, or_false] at member
  rcases member with rfl | rfl | rfl | rfl | rfl
  · rfl
  all_goals
    simp only [String.toList_append]
    rfl

theorem readFont?_default {start : String}
    (known : start = "  node [fontname=" ∨ start = "  edge [fontname=") (font rest : String) :
    readFont? (start ++ quote (escape font) ++ rest).toList = some (unbroken font) := by
  have quoted := readQuoted?_quote_escape font rest.toList
  simp only [String.toList_append, List.append_assoc]
  generalize (quote (escape font)).toList ++ rest.toList = text at quoted ⊢
  have reading : readFont? (start.toList ++ text) = (readQuoted? text).bind fun p => some p.1 := by
    rcases known with rfl | rfl <;> simp [readFont?, List.dropPrefix?]
  rw [reading, quoted]
  rfl

theorem filterMap_readFont?_header (layout : Layout) :
    (header layout).filterMap (fun line => readFont? line.toList) =
      [unbroken layout.fontName, unbroken layout.fontName] := by
  have first : readFont? "digraph CFG \x7b".toList = none := rfl
  have rankDir : readFont? ("  rankdir=" ++ layout.rankDir ++ ";").toList = none := by
    simp only [String.toList_append]
    rfl
  have splines : readFont? ("  splines=" ++ layout.splines ++ ";").toList = none := by
    simp only [String.toList_append]
    rfl
  simp only [header, lines, List.cons_append, List.take_succ_cons, List.take_zero,
    List.filterMap_cons, first, rankDir, splines, readFont?_default (.inl rfl),
    readFont?_default (.inr rfl), List.filterMap_nil]

/-- A drawing tells its font, twice, and the nodes and edges of its graph. -/
theorem content_toDot {layout : Layout} (accepted : Settings.layoutFault? layout = none)
    (g : Graph) :
    content (g.toDot layout) =
      { fontNames := [unbroken layout.fontName, unbroken layout.fontName]
        nodes := g.nodes.map shown
        edges := g.edges } := by
  have noFont (n : Node) : readFont? (nodeLine n).toList = none :=
    toList_nodeLine n ▸ readFont?_quote ..
  have noFont' (e : Edge) : readFont? (edgeLine e).toList = none :=
    toList_edgeLine e ▸ readFont?_quote ..
  have noNode : (header layout).filterMap (fun line => readNode? line.toList) = [] :=
    List.filterMap_eq_nil_iff.2 fun _ member => (read?_eq_none (noId_of_mem_header member)).1
  have noEdge : (header layout).filterMap (fun line => readEdge? line.toList) = [] :=
    List.filterMap_eq_nil_iff.2 fun _ member => (read?_eq_none (noId_of_mem_header member)).2
  have closing : readFont? ['\x7d'] = none ∧ readNode? ['\x7d'] = none ∧ readEdge? ['\x7d'] = none :=
    ⟨rfl, read?_eq_none rfl⟩
  have last : readFont? [] = none ∧ readNode? [] = none ∧ readEdge? [] = none :=
    ⟨rfl, read?_eq_none rfl⟩
  simp only [content, fields_toDot accepted, filterMap_lines, filterMap_readFont?_header, noNode,
    noEdge, noFont, noFont', readNode?_nodeLine, readNode?_edgeLine, readEdge?_nodeLine,
    readEdge?_edgeLine]
  simp [closing, last]

end Dot

/-- A drawing with an accepted layout consists of six lines and one more for each node and edge. A
quoted text in it ends where it was ended and is read as it was, but for line breaks. So the drawing
tells its font, the id, kind and label of each node, and the edges; two drawings that are the same
text agree on them, whatever their layouts. -/
theorem Graph.toDot_recoverable {layout : Layout}
    (accepted : Settings.layoutFault? layout = none) (g : Graph) :
    (∃ lines : List (List Char),
      (g.toDot layout).toList = lines.flatMap (· ++ ['\n']) ∧ (∀ line ∈ lines, '\n' ∉ line) ∧
        lines.length = 6 + g.nodes.length + g.edges.length) ∧
    (∀ (text : String) (rest : List Char),
      Dot.readQuoted? ((Dot.quote (Dot.escape text)).toList ++ rest) =
        some (Dot.unbroken text, rest)) ∧
    Dot.content (g.toDot layout) =
      { fontNames := [Dot.unbroken layout.fontName, Dot.unbroken layout.fontName]
        nodes := g.nodes.map Dot.shown
        edges := g.edges } ∧
    ∀ layout' g', Settings.layoutFault? layout' = none → Graph.toDot g' layout' = g.toDot layout →
      g'.nodes.map Dot.shown = g.nodes.map Dot.shown ∧ g'.edges = g.edges := by
  refine ⟨⟨(Dot.lines g layout).map String.toList, Dot.toList_toDot g layout, ?unbroken, ?count⟩,
    Dot.readQuoted?_quote_escape, Dot.content_toDot accepted g, ?agree⟩
  case unbroken =>
    intro line member
    obtain ⟨text, inside, rfl⟩ := List.mem_map.1 member
    exact Dot.newline_notMem_of_mem_lines accepted inside
  case count =>
    simp [Dot.lines]
    omega
  case agree =>
    intro layout' g' accepted' same
    have told := Dot.content_toDot accepted' g'
    rw [same, Dot.content_toDot accepted g] at told
    injection told with _ nodes edges
    exact ⟨nodes.symm, edges.symm⟩

/-- A label with quotes, a backslash and a line break, under a font with a quote in its name. -/
theorem Graph.toDot_recoverable_quotes :
    let layout : Layout := { rankDir := "LR", splines := "ortho", fontName := "Fira \"Code" }
    let g : Graph :=
      { name := "f"
        nodes := [⟨.start, .entry, "f"⟩, ⟨.source 1 ⟨4, 30⟩, .decision, "s == \"\\\"];\n -> ?"⟩]
        edges := [⟨.start, .source 1 ⟨4, 30⟩, .fallthrough, none⟩] }
    Settings.layoutFault? layout = none ∧
      Dot.content (g.toDot layout) =
        { fontNames := ["Fira \"Code", "Fira \"Code"]
          nodes := [⟨.start, .entry, "f"⟩, ⟨.source 1 ⟨4, 30⟩, .decision, "s == \"\\\"];  -> ?"⟩]
          edges := [⟨.start, .source 1 ⟨4, 30⟩, .fallthrough, none⟩] } := by
  intro layout g
  have accepted : Settings.layoutFault? layout = none := by decide
  have told := (Graph.toDot_recoverable accepted g).2.2.1
  have font : Dot.unbroken layout.fontName = "Fira \"Code" := by decide
  have nodes : g.nodes.map Dot.shown =
      [⟨.start, .entry, "f"⟩, ⟨.source 1 ⟨4, 30⟩, .decision, "s == \"\\\"];  -> ?"⟩] := by decide
  rw [font, nodes] at told
  exact ⟨accepted, told⟩

end Flowgraph
