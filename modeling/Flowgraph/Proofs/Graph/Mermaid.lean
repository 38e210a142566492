import Flowgraph.Graph.Mermaid
import Flowgraph.Proofs.Drawing.Structure
import Flowgraph.Proofs.Graph.Labels
import Flowgraph.Proofs.Graph.NodeId
import Mathlib.Data.List.Basic

/-!
# Reading flowcharts back

Labels may hold line feeds, so a flowchart cannot be read line by line. It is read from the front: a
label ends at the first quote, because the quotes in it were written as entities, and what begins
behind it is known from the characters that come next. So a flowchart tells the nodes and edges of
its graph in their order, but not the ids, nor the labels that are not shown.
-/

namespace Flowgraph

namespace Mermaid

/-! ## Labels -/

def escapeChar (c : Char) : List Char :=
  if c = '#' then "#35;".toList else if c = '"' then "#quot;".toList else [c]

/-- One substitution after the other writes each character once, as the second finds no quotes in
the entity for the number sign. -/
theorem toList_escape (label : String) :
    (escape label).toList = label.toList.flatMap escapeChar := by
  have each (c : Char) :
      substitute '"' "#quot;" (if c = '#' then "#35;".toList else [c]) = escapeChar c := by
    by_cases number : c = '#'
    · subst number
      decide
    · rw [if_neg number, escapeChar, if_neg number]
      exact List.flatMap_singleton ..
  rw [escape, String.toList_ofList]
  unfold substitute at each ⊢
  rw [List.flatMap_assoc]
  exact List.flatMap_congr fun c _ => each c

def unescape : List Char → List Char
  | '#' :: '3' :: '5' :: ';' :: rest => '#' :: unescape rest
  | '#' :: 'q' :: 'u' :: 'o' :: 't' :: ';' :: rest => '"' :: unescape rest
  | c :: rest => c :: unescape rest
  | [] => []

theorem unescape_escapeChar (c : Char) (rest : List Char) :
    unescape (escapeChar c ++ rest) = c :: unescape rest := by
  by_cases number : c = '#'
  · subst number
    rfl
  by_cases mark : c = '"'
  · subst mark
    rfl
  · simp [escapeChar, number, mark, unescape]

theorem unescape_escape (label : String) : unescape (escape label).toList = label.toList := by
  rw [toList_escape]
  induction label.toList with
  | nil => rfl
  | cons c rest ih => rw [List.flatMap_cons, unescape_escapeChar, ih]

theorem quote_notMem_escape (label : String) : '"' ∉ (escape label).toList := by
  have apart (c : Char) : '"' ∉ escapeChar c := by
    unfold escapeChar
    split_ifs <;> simp_all [eq_comm]
  simp [toList_escape, apart]

theorem newline_notMem_escape {label : String} (unbroken : '\n' ∉ label.toList) :
    '\n' ∉ (escape label).toList := by
  have apart (c : Char) (other : c ≠ '\n') : '\n' ∉ escapeChar c := by
    unfold escapeChar
    split_ifs <;> simp [other.symm]
  rw [toList_escape, List.mem_flatMap]
  rintro ⟨c, member, inside⟩
  exact apart c (fun same => unbroken (same ▸ member)) inside

/-! ## What a flowchart tells -/

/-- The kinds that look alike are told as one of them. -/
def looks : NodeKind → NodeKind
  | .exit => .merge
  | .terminal => .entry
  | kind => kind

structure ShownNode where
  place : Nat
  kind : NodeKind
  /-- Merges and exits show no label. -/
  label : Option String
deriving DecidableEq, Repr

/-- What is told of an edge; its ends are told by their places. -/
structure ShownEdge where
  source : Nat
  target : Nat
  kind : EdgeKind
  label : Option Choice
deriving DecidableEq, Repr

structure Content where
  nodes : List ShownNode
  edges : List ShownEdge
deriving DecidableEq, Repr

def shownNode (n : Node) (place : Nat) : ShownNode :=
  ⟨place, looks n.kind, if looks n.kind = .merge then none else some n.label⟩

def shownEdge (g : Graph) (e : Edge) : ShownEdge :=
  ⟨(g.nodes.map (·.id)).idxOf e.source, (g.nodes.map (·.id)).idxOf e.target, e.kind, e.label⟩

def content (g : Graph) : Content :=
  { nodes := g.nodes.zipIdx.map fun (n, i) => shownNode n i
    edges := g.edges.map (shownEdge g) }

/-! ## Reading -/

def readNumber? (text : List Char) : Option (Nat × List Char) :=
  let isDigit := fun c => (Numeral.digitValue? c).isSome
  (Numeral.readAny? (text.takeWhile isDigit)).map fun n => (n, text.dropWhile isDigit)

def readOpening? (text : List Char) : Option (NodeKind × List Char) :=
  [.decision, .loop, .return, .io, .entry, .statement].findSome? fun kind =>
    (text.dropPrefix? (brackets kind).1.toList).map (kind, ·)

def readNode? (place : Nat) (text : List Char) : Option (ShownNode × List Char) :=
  match text.dropPrefix? "(( ))".toList with
  | some rest => some (⟨place, .merge, none⟩, rest)
  | none => do
      let (kind, rest) ← readOpening? text
      let label := rest.takeWhile (· ≠ '"')
      let rest ← (rest.dropWhile (· ≠ '"')).dropPrefix? (brackets kind).2.toList
      return (⟨place, kind, some (String.ofList (unescape label))⟩, rest)

def readShaft? (text : List Char) : Option (EdgeKind × List Char) :=
  match text.dropPrefix? " -.->".toList with
  | some rest => some (.loopBack, rest)
  | none => (text.dropPrefix? " -->".toList).map (.fallthrough, ·)

def readChoice? : List Char → Option (Option Choice × List Char)
  | ' ' :: rest => some (none, rest)
  | '|' :: rest => do
      let choice ← Choice.ofName? (String.ofList (rest.takeWhile (· ≠ '|')))
      let rest ← (rest.dropWhile (· ≠ '|')).dropPrefix? "| ".toList
      return (some choice, rest)
  | _ => none

def readEdge? (source : Nat) (text : List Char) : Option (ShownEdge × List Char) := do
  let (kind, rest) ← readShaft? text
  let (label, rest) ← readChoice? rest
  let rest ← rest.dropPrefix? ['N']
  let (target, rest) ← readNumber? rest
  return (⟨source, target, kind, label⟩, rest)

/-- Reads a node or an edge; an edge goes on with a blank. -/
def readItem? (text : List Char) : Option ((ShownNode ⊕ ShownEdge) × List Char) := do
  let rest ← text.dropPrefix? "\n    N".toList
  let (place, rest) ← readNumber? rest
  if rest.head? = some ' ' then (readEdge? place rest).map (Prod.map .inr id)
  else (readNode? place rest).map (Prod.map .inl id)

def readItems? : Nat → List Char → Option (List (ShownNode ⊕ ShownEdge))
  | _, [] => some []
  | 0, _ => none
  | fuel + 1, text => do
      let (item, rest) ← readItem? text
      let items ← readItems? fuel rest
      return item :: items

/-- Reads a flowchart. Each item takes up some of the text, so there are no more of them than
characters. -/
def read? (text : String) : Option Content := do
  let rest ← text.toList.dropPrefix? "flowchart TD".toList
  let items ← readItems? rest.length rest
  return { nodes := items.filterMap Sum.getLeft?, edges := items.filterMap Sum.getRight? }

/-! ## Parts read back -/

/-- What follows a number or an item: the end of the text, or something that goes on with another
character than a digit. -/
def NoDigit (rest : List Char) : Prop := ∀ c ∈ rest.head?, Numeral.digitValue? c = none

theorem readNumber?_digits (n : Nat) {rest : List Char} (apart : NoDigit rest) :
    readNumber? (Numeral.digits n ++ rest) = some (n, rest) := by
  have inside : ∀ c ∈ Numeral.digits n, (Numeral.digitValue? c).isSome = true := by
    intro c member
    obtain ⟨d, small, rfl⟩ := Numeral.isDigit_of_mem_digits member
    rw [Numeral.digitValue?_digitChar small]
    rfl
  have boundary : ∀ c ∈ rest.head?, (Numeral.digitValue? c).isSome = false := by
    intro c first
    rw [apart c first]
    rfl
  obtain ⟨digits, behind⟩ := Text.takeWhile_append_dropWhile inside boundary
  simp only [readNumber?, digits, behind, Numeral.readAny?_digits, Option.map_some]

theorem readShaft?_append (kind : EdgeKind) (rest : List Char) :
    readShaft? ((shaft kind).toList ++ rest) = some (kind, rest) := by
  cases kind <;> simp [readShaft?, shaft, List.dropPrefix?]

theorem readChoice?_append (label : Option Choice) (rest : List Char) :
    readChoice? ((inscription label).toList ++ rest) = some (label, rest) := by
  rcases label with _ | _ | _ | _ | _ <;>
    simp [readChoice?, inscription, Choice.name, Choice.ofName?, List.dropPrefix?]

theorem readOpening?_brackets {kind : NodeKind} (shows : looks kind ≠ .merge) (rest : List Char) :
    readOpening? ((brackets kind).1.toList ++ rest) = some (looks kind, rest) := by
  cases kind with
  | merge | exit => exact absurd rfl shows
  | _ => simp [readOpening?, brackets, looks, List.dropPrefix?]

/-- The opening bracket of a label is not the whole of a node without one. -/
theorem dropPrefix?_opening {kind : NodeKind} (shows : looks kind ≠ .merge) (rest : List Char) :
    ((brackets kind).1.toList ++ rest).dropPrefix? "(( ))".toList = none := by
  cases kind with
  | merge | exit => exact absurd rfl shows
  | _ => simp [brackets, List.dropPrefix?]

theorem closing_eq_cons {kind : NodeKind} (shows : looks kind ≠ .merge) :
    ∃ more, (brackets kind).2.toList = '"' :: more := by
  cases kind with
  | merge | exit => exact absurd rfl shows
  | _ => exact ⟨_, rfl⟩

/-- A label ends at the first quote. -/
theorem label_append (label : String) (rest : List Char) :
    ((escape label).toList ++ '"' :: rest).takeWhile (· ≠ '"') = (escape label).toList ∧
      ((escape label).toList ++ '"' :: rest).dropWhile (· ≠ '"') = '"' :: rest := by
  have inside : ∀ c ∈ (escape label).toList, decide (c ≠ '"') = true := fun c member =>
    decide_eq_true fun mark => quote_notMem_escape label (mark ▸ member)
  exact Text.takeWhile_append_dropWhile inside (by simp)

def nodeTail (n : Node) : List Char :=
  (brackets n.kind).1.toList ++ ((shownLabel n).toList ++ (brackets n.kind).2.toList)

theorem readNode?_labelled {n : Node} (shows : looks n.kind ≠ .merge) (place : Nat)
    (rest : List Char) : readNode? place (nodeTail n ++ rest) = some (shownNode n place, rest) := by
  obtain ⟨id, kind, label⟩ := n
  have shown : shownLabel ⟨id, kind, label⟩ = escape label := by
    cases kind with
    | merge | exit => exact absurd rfl shows
    | _ => rfl
  have same : (brackets (looks kind)).2 = (brackets kind).2 := by cases kind <;> rfl
  obtain ⟨more, closing⟩ := closing_eq_cons shows
  obtain ⟨before, behind⟩ := label_append label (more ++ rest)
  have ends : ('"' :: (more ++ rest)).dropPrefix? ('"' :: more) = some rest := by
    rw [← List.cons_append]
    exact List.dropPrefix?_append_of_beq rest BEq.rfl
  have text : nodeTail ⟨id, kind, label⟩ ++ rest =
      (brackets kind).1.toList ++ ((escape label).toList ++ '"' :: (more ++ rest)) := by
    simp [nodeTail, shown, closing]
  rw [text, readNode?, dropPrefix?_opening shows, readOpening?_brackets shows]
  simp only [Option.bind_eq_bind, Option.bind_some, before, behind, same, closing, ends,
    unescape_escape, String.ofList_toList, shownNode, if_neg shows]
  rfl

theorem readNode?_nodeTail (n : Node) (place : Nat) (rest : List Char) :
    readNode? place (nodeTail n ++ rest) = some (shownNode n place, rest) := by
  by_cases shows : looks n.kind = .merge
  · obtain ⟨id, kind, label⟩ := n
    cases kind with
    | merge | exit =>
        simp [readNode?, nodeTail, brackets, shownLabel, shownNode, looks, List.dropPrefix?]
    | _ => cases shows
  · exact readNode?_labelled shows place rest

def edgeTail (g : Graph) (e : Edge) : List Char :=
  (arrow e).toList ++ 'N' :: Numeral.digits (place g e.target)

theorem readEdge?_edgeTail (g : Graph) (e : Edge) (source : Nat) {rest : List Char}
    (apart : NoDigit rest) :
    readEdge? source (edgeTail g e ++ rest) =
      some (⟨source, place g e.target, e.kind, e.label⟩, rest) := by
  have text : edgeTail g e ++ rest = (shaft e.kind).toList ++
      ((inscription e.label).toList ++ (['N'] ++ (Numeral.digits (place g e.target) ++ rest))) := by
    simp [edgeTail, arrow]
  rw [text]
  simp only [readEdge?, readShaft?_append, readChoice?_append, List.dropPrefix?_append_of_beq,
    BEq.rfl, readNumber?_digits _ apart, Option.bind_eq_bind, Option.bind_some]
  rfl

/-! ## Items read back -/

theorem head?_nodeTail (n : Node) (rest : List Char) :
    (nodeTail n ++ rest).head? ≠ some ' ' ∧ NoDigit (nodeTail n ++ rest) := by
  obtain ⟨id, kind, label⟩ := n
  cases kind <;> simp [nodeTail, brackets, NoDigit, Numeral.digitValue?]

theorem head?_edgeTail (g : Graph) (e : Edge) (rest : List Char) :
    (edgeTail g e ++ rest).head? = some ' ' ∧ NoDigit (edgeTail g e ++ rest) := by
  obtain ⟨source, target, kind, label⟩ := e
  cases kind <;> simp [edgeTail, arrow, shaft, NoDigit, Numeral.digitValue?]

theorem readItem?_node (n : Node) (place : Nat) (rest : List Char) :
    readItem? ('\n' :: (nodeLine n place).toList ++ rest) = some (.inl (shownNode n place), rest) := by
  have text : '\n' :: (nodeLine n place).toList ++ rest =
      "\n    N".toList ++ (Numeral.digits place ++ (nodeTail n ++ rest)) := by
    simp [nodeLine, nodeTail, Numeral.render]
  obtain ⟨noBlank, apart⟩ := head?_nodeTail n rest
  rw [text]
  simp only [readItem?, List.dropPrefix?_append_of_beq, BEq.rfl, readNumber?_digits _ apart,
    Option.bind_eq_bind, Option.bind_some, if_neg noBlank, readNode?_nodeTail]
  rfl

theorem readItem?_edge (g : Graph) (e : Edge) {rest : List Char} (apart : NoDigit rest) :
    readItem? ('\n' :: (edgeLine g e).toList ++ rest) =
      some (.inr ⟨place g e.source, place g e.target, e.kind, e.label⟩, rest) := by
  have text : '\n' :: (edgeLine g e).toList ++ rest =
      "\n    N".toList ++ (Numeral.digits (place g e.source) ++ (edgeTail g e ++ rest)) := by
    simp [edgeLine, edgeTail, Numeral.render]
  obtain ⟨blank, apart'⟩ := head?_edgeTail g e rest
  rw [text]
  simp only [readItem?, List.dropPrefix?_append_of_beq, BEq.rfl, readNumber?_digits _ apart',
    Option.bind_eq_bind, Option.bind_some, if_pos blank, readEdge?_edgeTail g e _ apart]
  rfl

def items (g : Graph) : List ((Node × Nat) ⊕ Edge) := g.nodes.zipIdx.map .inl ++ g.edges.map .inr

def itemText (g : Graph) : (Node × Nat) ⊕ Edge → List Char
  | .inl (n, i) => '\n' :: (nodeLine n i).toList
  | .inr e => '\n' :: (edgeLine g e).toList

def shownItem (g : Graph) : (Node × Nat) ⊕ Edge → ShownNode ⊕ ShownEdge
  | .inl (n, i) => .inl (shownNode n i)
  | .inr e => .inr ⟨place g e.source, place g e.target, e.kind, e.label⟩

theorem itemText_eq_cons (g : Graph) (item : (Node × Nat) ⊕ Edge) :
    ∃ line, itemText g item = '\n' :: line := by
  rcases item with ⟨n, i⟩ | e
  · exact ⟨_, rfl⟩
  · exact ⟨_, rfl⟩

theorem noDigit_flatMap (g : Graph) (items : List ((Node × Nat) ⊕ Edge)) :
    NoDigit (items.flatMap (itemText g)) := by
  cases items with
  | nil => simp [NoDigit]
  | cons item rest =>
      obtain ⟨line, text⟩ := itemText_eq_cons g item
      simp [NoDigit, text, Numeral.digitValue?]

theorem readItem?_itemText (g : Graph) (item : (Node × Nat) ⊕ Edge) {rest : List Char}
    (apart : NoDigit rest) :
    readItem? (itemText g item ++ rest) = some (shownItem g item, rest) := by
  rcases item with ⟨n, i⟩ | e
  · exact readItem?_node n i rest
  · exact readItem?_edge g e apart

theorem readItems?_flatMap (g : Graph) (items : List ((Node × Nat) ⊕ Edge)) {fuel : Nat}
    (enough : items.length ≤ fuel) :
    readItems? fuel (items.flatMap (itemText g)) = some (items.map (shownItem g)) := by
  induction items generalizing fuel with
  | nil => cases fuel <;> rfl
  | cons item rest ih =>
      obtain ⟨line, text⟩ := itemText_eq_cons g item
      have first := readItem?_itemText g item (noDigit_flatMap g rest)
      cases fuel with
      | zero => cases enough
      | succ fuel =>
          rw [List.flatMap_cons]
          rw [text] at first ⊢
          simp only [List.cons_append, readItems?] at first ⊢
          simp only [first, Option.bind_eq_bind, Option.bind_some, ih (Nat.le_of_succ_le_succ enough)]
          rfl

theorem length_le_length_flatMap (g : Graph) (items : List ((Node × Nat) ⊕ Edge)) :
    items.length ≤ (items.flatMap (itemText g)).length := by
  induction items with
  | nil => exact Nat.le_refl _
  | cons item rest ih =>
      obtain ⟨line, text⟩ := itemText_eq_cons g item
      rw [List.flatMap_cons, List.length_append, text, List.length_cons, List.length_cons]
      omega

theorem toList_toMermaid (g : Graph) :
    g.toMermaid.toList = "flowchart TD".toList ++ (items g).flatMap (itemText g) := by
  rw [Graph.toMermaid, String.toList_intercalate, lines, List.cons_append, List.map_cons]
  have separator : "\n".toList = ['\n'] := rfl
  rw [separator, Text.intercalate_cons]
  simp [items, itemText, List.flatMap_map, Function.comp_def]

end Mermaid

/-! ## Whole flowcharts -/

structure Graph.Linked (g : Graph) : Prop where
  distinct : (g.nodes.map (·.id)).Nodup
  source_mem : ∀ e ∈ g.edges, e.source ∈ g.nodes.map (·.id)
  target_mem : ∀ e ∈ g.edges, e.target ∈ g.nodes.map (·.id)

theorem Function.graph_linked (f : Function) (rules : LabelRules) : (f.graph rules).Linked :=
  ⟨f.graph_distinct rules, fun _ member => f.source_mem rules member,
    fun _ member => f.target_mem rules member⟩

namespace Mermaid

variable {g : Graph}

theorem place_eq_idxOf {id : NodeId} (member : id ∈ g.nodes.map (·.id)) :
    place g id = (g.nodes.map (·.id)).idxOf id := by
  have same : (g.nodes.map (·.id)).idxOf id = g.nodes.findIdx fun n => n.id = id := by
    rw [List.idxOf, List.findIdx_map]
    rfl
  have bound := List.idxOf_lt_length_of_mem member
  rw [List.length_map, same] at bound
  rw [place, same, List.findIdx?_eq_some_iff_findIdx_eq.2 ⟨bound, rfl⟩, Option.getD_some]

/-- With distinct ids the place of an id is that of the only node with it. -/
theorem idxOf_eq_iff (distinct : (g.nodes.map (·.id)).Nodup) {id : NodeId} {i : Nat} {v : Node}
    (found : g.nodes[i]? = some v) : (g.nodes.map (·.id)).idxOf id = i ↔ v.id = id := by
  have here : (g.nodes.map (·.id))[i]? = some v.id := by rw [List.getElem?_map, found]; rfl
  obtain ⟨bound, value⟩ := List.getElem?_eq_some_iff.1 here
  constructor
  · rintro rfl
    rw [← value, List.getElem_idxOf]
  · rintro rfl
    rw [← value, distinct.idxOf_getElem]

theorem shownItem_edge (linked : g.Linked) {e : Edge} (member : e ∈ g.edges) :
    shownItem g (.inr e) = .inr (shownEdge g e) := by
  rw [shownItem, place_eq_idxOf (linked.source_mem e member),
    place_eq_idxOf (linked.target_mem e member), shownEdge]

theorem map_shownItem (linked : g.Linked) :
    (items g).map (shownItem g) =
      (g.nodes.zipIdx.map fun (n, i) => .inl (shownNode n i)) ++
        g.edges.map fun e => .inr (shownEdge g e) := by
  have edges : g.edges.map (fun e => shownItem g (.inr e)) =
      g.edges.map fun e => .inr (shownEdge g e) :=
    List.map_congr_left fun _ member => shownItem_edge linked member
  rw [items, List.map_append, List.map_map, List.map_map, ← edges]
  rfl

theorem read?_toMermaid (linked : g.Linked) : read? g.toMermaid = some (content g) := by
  rw [read?, toList_toMermaid]
  simp only [List.dropPrefix?_append_of_beq, BEq.rfl, Option.bind_eq_bind, Option.bind_some,
    readItems?_flatMap g (items g) (length_le_length_flatMap g (items g)), map_shownItem linked]
  simp [content, List.filterMap_append, List.filterMap_map, Function.comp_def]

theorem newline_notMem_nodeLine {n : Node} (unbroken : '\n' ∉ n.label.toList) (place : Nat) :
    '\n' ∉ (nodeLine n place).toList := by
  have label : '\n' ∉ (shownLabel n).toList := by
    unfold shownLabel
    split
    · decide
    · decide
    · exact newline_notMem_escape unbroken
  have number : '\n' ∉ Numeral.digits place := Numeral.notMem_digits (by decide) place
  have brackets : '\n' ∉ (brackets n.kind).1.toList ∧ '\n' ∉ (brackets n.kind).2.toList := by
    cases n.kind <;> decide
  simp [nodeLine, Numeral.render, label, number, brackets]

theorem newline_notMem_edgeLine (g : Graph) (e : Edge) : '\n' ∉ (edgeLine g e).toList := by
  have number (n : Nat) : '\n' ∉ Numeral.digits n := Numeral.notMem_digits (by decide) n
  have shaft : '\n' ∉ (shaft e.kind).toList := by cases e.kind <;> decide
  have inscription : '\n' ∉ (inscription e.label).toList := by
    rcases e.label with _ | _ | _ | _ | _ <;> decide
  simp [edgeLine, arrow, Numeral.render, number, shaft, inscription]

/-- When no label has a line feed, the lines that were written are the lines of the text. -/
theorem fields_toMermaid (unbroken : ∀ v ∈ g.nodes, '\n' ∉ v.label.toList) :
    Text.fields '\n' g.toMermaid.toList = (lines g).map String.toList := by
  have separator : "\n".toList = ['\n'] := rfl
  rw [Graph.toMermaid, String.toList_intercalate, separator, lines, List.cons_append, List.map_cons,
    Text.fields_intercalate]
  intro line member
  simp only [List.mem_cons, List.mem_map, List.mem_append] at member
  rcases member with rfl | ⟨_, ⟨⟨n, i⟩, inside, rfl⟩ | ⟨e, -, rfl⟩, rfl⟩
  · decide
  · exact newline_notMem_nodeLine (unbroken n (List.fst_mem_of_mem_zipIdx inside)) i
  · exact newline_notMem_edgeLine g e

end Mermaid

/-- A flowchart tells the place, kind and label of each node, but for kinds that look alike and
labels that are not shown, and the kind, label and ends of each edge, these by their places; two
flowcharts that are the same text agree on all of it. In the flowchart of a function whose name is
in one line every node and edge has one line. -/
theorem Graph.toMermaid_recoverable :
    (∀ g : Graph, g.Linked →
      Mermaid.read? g.toMermaid = some (Mermaid.content g) ∧
      (∀ e ∈ g.edges, ∀ i v, g.nodes[i]? = some v →
        ((Mermaid.shownEdge g e).source = i ↔ v.id = e.source) ∧
        ((Mermaid.shownEdge g e).target = i ↔ v.id = e.target)) ∧
      ∀ g' : Graph, g'.Linked → g'.toMermaid = g.toMermaid → Mermaid.content g' = Mermaid.content g) ∧
    ∀ (f : Function) (rules : LabelRules), (f.graph rules).Linked ∧
      ('\n' ∉ f.name.toList →
        (∀ v ∈ (f.graph rules).nodes, '\n' ∉ v.label.toList) ∧
        (Text.fields '\n' (f.graph rules).toMermaid.toList).length =
          1 + (f.graph rules).nodes.length + (f.graph rules).edges.length) := by
  refine ⟨fun g linked => ⟨Mermaid.read?_toMermaid linked, ?ends, ?agree⟩,
    fun f rules => ⟨f.graph_linked rules, fun unbroken => ?lines⟩⟩
  case ends =>
    intro e _ i v found
    exact ⟨Mermaid.idxOf_eq_iff linked.distinct found, Mermaid.idxOf_eq_iff linked.distinct found⟩
  case agree =>
    intro g' linked' same
    have told := Mermaid.read?_toMermaid linked'
    rw [same, Mermaid.read?_toMermaid linked] at told
    exact (Option.some.inj told).symm
  case lines =>
    have apart := f.newline_notMem_label rules unbroken
    refine ⟨apart, ?_⟩
    rw [Mermaid.fields_toMermaid apart, List.length_map, Mermaid.lines, List.length_append,
      List.length_cons, List.length_map, List.length_map, List.length_zipIdx]
    omega

/-- A label with a quote, the text of an entity, and a line that looks like that of a node. -/
theorem Graph.toMermaid_recoverable_quotes :
    let g : Graph :=
      { name := "f"
        nodes := [⟨.start, .entry, "f"⟩, ⟨.source 1 ⟨4, 30⟩, .loop, "\"#quot;\"\n    N7[\"x\"]"⟩,
          ⟨.synthetic 2, .exit, "unseen"⟩]
        edges := [⟨.start, .source 1 ⟨4, 30⟩, .fallthrough, none⟩,
          ⟨.source 1 ⟨4, 30⟩, .synthetic 2, .loopBack, some .leave⟩] }
    g.Linked ∧ Mermaid.read? g.toMermaid = some
      { nodes := [⟨0, .entry, some "f"⟩, ⟨1, .loop, some "\"#quot;\"\n    N7[\"x\"]"⟩,
          ⟨2, .merge, none⟩]
        edges := [⟨0, 1, .fallthrough, none⟩, ⟨1, 2, .loopBack, some .leave⟩] } := by
  intro g
  have linked : g.Linked := ⟨by decide, by decide, by decide⟩
  have told := (Graph.toMermaid_recoverable.1 g linked).1
  have content : Mermaid.content g =
      { nodes := [⟨0, .entry, some "f"⟩, ⟨1, .loop, some "\"#quot;\"\n    N7[\"x\"]"⟩,
          ⟨2, .merge, none⟩]
        edges := [⟨0, 1, .fallthrough, none⟩, ⟨1, 2, .loopBack, some .leave⟩] } := by decide
  rw [content] at told
  exact ⟨linked, told⟩

end Flowgraph
