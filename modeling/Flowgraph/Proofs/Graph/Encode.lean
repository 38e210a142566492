import Flowgraph.Graph.Encode
import Flowgraph.Proofs.Graph.Spelling
import Flowgraph.Proofs.Json.Printing
import Flowgraph.Proofs.Json.Record

/-!
# Graphs as JSON, and back

`Spells` relates a JSON value to the graph it stands for: records as objects or as arrays, ids in
any spelling, kinds by name, a label missing, null or by name. The reader finds a graph in a value
just if the value spells it, so what is written reads back, and no value with a malformed id in it
is a graph.
-/

namespace Flowgraph

open Json (Record FieldOf IsVariant)

/-! ## Names and ids -/

theorem NodeKind.ofName?_eq_some_iff (name : String) (kind : NodeKind) :
    NodeKind.ofName? name = some kind ↔ name = kind.name := by
  constructor
  · intro found
    rw [NodeKind.ofName?] at found
    have named := List.find?_some found
    exact (of_decide_eq_true named).symm
  · rintro rfl
    exact kind.ofName?_name

theorem EdgeKind.ofName?_eq_some_iff (name : String) (kind : EdgeKind) :
    EdgeKind.ofName? name = some kind ↔ name = kind.name := by
  constructor
  · intro found
    unfold EdgeKind.ofName? at found
    split at found <;> cases found <;> rfl
  · rintro rfl
    exact kind.ofName?_name

theorem Choice.ofName?_eq_some_iff (name : String) (choice : Choice) :
    Choice.ofName? name = some choice ↔ name = choice.name := by
  constructor
  · intro found
    unfold Choice.ofName? at found
    split at found <;> cases found <;> rfl
  · rintro rfl
    exact choice.ofName?_name

inductive NodeId.SpelledBy : Json → NodeId → Prop where
  | text {text id} (spells : NodeId.Spells text.toList id) : SpelledBy (.text text) id

/-- The value of a label: null, or the name of a choice. -/
inductive Choice.SpelledBy : Json → Option Choice → Prop where
  | null : SpelledBy .null none
  | named {value c} (named : IsVariant (Choice.name c) value) : SpelledBy value (some c)

/-- A label that is missing is none, but only an object may leave it out. -/
inductive Edge.LabelOf (value : Json) : Option Json → Option Choice → Prop where
  | missing {members} (object : value = .object members) : LabelOf value none none
  | given {label choice} (spelled : Choice.SpelledBy label choice) : LabelOf value (some label) choice

inductive Node.SpelledBy (value : Json) (n : Node) : Prop where
  | record {id kind}
      (fields : Record ["id", "kind", "label"] value [some id, some kind, some (.text n.label)])
      (idSpelled : NodeId.SpelledBy id n.id) (kindNamed : IsVariant n.kind.name kind)

inductive Edge.SpelledBy (value : Json) (e : Edge) : Prop where
  | record {source target kind label}
      (fields : Record ["from", "to", "kind", "label"] value
        [some source, some target, some kind, label])
      (sourceSpelled : NodeId.SpelledBy source e.source)
      (targetSpelled : NodeId.SpelledBy target e.target)
      (kindNamed : IsVariant e.kind.name kind) (labelOf : Edge.LabelOf value label e.label)

inductive Graph.SpelledBy (value : Json) (g : Graph) : Prop where
  | record {nodes edges}
      (fields : Record ["name", "nodes", "edges"] value
        [some (.text g.name), some (.array nodes), some (.array edges)])
      (nodesSpelled : nodes.Forall₂ Node.SpelledBy g.nodes)
      (edgesSpelled : edges.Forall₂ Edge.SpelledBy g.edges)

variable {value : Json}

theorem NodeId.ofJson?_eq_some_iff {id : NodeId} :
    NodeId.ofJson? value = some id ↔ NodeId.SpelledBy value id := by
  simp only [NodeId.ofJson?, Option.bind_eq_some_iff, Json.text?_eq_some_iff,
    NodeId.read?_eq_some_iff_spells]
  constructor
  · rintro ⟨text, rfl, spells⟩
    exact .text spells
  · rintro ⟨spells⟩
    exact ⟨_, rfl, spells⟩

theorem Choice.ofJson?_eq_some_iff {label : Option Choice} :
    Choice.ofJson? value = some label ↔ Choice.SpelledBy value label := by
  have named (c : Choice) : value.variant?.bind Choice.ofName? = some c ↔ IsVariant c.name value :=
    Json.bind_variant?_eq_some_iff Choice.ofName?_eq_some_iff
  unfold Choice.ofJson?
  split
  · constructor
    · rintro ⟨rfl⟩
      exact .null
    · rintro (_ | ⟨⟨⟩⟩)
      rfl
  · next noNull =>
      simp only [Option.map_eq_some_iff, named]
      constructor
      · rintro ⟨c, isVariant, rfl⟩
        exact .named isVariant
      · rintro (_ | isVariant)
        · exact absurd rfl noNull
        · exact ⟨_, isVariant, rfl⟩

theorem Node.ofJson?_eq_some_iff {n : Node} :
    Node.ofJson? value = some n ↔ Node.SpelledBy value n := by
  constructor
  · intro read
    obtain ⟨fields, record, read⟩ := Option.bind_eq_some_iff.1 read
    split at read
    · obtain ⟨id, idRead, read⟩ := Option.bind_eq_some_iff.1 read
      obtain ⟨kind, kindRead, read⟩ := Option.bind_eq_some_iff.1 read
      obtain ⟨label, labelRead, read⟩ := Option.bind_eq_some_iff.1 read
      obtain rfl := Option.some.inj read
      obtain rfl := Json.text?_eq_some_iff.1 labelRead
      exact .record (Json.fields?_eq_some_iff.1 record) (NodeId.ofJson?_eq_some_iff.1 idRead)
        ((Json.bind_variant?_eq_some_iff NodeKind.ofName?_eq_some_iff).1 kindRead)
    · cases read
  · rintro ⟨record, idSpelled, kindNamed⟩
    have fields := Json.fields?_eq_some_iff.2 record
    have idRead := NodeId.ofJson?_eq_some_iff.2 idSpelled
    have kindRead := (Json.bind_variant?_eq_some_iff NodeKind.ofName?_eq_some_iff).2 kindNamed
    simp [Node.ofJson?, fields, idRead, kindRead, Json.text?]

theorem Edge.labelOf?_eq_some_iff {label : Option Json} {choice : Option Choice} :
    Edge.labelOf? value label = some choice ↔ Edge.LabelOf value label choice := by
  cases label with
  | none =>
      constructor
      · intro read
        cases value with
        | object members =>
            cases read
            exact .missing rfl
        | _ => cases read
      · rintro ⟨rfl⟩
        rfl
  | some label =>
      refine Choice.ofJson?_eq_some_iff.trans ⟨.given, ?_⟩
      rintro ⟨⟩
      assumption

theorem Edge.ofJson?_eq_some_iff {e : Edge} :
    Edge.ofJson? value = some e ↔ Edge.SpelledBy value e := by
  constructor
  · intro read
    obtain ⟨fields, record, read⟩ := Option.bind_eq_some_iff.1 read
    split at read
    · obtain ⟨source, sourceRead, read⟩ := Option.bind_eq_some_iff.1 read
      obtain ⟨target, targetRead, read⟩ := Option.bind_eq_some_iff.1 read
      obtain ⟨kind, kindRead, read⟩ := Option.bind_eq_some_iff.1 read
      obtain ⟨label, labelRead, read⟩ := Option.bind_eq_some_iff.1 read
      obtain rfl := Option.some.inj read
      exact .record (Json.fields?_eq_some_iff.1 record) (NodeId.ofJson?_eq_some_iff.1 sourceRead)
        (NodeId.ofJson?_eq_some_iff.1 targetRead)
        ((Json.bind_variant?_eq_some_iff EdgeKind.ofName?_eq_some_iff).1 kindRead)
        (Edge.labelOf?_eq_some_iff.1 labelRead)
    · cases read
  · rintro ⟨record, sourceSpelled, targetSpelled, kindNamed, labelOf⟩
    have fields := Json.fields?_eq_some_iff.2 record
    have sourceRead := NodeId.ofJson?_eq_some_iff.2 sourceSpelled
    have targetRead := NodeId.ofJson?_eq_some_iff.2 targetSpelled
    have kindRead := (Json.bind_variant?_eq_some_iff EdgeKind.ofName?_eq_some_iff).2 kindNamed
    have labelRead := Edge.labelOf?_eq_some_iff.2 labelOf
    simp [Edge.ofJson?, fields, sourceRead, targetRead, kindRead, labelRead]

theorem Graph.ofJson?_eq_some_iff {g : Graph} :
    Graph.ofJson? value = some g ↔ Graph.SpelledBy value g := by
  constructor
  · intro read
    obtain ⟨fields, record, read⟩ := Option.bind_eq_some_iff.1 read
    split at read
    · obtain ⟨name, nameRead, read⟩ := Option.bind_eq_some_iff.1 read
      obtain ⟨nodes, nodesGiven, read⟩ := Option.bind_eq_some_iff.1 read
      obtain ⟨nodes, nodesRead, read⟩ := Option.bind_eq_some_iff.1 read
      obtain ⟨edges, edgesGiven, read⟩ := Option.bind_eq_some_iff.1 read
      obtain ⟨edges, edgesRead, read⟩ := Option.bind_eq_some_iff.1 read
      obtain rfl := Option.some.inj read
      obtain rfl := Json.text?_eq_some_iff.1 nameRead
      obtain rfl := Json.array?_eq_some_iff.1 nodesGiven
      obtain rfl := Json.array?_eq_some_iff.1 edgesGiven
      exact .record (Json.fields?_eq_some_iff.1 record)
        ((Json.mapM_eq_some_iff.1 nodesRead).imp fun _ _ => Node.ofJson?_eq_some_iff.1)
        ((Json.mapM_eq_some_iff.1 edgesRead).imp fun _ _ => Edge.ofJson?_eq_some_iff.1)
    · cases read
  · rintro ⟨record, nodesSpelled, edgesSpelled⟩
    have fields := Json.fields?_eq_some_iff.2 record
    have nodesRead := Json.mapM_eq_some_iff.2 (nodesSpelled.imp fun _ _ => Node.ofJson?_eq_some_iff.2)
    have edgesRead := Json.mapM_eq_some_iff.2 (edgesSpelled.imp fun _ _ => Edge.ofJson?_eq_some_iff.2)
    simp [Graph.ofJson?, fields, nodesRead, edgesRead, Json.text?, Json.array?]

/-! ## Writing and reading again -/

structure Graph.Fits (g : Graph) : Prop where
  nodes : ∀ n ∈ g.nodes, n.id.Fits
  edges : ∀ e ∈ g.edges, e.source.Fits ∧ e.target.Fits

theorem NodeId.spelledBy_toJson {id : NodeId} (fits : id.Fits) : NodeId.SpelledBy id.toJson id := by
  refine .text ?_
  rw [render, String.toList_ofList]
  exact spells_chars fits

theorem NodeId.SpelledBy.fits {id : NodeId} (spelled : NodeId.SpelledBy value id) : id.Fits := by
  obtain ⟨spells⟩ := spelled
  exact spells.fits

theorem Node.spelledBy_toJson {n : Node} (fits : n.id.Fits) : Node.SpelledBy n.toJson n :=
  .record (.object (.cons rfl (.cons rfl (.cons rfl .nil)))) (NodeId.spelledBy_toJson fits) .text

theorem Choice.spelledBy_toJson (label : Option Choice) :
    Choice.SpelledBy (Json.ofOption (fun c => .text c.name) label) label := by
  cases label with
  | none => exact .null
  | some c => exact .named .text

theorem Edge.spelledBy_toJson {e : Edge} (fits : e.source.Fits ∧ e.target.Fits) :
    Edge.SpelledBy e.toJson e :=
  .record (.object (.cons rfl (.cons rfl (.cons rfl (.cons rfl .nil)))))
    (NodeId.spelledBy_toJson fits.1) (NodeId.spelledBy_toJson fits.2) .text
    (.given (Choice.spelledBy_toJson e.label))

theorem Graph.spelledBy_toJson {g : Graph} (fits : g.Fits) : Graph.SpelledBy g.toJson g := by
  refine .record (.object (.cons rfl (.cons rfl (.cons rfl .nil)))) ?_ ?_
  · rw [List.forall₂_map_left_iff, List.forall₂_same]
    exact fun n member => Node.spelledBy_toJson (fits.nodes n member)
  · rw [List.forall₂_map_left_iff, List.forall₂_same]
    exact fun e member => Edge.spelledBy_toJson (fits.edges e member)

/-- Whatever a graph is read from, its ids are in their ranges. -/
theorem Graph.SpelledBy.fits {g : Graph} (spelled : Graph.SpelledBy value g) : g.Fits := by
  obtain ⟨-, nodes, edges⟩ := spelled
  constructor
  · intro n member
    obtain ⟨_, -, idSpelled, -⟩ := Json.exists_of_forall₂ nodes.flip n member
    exact idSpelled.fits
  · intro e member
    obtain ⟨_, -, sourceSpelled, targetSpelled, -, -⟩ := Json.exists_of_forall₂ edges.flip e member
    exact ⟨sourceSpelled.fits, targetSpelled.fits⟩

theorem Node.within_toJson (n : Node) (depth : Nat) : Json.Within (depth + 1) n.toJson := by
  refine .object fun member listed => ?_
  simp only [List.mem_cons, List.not_mem_nil, or_false] at listed
  rcases listed with rfl | rfl | rfl <;> exact .text _

theorem Edge.within_toJson (e : Edge) (depth : Nat) : Json.Within (depth + 1) e.toJson := by
  refine .object fun member listed => ?_
  simp only [List.mem_cons, List.not_mem_nil, or_false] at listed
  rcases listed with rfl | rfl | rfl | rfl
  · exact .text _
  · exact .text _
  · exact .text _
  · cases e.label with
    | none => exact .null
    | some c => exact .text _

theorem Graph.within_toJson (g : Graph) (depth : Nat) : Json.Within (depth + 3) g.toJson := by
  refine .object fun member listed => ?_
  simp only [List.mem_cons, List.not_mem_nil, or_false] at listed
  rcases listed with rfl | rfl | rfl
  · exact .text _
  · refine .array fun item listed => ?_
    obtain ⟨n, -, rfl⟩ := List.mem_map.1 listed
    exact n.within_toJson depth
  · refine .array fun item listed => ?_
    obtain ⟨e, -, rfl⟩ := List.mem_map.1 listed
    exact e.within_toJson depth

/-! ## Malformed ids -/

/-- The value has the id where a node or an edge of a graph has one, whatever else it is. -/
inductive Graph.HoldsId (value : Json) : Json → Prop where
  | node {nodes node id} (listed : FieldOf ["name", "nodes", "edges"] "nodes" value (.array nodes))
      (member : node ∈ nodes) (field : FieldOf ["id", "kind", "label"] "id" node id) :
      HoldsId value id
  | edge {edges edge place id}
      (listed : FieldOf ["name", "nodes", "edges"] "edges" value (.array edges))
      (member : edge ∈ edges) (isEnd : place = "from" ∨ place = "to")
      (field : FieldOf ["from", "to", "kind", "label"] place edge id) : HoldsId value id

/-- Every id in a value that stands for a graph is the spelling of one. -/
theorem Graph.SpelledBy.exists_id {g : Graph} {id : Json} (spelled : Graph.SpelledBy value g)
    (holds : Graph.HoldsId value id) : ∃ found, NodeId.SpelledBy id found := by
  obtain @⟨nodes, edges, record, nodesSpelled, edgesSpelled⟩ := spelled
  cases holds with
  | @node listed node id among member field =>
      have same : listed = nodes := by simpa using record.mem_zip among
      subst same
      obtain ⟨n, nodeSpelled⟩ := Json.exists_of_forall₂ nodesSpelled node member
      obtain @⟨found, kind, fields, idSpelled, -⟩ := nodeSpelled
      have same : id = found := by simpa using fields.mem_zip field
      exact ⟨n.id, same ▸ idSpelled⟩
  | @edge listed edge place id among member isEnd field =>
      have same : listed = edges := by simpa using record.mem_zip among
      subst same
      obtain ⟨e, edgeSpelled⟩ := Json.exists_of_forall₂ edgesSpelled edge member
      obtain @⟨source, target, kind, label, fields, sourceSpelled, targetSpelled, -, -⟩ := edgeSpelled
      have given := fields.mem_zip field
      rcases isEnd with rfl | rfl
      · have same : id = source := by simpa using given
        exact ⟨e.source, same ▸ sourceSpelled⟩
      · have same : id = target := by simpa using given
        exact ⟨e.target, same ▸ targetSpelled⟩

theorem Graph.read_compact_toJson (g : Graph) : Json.read g.toJson.compact = some g.toJson :=
  Json.read_compact (g.within_toJson 124)

theorem Graph.read_pretty_toJson (g : Graph) : Json.read (g.toJson.pretty 0) = some g.toJson :=
  Json.read_pretty (g.within_toJson 124)

/-- A graph that is written reads back, from its value as from the text of it on one line or on
many. Of all values those are read that spell a graph; what is read from one has the same written
form however it was spelled, and this form reads back as well. One id that is none, in whichever
node or edge, and the value is refused. -/
theorem Graph.json_exact :
    (∀ g : Graph, g.Fits →
      Graph.ofJson? g.toJson = some g ∧
      (Json.read g.toJson.compact).bind Graph.ofJson? = some g ∧
      (Json.read (g.toJson.pretty 0)).bind Graph.ofJson? = some g) ∧
    (∀ value g, Graph.ofJson? value = some g ↔ Graph.SpelledBy value g) ∧
    (∀ value g, Graph.ofJson? value = some g → g.Fits ∧ Graph.ofJson? g.toJson = some g) ∧
    ∀ value id, Graph.HoldsId value id →
      (¬∃ text found, id = .text text ∧ NodeId.Spells text.toList found) →
      Graph.ofJson? value = none := by
  have back (g : Graph) (fits : g.Fits) : Graph.ofJson? g.toJson = some g :=
    Graph.ofJson?_eq_some_iff.2 (Graph.spelledBy_toJson fits)
  refine ⟨fun g fits => ⟨back g fits, ?_, ?_⟩, fun value g => Graph.ofJson?_eq_some_iff,
    fun value g read => ?_, fun value id holds malformed => ?_⟩
  · rw [g.read_compact_toJson, Option.bind_some, back g fits]
  · rw [g.read_pretty_toJson, Option.bind_some, back g fits]
  · have fits := (Graph.ofJson?_eq_some_iff.1 read).fits
    exact ⟨fits, back g fits⟩
  · refine Option.eq_none_iff_forall_ne_some.2 fun g read => ?_
    obtain ⟨found, ⟨spells⟩⟩ := (Graph.ofJson?_eq_some_iff.1 read).exists_id holds
    exact malformed ⟨_, found, rfl, spells⟩

end Flowgraph
