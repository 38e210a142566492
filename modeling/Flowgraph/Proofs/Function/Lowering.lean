import Flowgraph.Function.Lower
import Flowgraph.Proofs.Function.Execution
import Flowgraph.Proofs.Syntax.Address
import Mathlib.Algebra.GroupWithZero.Nat
import Mathlib.Data.List.Perm.Subperm

/-!
# Where statements come from

Lowering looks into the parts of a node that hold statements, as many levels deep as it is told. The
branches and loops of what it makes come from different nodes, each of which divides the path. So
there are at most as many of them as the score counts, and as many exactly when every node that
divides the path has become a branch or a loop.
-/

namespace Flowgraph

namespace Statement

def isChoice : Statement → Bool
  | .branch .. | .loop .. => true
  | _ => false

theorem preorderAll_eq_flatMap (body : List Statement) :
    preorderAll body = body.flatMap preorder := by
  induction body with
  | nil => rfl
  | cons s rest ih => rw [preorderAll, ih, List.flatMap_cons]

def choiceCount (s : Statement) : Nat := s.preorder.countP isChoice

end Statement

namespace SyntaxTree

/-! ## The parts of a node -/

def isStatement (t : SyntaxTree) : Bool := t.named && !t.isComment

def childrenWhere (t : SyntaxTree) (p : SyntaxTree → Bool) : List (List Nat × SyntaxTree) :=
  (t.children.zipIdx.filter fun x => p x.1).map fun x => ([x.2], x.1)

def fieldPart (t : SyntaxTree) (field : String) : Option (List Nat × SyntaxTree) :=
  (t.childrenWhere fun child => child.info.field == some field).head?

def elsePart (t : SyntaxTree) : Option (List Nat × SyntaxTree) :=
  if t.kind = "else_clause" then (t.childrenWhere isStatement).head? else some ([], t)

/-- The parts of a node that lowering looks into, with their addresses. -/
def parts (t : SyntaxTree) : List (List Nat × SyntaxTree) :=
  if t.kind = "statement_block" then t.childrenWhere isStatement
  else if t.kind = "if_statement" then
    (t.fieldPart "consequence").toList ++
      ((t.fieldPart "alternative").bind fun clause =>
        clause.2.elsePart.map fun part => (clause.1 ++ part.1, part.2)).toList
  else if (loopKind? t.kind).isSome then (t.fieldPart "body").toList
  else []

variable {t : SyntaxTree} {p : SyntaxTree → Bool} {x : List Nat × SyntaxTree}

theorem map_snd_childrenWhere (t : SyntaxTree) (p : SyntaxTree → Bool) :
    (t.childrenWhere p).map Prod.snd = t.children.filter p := by
  rw [childrenWhere, List.map_map]
  conv_rhs => rw [← List.zipIdx_map_fst 0 t.children, List.filter_map]
  rfl

theorem map_snd_fieldPart (t : SyntaxTree) (field : String) :
    (t.fieldPart field).map Prod.snd = t.childByField field := by
  rw [fieldPart, ← List.head?_map, map_snd_childrenWhere, List.head?_filter]
  rfl

theorem statementNodes_eq (t : SyntaxTree) : t.statementNodes = t.children.filter isStatement := by
  rw [statementNodes, namedChildren, List.filter_filter]
  exact List.filter_congr fun child _ => Bool.and_comm ..

theorem map_snd_elsePart (t : SyntaxTree) : t.elsePart.map Prod.snd = t.elseNode := by
  unfold elsePart elseNode
  split
  · rw [← List.head?_map, map_snd_childrenWhere, statementNodes_eq]
  · rfl

theorem mem_childrenWhere :
    x ∈ t.childrenWhere p ↔ ∃ i child, t.children[i]? = some child ∧ p child = true ∧
      x = ([i], child) := by
  simp only [childrenWhere, List.mem_map, List.mem_filter, List.mem_zipIdx_iff_getElem?, Prod.exists]
  constructor
  · rintro ⟨child, i, ⟨found, holds⟩, rfl⟩
    exact ⟨i, child, found, holds, rfl⟩
  · rintro ⟨i, child, found, holds, rfl⟩
    exact ⟨child, i, ⟨found, holds⟩, rfl⟩

theorem eq_of_fieldPart {field : String} (found : t.fieldPart field = some x) :
    ∃ i child, t.children[i]? = some child ∧ child.info.field = some field ∧ x = ([i], child) := by
  obtain ⟨i, child, atChild, fills, rfl⟩ := mem_childrenWhere.1 (List.mem_of_head? found)
  exact ⟨i, child, atChild, by simpa using fills, rfl⟩

theorem at?_child {i : Nat} {child : SyntaxTree} (atChild : t.children[i]? = some child) :
    t.at? [i] = some child := by
  rw [at?_cons, atChild]
  rfl

theorem at?_elsePart (part : t.elsePart = some x) : t.at? x.1 = some x.2 := by
  unfold elsePart at part
  split at part
  · obtain ⟨i, child, atChild, -, rfl⟩ := mem_childrenWhere.1 (List.mem_of_head? part)
    exact at?_child atChild
  · obtain rfl := Option.some.inj part
    rfl

/-- A part is the node at its address, which begins with the number of a child. -/
theorem at?_of_mem_parts (member : x ∈ t.parts) :
    t.at? x.1 = some x.2 ∧ ∃ i rest, x.1 = i :: rest := by
  unfold parts at member
  split at member
  · obtain ⟨i, child, atChild, -, rfl⟩ := mem_childrenWhere.1 member
    exact ⟨at?_child atChild, i, [], rfl⟩
  split at member
  · rcases List.mem_append.1 member with consequent | alternate
    · obtain ⟨i, child, atChild, -, rfl⟩ := eq_of_fieldPart (Option.mem_toList.1 consequent)
      exact ⟨at?_child atChild, i, [], rfl⟩
    · obtain ⟨clause, found, inClause⟩ := Option.bind_eq_some_iff.1 (Option.mem_toList.1 alternate)
      obtain ⟨part, isPart, rfl⟩ := Option.map_eq_some_iff.1 inClause
      obtain ⟨i, child, atChild, -, rfl⟩ := eq_of_fieldPart found
      refine ⟨?_, i, part.1, rfl⟩
      rw [at?_append, at?_child atChild]
      exact at?_elsePart isPart
  split at member
  · obtain ⟨i, child, atChild, -, rfl⟩ := eq_of_fieldPart (Option.mem_toList.1 member)
    exact ⟨at?_child atChild, i, [], rfl⟩
  · cases member

theorem nodup_childrenWhere (t : SyntaxTree) (p : SyntaxTree → Bool) :
    ((t.childrenWhere p).map fun x => x.1.head?).Nodup := by
  have numbers : (t.children.zipIdx.map (some ∘ Prod.snd)).Nodup := by
    rw [← List.map_map, List.zipIdx_map_snd]
    exact List.Nodup.map (fun _ _ => Option.some.inj) List.nodup_range'
  rw [childrenWhere, List.map_map]
  exact numbers.sublist (List.filter_sublist.map _)

/-- Different parts of a node are in different children of it. -/
theorem nodup_parts (t : SyntaxTree) : (t.parts.map fun x => x.1.head?).Nodup := by
  have single : ∀ part : Option (List Nat × SyntaxTree),
      (part.toList.map fun x => x.1.head?).Nodup := by
    intro part
    cases part <;> simp
  unfold parts
  split
  · exact t.nodup_childrenWhere _
  split
  · rw [List.map_append, List.nodup_append]
    refine ⟨single _, single _, ?_⟩
    intro first inFirst second inSecond
    obtain ⟨x, consequent, rfl⟩ := List.mem_map.1 inFirst
    obtain ⟨y, alternate, rfl⟩ := List.mem_map.1 inSecond
    obtain ⟨i, child, atChild, fills, rfl⟩ := eq_of_fieldPart (Option.mem_toList.1 consequent)
    obtain ⟨clause, found, inClause⟩ := Option.bind_eq_some_iff.1 (Option.mem_toList.1 alternate)
    obtain ⟨part, -, rfl⟩ := Option.map_eq_some_iff.1 inClause
    obtain ⟨j, other, atOther, fillsOther, rfl⟩ := eq_of_fieldPart found
    intro same
    obtain rfl : i = j := Option.some.inj same
    rw [atChild, Option.some.injEq] at atOther
    rw [atOther, fillsOther] at fills
    simp at fills
  split
  · exact single _
  · exact List.nodup_nil

end SyntaxTree

/-! ## What lowering makes of the parts -/

namespace Statement

/-- What a statement is listed as before what is within it: itself, or nothing for a block. -/
def listed : Statement → List Statement
  | .block .. => []
  | s => [s]

theorem preorder_branch (span : Span) (test : String) (consequent : Statement)
    (alternate : Option Statement) :
    (branch span test consequent alternate).preorder =
      branch span test consequent alternate ::
        (consequent.preorder ++ alternate.toList.flatMap preorder) := by
  cases alternate <;> simp [preorder]

theorem countP_isChoice_listed (s : Statement) :
    s.listed.countP isChoice = if s.isChoice then 1 else 0 := by
  cases s <;> rfl

end Statement

namespace SyntaxTree

variable (source : String) {t : SyntaxTree} (lower : SyntaxTree → Statement)

/-- The statement that a part becomes, or an empty block where there is none. -/
def partWith (part : Option SyntaxTree) (span : Span) : Statement :=
  (part.map lower).getD (.emptyBlock span)

/-- One level of lowering: the statement of a node, given what its parts become. -/
def lowerWith (t : SyntaxTree) : Statement :=
  if t.kind = "statement_block" then .block t.span (t.statementNodes.map lower)
  else if t.kind = "if_statement" then
    .branch t.span (((t.childByField "condition").map (·.conditionText source)).getD "")
      (partWith lower (t.childByField "consequence") t.span)
      ((t.childByField "alternative").map fun clause => partWith lower clause.elseNode clause.span)
  else if t.kind = "return_statement" then .return t.span
  else
    match loopKind? t.kind with
    | some kind => .loop t.span kind (partWith lower (t.childByField "body") t.span)
    | none => t.whole source

theorem lowerWith_block (kind : t.kind = "statement_block") :
    t.lowerWith source lower = .block t.span (t.statementNodes.map lower) := by
  rw [lowerWith, if_pos kind]

theorem lowerWith_if (kind : t.kind = "if_statement") :
    t.lowerWith source lower =
      .branch t.span (((t.childByField "condition").map (·.conditionText source)).getD "")
        (partWith lower (t.childByField "consequence") t.span)
        ((t.childByField "alternative").map fun clause =>
          partWith lower clause.elseNode clause.span) := by
  have other : t.kind ≠ "statement_block" := by simp [kind]
  rw [lowerWith, if_neg other, if_pos kind]

theorem ne_of_loopKind? {name : String} {kind : LoopKind} (isLoop : loopKind? name = some kind) :
    name ≠ "statement_block" ∧ name ≠ "if_statement" ∧ name ≠ "return_statement" := by
  refine ⟨?_, ?_, ?_⟩ <;> rintro rfl <;> simp [loopKind?] at isLoop

theorem lowerWith_loop {kind : LoopKind} (isLoop : loopKind? t.kind = some kind) :
    t.lowerWith source lower =
      .loop t.span kind (partWith lower (t.childByField "body") t.span) := by
  obtain ⟨noBlock, noBranch, noReturn⟩ := ne_of_loopKind? isLoop
  rw [lowerWith, if_neg noBlock, if_neg noBranch, if_neg noReturn, isLoop]

theorem lowerWith_other (noBlock : t.kind ≠ "statement_block") (noBranch : t.kind ≠ "if_statement")
    (noLoop : loopKind? t.kind = none) :
    t.lowerWith source lower = .return t.span ∨ t.lowerWith source lower = t.whole source := by
  rw [lowerWith, if_neg noBlock, if_neg noBranch]
  split
  · exact .inl rfl
  · exact .inr (by rw [noLoop])

/-- Lowering looks into one level and into the remaining ones of the parts. -/
theorem statement_succ (levels : Nat) (t : SyntaxTree) :
    t.statement source (levels + 1) = t.lowerWith source (statement source levels) := by
  rw [statement, lowerWith]
  split
  · rfl
  split
  · congr 1
    · cases t.childByField "consequence" <;> rfl
    · refine congrArg (Option.map · _) (funext fun clause => ?_)
      cases clause.elseNode <;> rfl
  split
  · rfl
  · cases loopKind? t.kind with
    | none => rfl
    | some kind => cases t.childByField "body" <;> rfl

theorem preorder_partWith (part : Option (List Nat × SyntaxTree)) (span : Span) :
    (partWith lower (part.map Prod.snd) span).preorder =
      part.toList.flatMap fun x => (lower x.2).preorder := by
  cases part with
  | none => rfl
  | some x => simp [partWith]

/-- The statements listed for a node are its own, unless that is a block, and those of its parts. -/
theorem preorder_lowerWith (t : SyntaxTree) :
    (t.lowerWith source lower).preorder =
      (t.lowerWith source lower).listed ++ t.parts.flatMap fun x => (lower x.2).preorder := by
  by_cases block : t.kind = "statement_block"
  · rw [lowerWith_block source lower block, Statement.preorder, Statement.preorderAll_eq_flatMap,
      statementNodes_eq, ← map_snd_childrenWhere, parts, if_pos block, List.map_map,
      List.flatMap_map]
    rfl
  by_cases branch : t.kind = "if_statement"
  · have consequent := preorder_partWith lower (t.fieldPart "consequence") t.span
    rw [map_snd_fieldPart] at consequent
    rw [lowerWith_if source lower branch, Statement.preorder_branch, consequent, parts,
      if_neg block, if_pos branch, List.flatMap_append, ← map_snd_fieldPart t "alternative"]
    cases t.fieldPart "alternative" with
    | none => rfl
    | some clause =>
        have alternate := preorder_partWith lower clause.2.elsePart clause.2.span
        rw [map_snd_elsePart] at alternate
        cases part : clause.2.elsePart <;> simp [part, alternate, Statement.listed]
  cases loop : loopKind? t.kind with
  | some kind =>
      have body : t.parts = (t.fieldPart "body").toList := by simp [parts, block, branch, loop]
      rw [lowerWith_loop source lower loop, Statement.preorder, ← map_snd_fieldPart,
        preorder_partWith, body]
      rfl
  | none =>
      have empty : t.parts = [] := by simp [parts, block, branch, loop]
      rw [empty]
      rcases lowerWith_other source lower block branch loop with same | same
      · rw [same]
        rfl
      · rw [same]
        rfl

theorem preorder_statement (levels : Nat) (t : SyntaxTree) :
    (t.statement source (levels + 1)).preorder =
      (t.statement source (levels + 1)).listed ++
        t.parts.flatMap fun x => (x.2.statement source levels).preorder := by
  rw [statement_succ, preorder_lowerWith]

/-- The branches and loops that a node becomes are its own, if it is one, and those of its parts. -/
theorem choiceCount_statement (levels : Nat) (t : SyntaxTree) :
    (t.statement source (levels + 1)).choiceCount =
      (if (t.statement source (levels + 1)).isChoice then 1 else 0) +
        (t.parts.map fun x => (x.2.statement source levels).choiceCount).sum := by
  rw [Statement.choiceCount, preorder_statement, List.countP_append,
    Statement.countP_isChoice_listed, List.countP_flatMap]
  rfl

theorem isDecision_of_isChoice (levels : Nat)
    (choice : (t.statement source levels).isChoice = true) : t.isDecision = true := by
  cases levels with
  | zero => cases choice
  | succ levels =>
      have divides : ∀ name ∈ dividingKinds, t.kind = name → t.isDecision = true := by
        intro name member same
        simp [isDecision, same, member]
      rw [statement_succ] at choice
      by_cases branch : t.kind = "if_statement"
      · exact divides _ (by simp [dividingKinds]) branch
      by_cases block : t.kind = "statement_block"
      · rw [lowerWith_block source _ block] at choice
        cases choice
      cases loop : loopKind? t.kind with
      | some kind =>
          refine divides t.kind ?_ rfl
          unfold loopKind? at loop
          split at loop <;> simp_all [dividingKinds]
      | none =>
          rcases lowerWith_other source _ block branch loop with same | same <;>
            rw [same] at choice <;> cases choice

end SyntaxTree

/-! ## The nodes that lowering makes statements of -/

namespace SyntaxTree

/-- Looking into so many levels of a node, lowering comes to the node at an address below it and
makes a statement of that node. -/
inductive Lowers (source : String) : Nat → SyntaxTree → List Nat → Statement → Prop
  | here {levels : Nat} {t : SyntaxTree} : Lowers source levels t [] (t.statement source levels)
  | within {levels : Nat} {t part : SyntaxTree} {first rest : List Nat} {s : Statement} :
      (first, part) ∈ t.parts → Lowers source levels part rest s →
      Lowers source (levels + 1) t (first ++ rest) s

def choiceSites (source : String) : Nat → SyntaxTree → List (List Nat)
  | 0, _ => []
  | levels + 1, t =>
      (if (t.statement source (levels + 1)).isChoice then [[]] else []) ++
        t.parts.flatMap fun x => (choiceSites source levels x.2).map (x.1 ++ ·)

variable {source : String} {levels : Nat} {t : SyntaxTree} {address : List Nat}

theorem mem_choiceSites :
    address ∈ choiceSites source levels t ↔
      ∃ s, Lowers source levels t address s ∧ s.isChoice = true := by
  constructor
  · intro member
    induction levels generalizing t address with
    | zero => cases member
    | succ levels ih =>
        rw [choiceSites, List.mem_append] at member
        rcases member with own | inPart
        · split at own
          · next choice =>
              obtain rfl := List.mem_singleton.1 own
              exact ⟨_, .here, choice⟩
          · cases own
        · obtain ⟨⟨first, part⟩, isPart, inPart⟩ := List.mem_flatMap.1 inPart
          obtain ⟨rest, inRest, rfl⟩ := List.mem_map.1 inPart
          obtain ⟨s, lowers, choice⟩ := ih inRest
          exact ⟨s, .within isPart lowers, choice⟩
  · rintro ⟨s, lowers, choice⟩
    induction lowers with
    | @here levels t =>
        cases levels with
        | zero => cases choice
        | succ levels =>
            rw [choiceSites, if_pos choice]
            exact List.mem_cons_self ..
    | within isPart _ ih =>
        refine List.mem_append_right _ (List.mem_flatMap.2 ⟨_, isPart, ?_⟩)
        exact List.mem_map_of_mem (ih choice)

theorem length_choiceSites (source : String) (levels : Nat) (t : SyntaxTree) :
    (choiceSites source levels t).length = (t.statement source levels).choiceCount := by
  induction levels generalizing t with
  | zero => rfl
  | succ levels ih =>
      rw [choiceSites, choiceCount_statement, List.length_append, List.length_flatMap]
      simp only [List.length_map, ih]
      congr 1
      split <;> rfl

theorem nodup_choiceSites (source : String) (levels : Nat) (t : SyntaxTree) :
    (choiceSites source levels t).Nodup := by
  induction levels generalizing t with
  | zero => exact List.nodup_nil
  | succ levels ih =>
      have apart : t.parts.Pairwise fun x y => x.1.head? ≠ y.1.head? :=
        List.pairwise_map.1 t.nodup_parts
      have inPart : ∀ x ∈ t.parts, ∀ {address},
          address ∈ (choiceSites source levels x.2).map (x.1 ++ ·) →
            address.head? = x.1.head? ∧ address ≠ [] := by
        intro x isPart address member
        obtain ⟨rest, -, rfl⟩ := List.mem_map.1 member
        obtain ⟨-, i, more, nonempty⟩ := at?_of_mem_parts isPart
        simp [nonempty]
      rw [choiceSites, List.nodup_append, List.nodup_flatMap]
      refine ⟨by split <;> simp, ⟨fun x _ => ?_, apart.imp_of_mem fun {x y} hx hy ne => ?_⟩, ?_⟩
      · exact (ih x.2).map fun _ _ => List.append_cancel_left
      · intro address inFirst inSecond
        exact ne ((inPart x hx inFirst).1.symm.trans (inPart y hy inSecond).1)
      · intro own inOwn below inParts
        obtain ⟨x, isPart, member⟩ := List.mem_flatMap.1 inParts
        have nonempty := (inPart x isPart member).2
        split at inOwn
        · exact List.mem_singleton.1 inOwn ▸ nonempty.symm
        · cases inOwn

/-- Nodes that become branches and loops divide the path. -/
theorem choiceSites_subset (source : String) (levels : Nat) (t : SyntaxTree) :
    choiceSites source levels t ⊆ t.decisionSites := by
  intro address member
  obtain ⟨s, lowers, choice⟩ := mem_choiceSites.1 member
  refine mem_decisionSites.2 ?_
  clear member
  induction lowers with
  | here => exact ⟨_, rfl, isDecision_of_isChoice _ _ choice⟩
  | within isPart _ ih =>
      obtain ⟨u, found, divides⟩ := ih choice
      exact ⟨u, by rw [at?_append, (at?_of_mem_parts isPart).1]; exact found, divides⟩

/-- There are no more branches and loops than nodes that divide the path, and as many only if each
such node has become one. -/
theorem choiceCount_le (source : String) (levels : Nat) (t : SyntaxTree) :
    (t.statement source levels).choiceCount ≤ t.decisions ∧
      (t.decisions = (t.statement source levels).choiceCount ↔
        ∀ address u, t.at? address = some u → u.isDecision = true →
          ∃ s, Lowers source levels t address s ∧ s.isChoice = true) := by
  rw [← length_choiceSites, ← length_decisionSites]
  have sub := (nodup_choiceSites source levels t).subperm (choiceSites_subset source levels t)
  refine ⟨sub.length_le, ?_⟩
  constructor
  · intro same address u found divides
    have perm := sub.perm_of_length_le (Nat.le_of_eq same)
    exact mem_choiceSites.1 (perm.mem_iff.2 (mem_decisionSites.2 ⟨u, found, divides⟩))
  · intro all
    refine Nat.le_antisymm (List.Subperm.length_le ?_) sub.length_le
    refine (nodup_decisionSites t).subperm fun address member => ?_
    obtain ⟨u, found, divides⟩ := mem_decisionSites.1 member
    exact mem_choiceSites.2 (all address u found divides)

end SyntaxTree

end Flowgraph
