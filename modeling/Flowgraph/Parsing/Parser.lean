import Flowgraph.Parsing.Stack

/-!
# The parser

Several readings of a text advance side by side, one token at a time. A token is looked for among
those that the reading's state allows. Where the tables leave several actions open, each is
followed. A reading that gets stuck is paused, and taken up again for recovery only if no other one
goes on.
-/

namespace Flowgraph

/-- A language as the parser sees it: its tables and its scanner for tokens that depend on more than
their own shape. The scanner is told which of the external tokens are allowed and returns the number
of one with its extent. -/
structure Dialect where
  tables : Tables
  scan : (Nat → Bool) → Source → Nat → Option (Nat × Nat × Nat)

structure Parser where
  automaton : Automaton
  stack : Stack
  finished : Option Subtree
  accepts : Nat

namespace Parser

def maxVersions : Nat := 6
def maxVersionOverflow : Nat := 4
def maxSummaryDepth : Nat := 16
def maxCostDifference : Nat := 18 * Subtree.skippedTreeCost

def initial (d : Dialect) : Parser :=
  { automaton := Automaton.initial d.tables, stack := Stack.initial, finished := none, accepts := 0 }

def actionsAt (d : Dialect) (p : Parser) (state : Nat) (x : Sym) : List Action × Parser :=
  let (acts, automaton) := p.automaton.actionsAt d.tables state x
  (acts, { p with automaton })

def goto (d : Dialect) (p : Parser) (state : Nat) (x : Sym) : Option Nat × Parser :=
  let (target, automaton) := p.automaton.goto d.tables state x
  (target, { p with automaton })

def stateAt (p : Parser) (state : Nat) : AutomatonState := p.automaton.states.getD state default

/-- Whether a terminal may come next in a state; in the error state any may. -/
def allows (p : Parser) (state : Nat) (x : Sym) : Bool := (p.stateAt state).valid.testBit x

/-! ## Reading a token -/

/-- A token as it was found: its terminal (`none` for text that begins no token) and its extent. -/
structure Found where
  symbol : Option Sym
  start : Nat
  stop : Nat

def readAt (d : Dialect) (src : Source) (st : AutomatonState) (acceptEmpty : Sym → Bool)
    (pos : Nat) : Found ⊕ (Nat × Nat) :=
  let g := d.tables.grammar
  let allowed (i : Nat) : Bool := st.valid.testBit (g.external.getD i 0)
  let external : Option Found := match d.scan allowed src pos with
    | some (i, start, stop) =>
        let s := g.external.getD i 0
        if stop ≤ pos && !(acceptEmpty s) then none else some ⟨some s, start, stop⟩
    | none => none
  match external with
  | some found => .inl found
  | none =>
      match g.lexicon.scan src.chars st.candidates (st.valid.testBit 0) pos with
      | .found m => .inl ⟨some (match m.token with | some t => t + 1 | none => 0), m.start, m.stop⟩
      | .failed start stop => .inr (start, stop)

/-- Skips characters until some token of the language begins, or the text ends. The skipped text is
reported from `start` to `stop`. -/
def skipTo (d : Dialect) (src : Source) (st : AutomatonState) :
    Nat → Nat → Option (Nat × Nat) → Found
  | 0, pos, skipped =>
      let (start, stop) := skipped.getD (pos, pos)
      ⟨none, start, stop⟩
  | fuel + 1, pos, skipped =>
      match readAt d src st (fun _ => false) pos with
      | .inl found =>
          match skipped with
          | some (start, stop) => ⟨none, start, stop⟩
          | none => found
      | .inr (start, reached) =>
          let (begin, stop) := skipped.getD (start, start)
          if reached = stop then
            if src.size ≤ reached then ⟨none, begin, stop⟩
            else skipTo d src st fuel (reached + 1) (some (begin, reached + 1))
          else skipTo d src st fuel reached (some (begin, reached))

/-- The next token of a reading in state `state`. A word is a keyword where that keyword may come
next or is reserved. -/
def lex (d : Dialect) (src : Source) (p : Parser) (version state : Nat) : Subtree :=
  let g := d.tables.grammar
  let pos := p.stack.position version
  let st := p.stateAt state
  let advanced := p.stack.advancedSinceError version
  let acceptEmpty (s : Sym) : Bool :=
    state != Automaton.errorState && advanced && !(g.extras.contains s)
  let found := match readAt d src st acceptEmpty pos with
    | .inl found => found
    | .inr _ => skipTo d src (p.stateAt Automaton.errorState) (2 * (src.size + 2)) pos none
  match found.symbol with
  | none => Subtree.errorLeaf pos found.start found.stop
  | some s =>
      if s = g.word then
        match g.keywords[src.slice found.start found.stop]? with
        | some k =>
            let s := if p.allows state k || st.reserved.contains k then k else s
            Subtree.leaf s pos found.start found.stop true
        | none => Subtree.leaf s pos found.start found.stop false
      else Subtree.leaf s pos found.start found.stop false

/-! ## Reducing and accepting -/

/-- Whether a popped group of trees is taken instead of the ones already in `parent`. -/
def prefersChildren (d : Dialect) (src : Source) (parent : Subtree) (trees : Array Subtree) : Bool :=
  parent.prefersRight
    (Subtree.node d.tables src parent.form parent.symbol parent.stop trees)

def groupSlices : List Slice → List (Nat × List (Array Subtree))
  | [] => []
  | s :: rest =>
      match groupSlices rest with
      | (v, group) :: others =>
          if v = s.version then (v, s.trees :: group) :: others
          else (s.version, [s.trees]) :: (v, group) :: others
      | [] => [(s.version, [s.trees])]

/-- Joins a new head into the first head before it that is alike, other than `version`. -/
def mergeBack (g : Grammar) (version new : Nat) : Nat → Nat → Stack → Bool × Stack
  | 0, _, s => (false, s)
  | fuel + 1, j, s =>
      if new ≤ j then (false, s)
      else if j = version then mergeBack g version new fuel (j + 1) s
      else
        let (merged, s) := s.merge g j new
        if merged then (true, s) else mergeBack g version new fuel (j + 1) s

def reduceGroup (d : Dialect) (src : Source) (version production : Nat) (sym : Sym) (weight : Int)
    (group : Nat × List (Array Subtree)) (removed : Nat) (p : Parser) : Nat × Parser :=
  let g := d.tables.grammar
  let v := group.1 - removed
  if maxVersions + maxVersionOverflow < v then
    (removed + 1, { p with stack := p.stack.removeVersion v })
  else
    match group.2 with
    | [] => (removed, p)
    | first :: others =>
        let pos := p.stack.position v
        let make (trees : Array Subtree) : Subtree × Array Subtree :=
          let (children, extras) := Subtree.splitTrailingExtras trees
          (Subtree.node d.tables src (.derived production) sym pos children, extras)
        let (parent, extras) := others.foldl (fun (acc : Subtree × Array Subtree) trees =>
          let (children, _) := Subtree.splitTrailingExtras trees
          if prefersChildren d src acc.1 children then make trees else acc) (make first)
        let parent := { parent with weight := parent.weight + weight }
        let (target, p) := p.goto d (p.stack.state v) sym
        let next := target.getD Automaton.errorState
        let stack := p.stack.push g v (some parent) next
        let stack := extras.foldl (fun s e => s.push g v (some e) next) stack
        let (merged, stack) := mergeBack g version v (v + 1) 0 stack
        (if merged then removed + 1 else removed, { p with stack })

/-- Reduces by a production on head `version`. The results are new heads; the first of them is
returned. -/
def reduce (d : Dialect) (src : Source) (p : Parser) (version production : Nat) :
    Option Nat × Parser :=
  match d.tables.productions[production]? with
  | none => (none, p)
  | some prod =>
      let before := p.stack.size
      let (slices, stack) := p.stack.popCount version prod.steps.size
      let (_, p) := (groupSlices slices.toList).foldl (fun (acc : Nat × Parser) group =>
        reduceGroup d src version production prod.head prod.weight group acc.1 acc.2)
        (0, { p with stack })
      (if before < p.stack.size then some before else none, p)

/-- The root over all trees of a finished reading: what surrounds the last tree that is not extra
joins that tree's children. -/
def rootOf (d : Dialect) (src : Source) (trees : Array Subtree) : Option Subtree :=
  let indexed := trees.toList.zipIdx
  match indexed.reverse.find? fun (t, _) => !t.extra with
  | none => none
  | some (t, i) =>
      let all := trees.extract 0 i ++ t.children ++ trees.extract (i + 1) trees.size
      some (Subtree.node d.tables src t.form t.symbol t.stop all)

/-- Ends a reading at the end of the text; the better of the finished readings is kept. -/
def accept (d : Dialect) (src : Source) (p : Parser) (version : Nat) (lookahead : Subtree) :
    Parser :=
  let stack := p.stack.push d.tables.grammar version (some lookahead) Automaton.startState
  let (slices, stack) := stack.popAll version
  let p := { p with stack }
  let p := slices.foldl (fun p slice =>
    match rootOf d src slice.trees with
    | none => p
    | some root =>
        { p with
          accepts := p.accepts + 1
          finished := match p.finished with
            | some old => if old.prefersRight root then some root else some old
            | none => some root }) p
  let stack := match slices[0]? with
    | some slice => p.stack.removeVersion slice.version
    | none => p.stack
  { p with stack := stack.halt version }

/-! ## Comparing readings -/

structure Standing where
  cost : Nat
  count : Nat
  weight : Int
  inError : Bool

inductive Preference where
  | takeLeft
  | preferLeft
  | neither
  | preferRight
  | takeRight

def standing (p : Parser) (v : Nat) : Standing :=
  let paused := p.stack.isPaused v
  { cost := p.stack.cost v + if paused then Subtree.skippedTreeCost else 0
    count := p.stack.countSinceError v
    weight := (p.stack.top v).weight
    inError := paused || p.stack.state v = Automaton.errorState }

def compareStandings (a b : Standing) : Preference :=
  if !a.inError && b.inError then
    if a.cost < b.cost then .takeLeft else .preferLeft
  else if a.inError && !b.inError then
    if b.cost < a.cost then .takeRight else .preferRight
  else if a.cost < b.cost then
    if maxCostDifference < (b.cost - a.cost) * (1 + a.count) then .takeLeft else .preferLeft
  else if b.cost < a.cost then
    if maxCostDifference < (a.cost - b.cost) * (1 + b.count) then .takeRight else .preferRight
  else if b.weight < a.weight then .preferLeft
  else if a.weight < b.weight then .preferRight
  else .neither

def betterExists (p : Parser) (version cost : Nat) : Bool :=
  let finishedBetter := match p.finished with
    | some t => t.cost ≤ cost
    | none => false
  finishedBetter ||
    (let here := p.stack.position version
     let own : Standing :=
       { cost, count := p.stack.countSinceError version, weight := (p.stack.top version).weight
         inError := false }
     (List.range p.stack.size).any fun i =>
       i != version && p.stack.isActive i && here ≤ p.stack.position i &&
         match compareStandings own (p.standing i) with
         | .takeRight => true
         | .preferRight => p.stack.canMerge i version
         | _ => false)

/-! ## Recovery -/

/-- The reductions a state allows on some terminal, and whether it can shift one. -/
def potential (d : Dialect) (p : Parser) (state : Nat) (terminals : List Sym) :
    Bool × List Nat × Parser :=
  terminals.foldl (fun (acc : Bool × List Nat × Parser) x =>
    let (shifts, reductions, p) := acc
    let (acts, p) := p.actionsAt d state x
    acts.foldl (fun (acc : Bool × List Nat × Parser) act =>
      let (shifts, reductions, p) := acc
      match act with
      | .shift _ => (true, reductions, p)
      | .reduce n =>
          let same (m : Nat) : Bool :=
            match d.tables.productions[n]?, d.tables.productions[m]? with
            | some a, some b => a.head = b.head && a.steps.size = b.steps.size
            | _, _ => false
          let empty := match d.tables.productions[n]? with
            | some a => a.steps.isEmpty
            | none => true
          if empty || reductions.any same then (shifts, reductions, p)
          else (shifts, reductions ++ [n], p)
      | _ => (shifts, reductions, p)) (shifts, reductions, p)) (false, [], p)

/-- Performs every reduction possible on head `version`, whatever comes next, or only with the
terminal `lookahead` next; tells whether that terminal can then be shifted. -/
def reduceAll (d : Dialect) (src : Source) (origin initialSize : Nat) (lookahead : Option Sym) :
    Nat → Nat → Nat → Bool → Parser → Bool × Parser
  | 0, _, _, able, p => (able, p)
  | fuel + 1, round, version, able, p =>
      let g := d.tables.grammar
      let size := p.stack.size
      if size ≤ version then (able, p)
      else
        let (merged, stack) := (List.range (version - initialSize)).foldl
          (fun (acc : Bool × Stack) i =>
            if acc.1 then acc else acc.2.merge g (initialSize + i) version) (false, p.stack)
        let p := { p with stack }
        if merged then reduceAll d src origin initialSize lookahead fuel (round + 1) version able p
        else
          let state := p.stack.state version
          let terminals := match lookahead with
            | some x => [x]
            | none => (List.range g.terminalCount).drop 1
          let (shifts, reductions, p) := p.potential d state terminals
          let (result, p) := reductions.foldl (fun (acc : Option Nat × Parser) n =>
            acc.2.reduce d src version n) (none, p)
          let able := able || shifts
          let next (p : Parser) : Bool × Parser :=
            reduceAll d src origin initialSize lookahead fuel (round + 1)
              (if version = origin then size else version + 1) able p
          match shifts, result with
          | false, some r =>
              if round < maxVersions then
                reduceAll d src origin initialSize lookahead fuel (round + 1) version able
                  { p with stack := p.stack.renumber r version }
              else if lookahead.isSome then next { p with stack := p.stack.removeVersion version }
              else next p
          | true, _ => next p
          | false, none =>
              if lookahead.isSome then next { p with stack := p.stack.removeVersion version }
              else next p

def reduceAllFrom (d : Dialect) (src : Source) (p : Parser) (version : Nat)
    (lookahead : Option Sym) : Bool × Parser :=
  reduceAll d src version p.stack.size lookahead (4 * (p.stack.nodes.size + 100)) 0 version false p

def canReduce (d : Dialect) (p : Parser) (state : Nat) (x : Sym) : Bool × Parser :=
  if x = Subtree.errorSymbol then (false, p)
  else
    let (acts, p) := p.actionsAt d state x
    (acts.any fun a => match a with | .reduce _ => true | _ => false, p)

/-- The state after shifting a terminal that is not extra, if that is what the tables choose
last. -/
def shiftTarget (d : Dialect) (p : Parser) (state : Nat) (x : Sym) : Option Nat × Parser :=
  let (acts, p) := p.actionsAt d state x
  (match acts.getLast? with
    | some (.shift target) | some (.shiftRepetition target) => some target
    | _ => none, p)

def supplyMissing (d : Dialect) (src : Source) (version : Nat) (lookahead : Subtree) :
    List Sym → Parser → Bool × Parser
  | [], p => (false, p)
  | x :: rest, p =>
      let state := p.stack.state version
      let (target, p) := p.shiftTarget d state x
      match target with
      | none => supplyMissing d src version lookahead rest p
      | some next =>
          let (reducible, p) := p.canReduce d next lookahead.symbol
          if next = state || !reducible then supplyMissing d src version lookahead rest p
          else
            let (copy, stack) := p.stack.copyVersion version
            let missing := Subtree.missingLeaf x (stack.position version)
            let stack := stack.push d.tables.grammar copy (some missing) next
            let (able, p) := reduceAllFrom d src { p with stack } copy
              (if lookahead.isEnd then none else some lookahead.symbol)
            if able then (true, p) else supplyMissing d src version lookahead rest p

/-- Goes back to a state left behind and wraps everything since then in an error. -/
def recoverTo (d : Dialect) (src : Source) (p : Parser) (version depth goal : Nat) :
    Bool × Parser :=
  let g := d.tables.grammar
  let (slices, stack) := p.stack.popCount version depth
  let (recovered, _, p) := slices.foldl
    (fun (acc : Bool × Option Nat × Parser) slice =>
      let (recovered, previous, p) := acc
      if previous = some slice.version then acc
      else if p.stack.state slice.version != goal then
        (recovered, previous, { p with stack := p.stack.halt slice.version })
      else
        let (errors, stack) := p.stack.popError slice.version
        let older := ((errors[0]?).map (·.children)).getD #[]
        let (children, extras) := Subtree.splitTrailingExtras (older ++ slice.trees)
        let pos := stack.position slice.version
        let stack := if children.isEmpty then stack
          else stack.push g slice.version
            (some (Subtree.errorNode d.tables src pos children true)) goal
        let stack := extras.foldl (fun s e => s.push g slice.version (some e) goal) stack
        (true, some slice.version, { p with stack }))
    (false, none, { p with stack })
  (recovered, p)

def dropInactive (first : Nat) (s : Stack) : Stack :=
  (List.range s.size).reverse.foldl (fun s i =>
    if first ≤ i && !s.isActive i then s.removeVersion i else s) s

def cutBack (d : Dialect) (src : Source) (version : Nat) (lookahead : Subtree)
    (position count cost size : Nat) : List SummaryEntry → Parser → Bool × Parser
  | [], p => (false, p)
  | entry :: rest, p =>
      if entry.state = Automaton.errorState || entry.position = position then
        cutBack d src version lookahead position count cost size rest p
      else
        let depth := if 0 < count then entry.depth + 1 else entry.depth
        let redundant := (List.range size).any fun j =>
          p.stack.state j = entry.state && p.stack.position j = position
        if redundant then cutBack d src version lookahead position count cost size rest p
        else
          let newCost := cost + Subtree.skippedTreeCost * entry.depth
            + Subtree.skippedCharCost * (src.byteAt position - src.byteAt entry.position)
            + Subtree.skippedLineCost * (src.rowAt position - src.rowAt entry.position)
          if p.betterExists version newCost then (false, p)
          else if p.allows entry.state lookahead.symbol then
            let (recovered, p) := p.recoverTo d src version depth entry.state
            if recovered then (true, p)
            else cutBack d src version lookahead position count cost size rest p
          else cutBack d src version lookahead position count cost size rest p

/-- Deals with a token in the error state: goes back to a state in which it fits, and also skips
it. -/
def recover (d : Dialect) (src : Source) (p : Parser) (version : Nat) (lookahead : Subtree) :
    Parser :=
  let g := d.tables.grammar
  let size := p.stack.size
  let position := p.stack.position version
  let p := { p with stack := p.stack.settleCount version }
  let count := p.stack.countSinceError version
  let cost := p.stack.cost version
  let (recovered, p) := if lookahead.isError then (false, p)
    else cutBack d src version lookahead position count cost size
      (p.stack.head version).summary.toList p
  let p := { p with stack := dropInactive size p.stack }
  if lookahead.isEnd then
    let wrapped := Subtree.errorNode d.tables src position #[] false
    let p := { p with
      stack := p.stack.push g version (some wrapped) Automaton.startState }
    p.accept d src version lookahead
  else if recovered && maxVersions < p.stack.size then
    { p with stack := p.stack.halt version }
  else
    let newCost := cost + Subtree.skippedTreeCost
      + Subtree.skippedCharCost * (src.byteAt lookahead.stop - src.byteAt lookahead.lead)
      + Subtree.skippedLineCost * (src.rowAt lookahead.stop - src.rowAt lookahead.lead)
    if p.betterExists version newCost then { p with stack := p.stack.halt version }
    else
      let lookahead := if g.extras.contains lookahead.symbol && !lookahead.isError
        then { lookahead with extra := true } else lookahead
      let skip (trees : Array Subtree) : Subtree :=
        Subtree.node d.tables src .skipped Subtree.skippedSymbol position trees
      let one := skip #[lookahead]
      let (tree, stack) :=
        if 0 < count then
          let (slices, stack) := p.stack.popCount version 1
          match slices[0]? with
          | none => (one, stack)
          | some slice =>
              let stack := (List.range (stack.size - (slice.version + 1))).foldl
                (fun (s : Stack) _ =>
                  if 1 < slices.size && slice.version + 1 < s.size
                  then s.removeVersion (slice.version + 1) else s) stack
              (skip (slice.trees.push one), stack.renumber slice.version version)
        else (one, p.stack)
      { p with stack := stack.push g version (some tree) Automaton.errorState }

def handleError (d : Dialect) (src : Source) (p : Parser) (version : Nat) (lookahead : Subtree) :
    Parser :=
  let g := d.tables.grammar
  let previous := p.stack.size
  let (_, p) := reduceAllFrom d src p version none
  let size := p.stack.size
  let versions := version :: (List.range (size - previous)).map (previous + ·)
  let terminals := (List.range g.terminalCount).drop 1
  let (_, p) := versions.foldl (fun (acc : Bool × Parser) v =>
    let (done, p) := acc
    let (supplied, p) := if done then (true, p)
      else supplyMissing d src v lookahead terminals p
    (supplied, { p with stack := p.stack.push g v none Automaton.errorState })) (false, p)
  let stack := (List.range (size - previous)).foldl (fun (s : Stack) _ =>
    (s.merge g version previous).2) p.stack
  let stack := stack.recordSummary version maxSummaryDepth
  recover d src { p with stack } version lookahead

/-! ## Advancing -/

inductive Progress where
  | shifted
  | reducedTo (version : Nat)
  | stuck

def act (d : Dialect) (src : Source) (version state : Nat) (lookahead : Subtree) :
    List Action → Option Nat → Parser → Progress × Parser
  | [], some v, p => (.reducedTo v, p)
  | [], none, p => (.stuck, p)
  | .shiftRepetition _ :: rest, last, p => act d src version state lookahead rest last p
  | .shift target :: _, _, p =>
      (.shifted, { p with
        stack := p.stack.push d.tables.grammar version
          (some { lookahead with extra := false }) target })
  | .shiftExtra :: _, _, p =>
      (.shifted, { p with
        stack := p.stack.push d.tables.grammar version
          (some { lookahead with extra := true }) state })
  | .reduce n :: rest, last, p =>
      let (result, p) := p.reduce d src version n
      act d src version state lookahead rest (match result with | some v => some v | none => last) p
  | .accept :: _, _, p => (.shifted, p.accept d src version lookahead)

/-- Acts on a token until it is shifted or the reading is stuck on it. -/
def consume (d : Dialect) (src : Source) (version : Nat) :
    Nat → Subtree → Parser → Parser
  | 0, _, p => { p with stack := p.stack.halt version }
  | fuel + 1, lookahead, p =>
      let g := d.tables.grammar
      let state := p.stack.state version
      if state = Automaton.errorState then p.recover d src version lookahead
      else
        let (acts, p) := if lookahead.isError then ([], p)
          else p.actionsAt d state lookahead.symbol
        match act d src version state lookahead acts none p with
        | (.shifted, p) => p
        | (.reducedTo v, p) =>
            consume d src version fuel lookahead { p with stack := p.stack.renumber v version }
        | (.stuck, p) =>
            let asWord := lookahead.keyword && lookahead.symbol != g.word
              && !((p.stateAt state).reserved.contains lookahead.symbol)
              && p.allows state g.word
            if asWord then consume d src version fuel { lookahead with symbol := g.word } p
            else { p with stack := p.stack.pause version lookahead }

def advance (d : Dialect) (src : Source) (p : Parser) (version : Nat) : Parser :=
  let lookahead := p.lex d src version (p.stack.state version)
  consume d src version (4 * (p.stack.nodes.size + 100)) lookahead p

/-- Advances a reading until it is past `last`, or level with it if other readings come before. -/
def advanceUntil (d : Dialect) (src : Source) (version : Nat) :
    Nat → Nat → Parser → Nat × Parser
  | 0, last, p => (last, p)
  | fuel + 1, last, p =>
      if !p.stack.isActive version then (last, p)
      else
        let p := p.advance d src version
        let here := p.stack.position version
        if last < here || (0 < version && here = last) then (here, p)
        else advanceUntil d src version fuel last p

def advanceAll (d : Dialect) (src : Source) : Nat → Nat → Nat → Parser → Nat × Parser
  | 0, _, last, p => (last, p)
  | fuel + 1, version, last, p =>
      if p.stack.size ≤ version then (last, p)
      else
        let (last, p) := advanceUntil d src version (8 * (src.size + 100)) last p
        advanceAll d src fuel (version + 1) last p

/-! ## Weeding out readings -/

/-- Compares head `i`, which stood at `own` when it was reached, with the heads before it from `j`
on. Returns the place to go on from. -/
def condenseAgainst (g : Grammar) (own : Standing) : Nat → Nat → Nat → Parser → Nat × Parser
  | 0, i, _, p => (i + 1, p)
  | fuel + 1, i, j, p =>
      if i ≤ j then (i + 1, p)
      else
        match compareStandings (p.standing j) own with
        | .takeLeft => (i, { p with stack := p.stack.removeVersion i })
        | .preferLeft | .neither =>
            let (merged, stack) := p.stack.merge g j i
            if merged then (i, { p with stack })
            else condenseAgainst g own fuel i (j + 1) { p with stack }
        | .preferRight =>
            let (merged, stack) := p.stack.merge g j i
            if merged then (i, { p with stack })
            else condenseAgainst g own fuel i (j + 1) { p with stack := stack.swap i j }
        | .takeRight => condenseAgainst g own fuel (i - 1) j { p with stack := p.stack.removeVersion j }

def condenseFrom (g : Grammar) : Nat → Nat → Option Nat → Parser → Option Nat × Parser
  | 0, _, least, p => (least, p)
  | fuel + 1, i, least, p =>
      if p.stack.size ≤ i then (least, p)
      else if p.stack.isHalted i then
        condenseFrom g fuel i least { p with stack := p.stack.removeVersion i }
      else
        let p := { p with stack := p.stack.settleCount i }
        let st := p.standing i
        let least := if st.inError then least
          else match least with
            | some c => some (min c st.cost)
            | none => some st.cost
        let (next, p) := condenseAgainst g st (p.stack.size + 1) i 0 p
        condenseFrom g fuel next least p

/-- Takes up the best paused reading if none goes on, and drops the other paused ones. -/
def resumeOne (d : Dialect) (src : Source) :
    Nat → Nat → Nat → Bool → Option Nat → Parser → Option Nat × Parser
  | 0, _, _, _, least, p => (least, p)
  | fuel + 1, i, total, unpaused, least, p =>
      if total ≤ i then (least, p)
      else if p.stack.isPaused i then
        if !unpaused && p.accepts < maxVersions then
          let least := some (p.stack.cost i)
          let (lookahead, stack) := p.stack.resume i
          let p := { p with stack }
          let p := match lookahead with
            | some token => p.handleError d src i token
            | none => p
          resumeOne d src fuel (i + 1) total true least p
        else
          resumeOne d src fuel i (total - 1) unpaused least { p with stack := p.stack.removeVersion i }
      else resumeOne d src fuel (i + 1) total true least p

/-- Drops readings that are clearly worse than others, orders the rest, and recovers if all are
stuck. Returns the least cost among readings that are not in error. -/
def condense (d : Dialect) (src : Source) (p : Parser) : Option Nat × Parser :=
  let (least, p) := condenseFrom d.tables.grammar (4 * (p.stack.size + 10)) 0 none p
  let surplus := p.stack.size - maxVersions
  let stack := (List.range surplus).foldl (fun (s : Stack) _ => s.removeVersion maxVersions) p.stack
  let p := { p with stack }
  resumeOne d src (2 * p.stack.size + 2) 0 p.stack.size false least p

def runRounds (d : Dialect) (src : Source) : Nat → Nat → Parser → Parser
  | 0, _, p => p
  | fuel + 1, last, p =>
      let (last, p) := advanceAll d src (maxVersions + maxVersionOverflow + 100) 0 last p
      let (least, p) := p.condense d src
      let done := match p.finished, least with
        | some t, some c => t.cost < c
        | some _, none => true
        | none, _ => false
      if done || p.stack.size = 0 then p else runRounds d src fuel last p

def run (d : Dialect) (src : Source) : Option Subtree :=
  (runRounds d src (8 * (src.size + 100)) 0 (initial d)).finished

end Parser

end Flowgraph
