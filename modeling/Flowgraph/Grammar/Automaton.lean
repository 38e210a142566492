import Flowgraph.Grammar.Production

/-!
# The parsing automaton

A state is a set of production prefixes with the terminals that may follow each of them. States are
made when they are first needed and found again by their items. `Automaton.actions` says what may be
done in a state on a terminal; where several things could be done, ranks and sides choose, and what
they leave open stays as a list of alternatives.
-/

namespace Flowgraph

/-- A set of terminals, one bit each. -/
abbrev TerminalSet := Nat

/-- What may follow a nonterminal that begins the expansion of another one: some terminals always,
and whatever follows the other one if this one can also end it. -/
structure Opening where
  nonterminal : Nat
  follow : TerminalSet
  reserving : Nat
  inherits : Bool
deriving Inhabited

/-- Facts about a grammar that do not depend on the state. Nonterminals are counted from the first
one; arrays over symbols are indexed by the symbol. -/
structure Tables where
  grammar : Grammar
  /-- All productions; the last one derives the start symbol for acceptance. -/
  productions : Array Production
  nonterminals : Nat
  first : Array TerminalSet
  firstReserving : Array Nat
  openings : Array (Array Opening)
  /-- The productions that begin with a symbol. -/
  beginning : Array (Array Nat)
  directTerminals : Array TerminalSet
  wordReserving : Array (Option Nat)
  emptyProductions : Array (List Nat)
  /-- The nonterminals that end a whole text. The end of the text may follow them wherever they
  occur, so that what a text cut short still lacks can be supplied after them. -/
  closing : List Nat
  /-- Nonterminals that the end of the text may follow wherever all of `bodyMarks` may. -/
  bodies : List Nat
  bodyMarks : TerminalSet

namespace Tables

def bit (s : Sym) : TerminalSet := 1 <<< s

/-- The terminals that can begin each nonterminal, and the strongest reserved set on the way. -/
def firstOf (g : Grammar) (byHead : Array (Array Production)) :
    Nat → List Nat → List Nat → TerminalSet → Nat → TerminalSet × Nat
  | 0, _, _, set, res => (set, res)
  | _, [], _, set, res => (set, res)
  | fuel + 1, n :: todo, seen, set, res =>
      let (todo, seen, set, res) := (byHead.getD n #[]).foldl
        (fun (acc : List Nat × List Nat × TerminalSet × Nat) p =>
          match p.steps[0]? with
          | none => acc
          | some step =>
              let (todo, seen, set, res) := acc
              let res := max res step.reserving
              if g.isTerminal step.symbol then (todo, seen, set ||| bit step.symbol, res)
              else
                let m := step.symbol - g.terminalCount
                if seen.contains m then (todo, seen, set, res)
                else (m :: todo, m :: seen, set, res))
        (todo, seen, set, res)
      firstOf g byHead fuel todo seen set res

structure OpeningDraft where
  present : Bool
  follow : TerminalSet
  reserving : Nat
  inherits : Bool
deriving Inhabited

def collectOpenings (leads : Array (List (Nat × Option (TerminalSet × Nat)))) :
    Nat → List (Nat × TerminalSet × Nat × Bool) → Array OpeningDraft → Array OpeningDraft
  | 0, _, drafts => drafts
  | _, [], drafts => drafts
  | fuel + 1, (n, follow, res, inherits) :: todo, drafts =>
      let old := drafts.getD n default
      let merged := old.follow ||| follow
      let grown := !old.present || merged != old.follow || old.reserving < res
        || (inherits && !old.inherits)
      if !grown then collectOpenings leads fuel todo drafts
      else
        let drafts := drafts.setIfInBounds n
          { present := true, follow := merged, reserving := max old.reserving res
            inherits := old.inherits || inherits }
        let todo := (leads.getD n []).foldl (fun acc lead =>
          match lead with
          | (m, some (f, r)) => (m, f, r, false) :: acc
          | (m, none) => (m, follow, res, inherits) :: acc) todo
        collectOpenings leads fuel todo drafts

def build (g : Grammar) : Tables :=
  let nonterminals := g.names.size - g.terminalCount
  let acceptance : Production :=
    { head := g.names.size, weight := 0
      steps := #[⟨g.start, .unstated, none, 0, none, none⟩] }
  let productions := g.productions.push acceptance
  let byHead : Array (Array Production) := g.productions.foldl
    (fun acc p => acc.modify (p.head - g.terminalCount) (·.push p))
    (Array.replicate nonterminals #[])
  let firsts : List (TerminalSet × Nat) := (List.range nonterminals).map fun n =>
    firstOf g byHead (nonterminals + 1) [n] [n] 0 0
  let first : Array TerminalSet :=
    ((List.range g.terminalCount).map bit ++ firsts.map Prod.fst).toArray
  let firstReserving : Array Nat :=
    (List.replicate g.terminalCount 0 ++ firsts.map Prod.snd).toArray
  let closing : List Nat :=
    (byHead.getD (g.start - g.terminalCount) #[]).toList.filterMap fun p =>
      match p.steps.back? with
      | some step =>
          if g.isTerminal step.symbol then none else some (step.symbol - g.terminalCount)
      | none => none
  let leads : Array (List (Nat × Option (TerminalSet × Nat))) := byHead.map fun ps =>
    (ps.foldl (fun acc p =>
      match p.steps[0]? with
      | none => acc
      | some step =>
          if g.isTerminal step.symbol then acc
          else
            let m := step.symbol - g.terminalCount
            let lead := match p.steps[1]? with
              | some next =>
                  let f := first.getD next.symbol 0
                  (m, some (if closing.contains m then f ||| bit 0 else f,
                    firstReserving.getD next.symbol 0))
              | none => (m, none)
            if acc.contains lead then acc else lead :: acc) []).reverse
  let blank : Array OpeningDraft := Array.replicate nonterminals default
  let openings := ((List.range nonterminals).map fun n =>
    let drafts := collectOpenings leads 1000000 [(n, 0, 0, true)] blank
    ((List.range nonterminals).filterMap fun m =>
      let d := drafts.getD m default
      if d.present then some { nonterminal := m, follow := d.follow, reserving := d.reserving,
                               inherits := d.inherits : Opening }
      else none).toArray).toArray
  let indexed := g.productions.zipIdx
  let beginning : Array (Array Nat) := indexed.foldl (fun acc (p, i) =>
    match p.steps[0]? with
    | some step => acc.modify step.symbol (·.push i)
    | none => acc) (Array.replicate g.names.size #[])
  let directTerminals := byHead.map fun ps => ps.foldl (fun acc p =>
    match p.steps[0]? with
    | some step => if g.isTerminal step.symbol then acc ||| bit step.symbol else acc
    | none => acc) 0
  let wordReserving := byHead.map fun ps => ps.foldl (fun (acc : Option Nat) p =>
    match p.steps[0]? with
    | some step =>
        if step.symbol = g.word then some (max (acc.getD 0) step.reserving) else acc
    | none => acc) none
  let emptyProductions := indexed.foldl (fun (acc : Array (List Nat)) (p, i) =>
    if p.steps.isEmpty then acc.modify (p.head - g.terminalCount) (· ++ [i]) else acc)
    (Array.replicate nonterminals [])
  { grammar := g, productions, nonterminals, first, firstReserving, openings, beginning,
    directTerminals, wordReserving, emptyProductions, closing
    bodies := g.bodies.map (· - g.terminalCount)
    bodyMarks := g.bodyMarks.foldl (fun acc x => acc ||| bit x) 0 }

end Tables

/-- A production read up to `dot`, with what may follow it. -/
structure Item where
  production : Nat
  dot : Nat
  follow : TerminalSet
  reserving : Nat
deriving DecidableEq, Hashable, Inhabited

inductive Action where
  | shift (target : Nat)
  /-- A shift inside a repetition that the repetition's own ambiguity makes superfluous. -/
  | shiftRepetition (target : Nat)
  | shiftExtra
  | reduce (production : Nat)
  | accept
deriving DecidableEq, Inhabited

/-- A state of the automaton: its items, what may follow each nonterminal expected here (`0` for one
that is not), the terminals that may come next and the words that are reserved. -/
structure AutomatonState where
  items : Array Item
  follow : Array TerminalSet
  reserving : Array Nat
  valid : TerminalSet
  reserved : List Sym
  candidates : Lexicon.Candidates
deriving Inhabited

structure Automaton where
  states : Array AutomatonState
  index : Std.HashMap (Array Item) Nat
  gotos : Std.HashMap Nat Nat
  actions : Std.HashMap Nat (List Action)

namespace Automaton

/-- The state that stands for a place lost in an erroneous text. -/
def errorState : Nat := 0

def startState : Nat := 1

def stepOf (t : Tables) (item : Item) : Option Step :=
  match t.productions[item.production]? with
  | some p => p.steps[item.dot]?
  | none => none

/-- The step just before the dot. -/
def lastStep (t : Tables) (item : Item) : Option Step :=
  if item.dot = 0 then none
  else match t.productions[item.production]? with
    | some p => p.steps[item.dot - 1]?
    | none => none

def headOf (t : Tables) (production : Nat) : Sym :=
  ((t.productions[production]?).map (·.head)).getD 0

def followAfter (t : Tables) (item : Item) : TerminalSet × Nat :=
  match (t.productions[item.production]?).bind (·.steps[item.dot + 1]?) with
  | some next => (t.first.getD next.symbol 0, t.firstReserving.getD next.symbol 0)
  | none => (item.follow, item.reserving)

def noteNeed (n : Nat) (follow : TerminalSet) (res : Nat) :
    List (Nat × TerminalSet × Nat) → List (Nat × TerminalSet × Nat)
  | [] => [(n, follow, res)]
  | (m, f, r) :: rest =>
      if m = n then (m, f ||| follow, max r res) :: rest
      else (m, f, r) :: noteNeed n follow res rest

def members (set : TerminalSet) (count : Nat) : List Sym :=
  (List.range count).filter fun s => set.testBit s

/-- The tokens the lexicon looks for: keywords are found as words. -/
def lexemesOf (g : Grammar) (valid : TerminalSet) : List Nat :=
  let keywordSyms := g.keywords.fold (fun acc _ s => acc ||| Tables.bit s) 0
  let plain := members valid g.externalStart |>.filter fun s =>
    s != 0 && !(keywordSyms.testBit s)
  let words := if (valid &&& keywordSyms) != 0 && !(valid.testBit g.word) then [g.word] else []
  (words ++ plain).map (· - 1)

def stateOf (t : Tables) (items : Array Item) : AutomatonState :=
  let g := t.grammar
  let needs := items.foldl (fun acc item =>
    match stepOf t item with
    | some step =>
        if g.isTerminal step.symbol then acc
        else
          let (f, r) := followAfter t item
          let n := step.symbol - g.terminalCount
          noteNeed n (if t.closing.contains n then f ||| Tables.bit 0 else f) r acc
    | none => acc) []
  let blank : Array TerminalSet × Array Nat :=
    (Array.replicate t.nonterminals 0, Array.replicate t.nonterminals 0)
  let (follow, reserving) := needs.foldl (fun acc (n, f, r) =>
    (t.openings.getD n #[]).foldl (fun (acc : Array TerminalSet × Array Nat) o =>
      let own := if o.inherits then o.follow ||| f else o.follow
      let res := max (if o.follow.testBit g.word then o.reserving else 0)
        (if o.inherits && f.testBit g.word then r else 0)
      (acc.1.modify o.nonterminal (· ||| own),
       if res = 0 then acc.2 else acc.2.modify o.nonterminal (max · res))) acc) blank
  let fromItems := items.foldl (fun (acc : TerminalSet) item =>
    match stepOf t item with
    | some step => if g.isTerminal step.symbol then acc ||| Tables.bit step.symbol else acc
    | none => acc ||| item.follow) 0
  let fromOpenings := (List.range t.nonterminals).foldl (fun (acc : TerminalSet) n =>
    let f := follow.getD n 0
    if f = 0 then acc
    else
      let acc := acc ||| t.directTerminals.getD n 0
      if (t.emptyProductions.getD n []).isEmpty then acc else acc ||| f) 0
  let extras := g.extras.foldl (fun acc s => acc ||| Tables.bit s) 0
  let valid := fromItems ||| fromOpenings ||| extras
  let widen (acc : Option Nat) (n : Nat) : Option Nat := some (max (acc.getD 0) n)
  let reservedFromItems := items.foldl (fun (acc : Option Nat) item =>
    match stepOf t item with
    | some step => if step.symbol = g.word then widen acc step.reserving else acc
    | none => if item.follow.testBit g.word then widen acc item.reserving else acc) none
  let reservedSet := (List.range t.nonterminals).foldl (fun (acc : Option Nat) n =>
    if follow.getD n 0 = 0 then acc
    else match t.wordReserving.getD n none with
      | some r => widen acc r
      | none => acc) reservedFromItems
  { items, follow, reserving, valid
    reserved := match reservedSet with
      | some n => g.reserved.getD n []
      | none => []
    candidates := g.lexicon.candidates (lexemesOf g valid) }

/-- The error state allows every terminal that is sought after an error and has no items. -/
def errorStateOf (t : Tables) : AutomatonState :=
  let g := t.grammar
  let valid : TerminalSet := (List.range g.terminalCount).foldl (fun acc s =>
    if g.unsought.contains s then acc else acc ||| Tables.bit s) 0
  { items := #[], follow := #[], reserving := #[], valid, reserved := []
    candidates := g.lexicon.candidates (lexemesOf g valid) }

def initial (t : Tables) : Automaton :=
  let items := #[{ production := t.productions.size - 1, dot := 0, follow := Tables.bit 0,
                   reserving := 0 : Item }]
  { states := #[errorStateOf t, stateOf t items]
    index := (∅ : Std.HashMap (Array Item) Nat).insert items startState
    gotos := ∅, actions := ∅ }

def inBody (t : Tables) (item : Item) : Bool :=
  t.bodies.contains (headOf t item.production - t.grammar.terminalCount)
    && (item.follow &&& t.bodyMarks) = t.bodyMarks

/-- Lets the end of the text follow when all items are inside bodies it may follow. -/
def closeBodies (t : Tables) (items : Array Item) : Array Item :=
  if items.all (inBody t) then
    items.map fun item => { item with follow := item.follow ||| Tables.bit 0 }
  else items

/-- The state with the given items, made now if it is new. -/
def intern (t : Tables) (a : Automaton) (items : Array Item) : Nat × Automaton :=
  let items := closeBodies t items
  match a.index[items]? with
  | some s => (s, a)
  | none =>
      let s := a.states.size
      (s, { a with states := a.states.push (stateOf t items), index := a.index.insert items s })

/-- The items after reading `x`: those whose next symbol is `x`, and those of productions expected
here that begin with `x`. The longer prefixes come first. -/
def successor (t : Tables) (state : AutomatonState) (x : Sym) : Array Item :=
  let moved := state.items.filterMap fun item =>
    match stepOf t item with
    | some step => if step.symbol = x then some { item with dot := item.dot + 1 } else none
    | none => none
  (t.beginning.getD x #[]).foldl (fun acc p =>
    let n := headOf t p - t.grammar.terminalCount
    let f := state.follow.getD n 0
    if f = 0 then acc
    else acc.push { production := p, dot := 1, follow := f, reserving := state.reserving.getD n 0 })
    moved

def moveKey (state : Nat) (x : Sym) : Nat := state * 1024 + x

def goto (t : Tables) (a : Automaton) (state : Nat) (x : Sym) : Option Nat × Automaton :=
  match a.gotos[moveKey state x]? with
  | some s => (some s, a)
  | none =>
      match a.states[state]? with
      | none => (none, a)
      | some st =>
          let items := successor t st x
          if items.isEmpty then (none, a)
          else
            let (s, a) := a.intern t items
            (some s, { a with gotos := a.gotos.insert (moveKey state x) s })

def entryMatches (g : Grammar) (entry : Ranked) (rank : Rank) (heads : List Sym) : Bool :=
  match entry with
  | .rank n => rank = .name n
  | .rule n => heads.any fun s => g.nameOf s == n

/-- Looks for both sides in one ranking; the side met first is the stronger. -/
def compareIn (g : Grammar) (left : Rank) (leftHeads : List Sym) (right : Rank)
    (rightHeads : List Sym) : Bool → Bool → List Ranked → Option Ordering
  | _, _, [] => none
  | sawLeft, sawRight, entry :: rest =>
      if entryMatches g entry left leftHeads then
        if sawRight then some .lt
        else compareIn g left leftHeads right rightHeads true sawRight rest
      else if entryMatches g entry right rightHeads then
        if sawLeft then some .gt
        else compareIn g left leftHeads right rightHeads sawLeft true rest
      else compareIn g left leftHeads right rightHeads sawLeft sawRight rest

/-- Compares two ranks: numbers as numbers, with an unstated rank as zero, and otherwise by the
first ranking that speaks of both. -/
def compareRanks (g : Grammar) (left : Rank) (leftHeads : List Sym) (right : Rank)
    (rightHeads : List Sym) : Ordering :=
  let byName := ((g.rankings.findSome?
    (compareIn g left leftHeads right rightHeads false false)).getD .eq)
  match left, right with
  | .number l, .number r => if l != 0 || r != 0 then compare l r else byName
  | .number l, .unstated => if l != 0 then compare l 0 else byName
  | .unstated, .number r => if r != 0 then compare 0 r else byName
  | _, _ => byName

structure Reductions where
  actions : List Action
  rank : Rank
  heads : List Sym
  left : Bool
  right : Bool
  neither : Bool

def noReductions : Reductions := ⟨[], .unstated, [], false, false, false⟩

/-- Adds a finished item: a stronger one replaces what was kept, a weaker one is dropped. -/
def addReduction (t : Tables) (acc : Reductions) (item : Item) : Reductions :=
  let last := lastStep t item
  let rank := (last.map (·.rank)).getD .unstated
  let head := headOf t item.production
  let action : Action :=
    if head = t.grammar.names.size then .accept else .reduce item.production
  let keep (base : Reductions) : Reductions :=
    { base with
      actions := base.actions ++ [action]
      rank := rank
      heads := if base.heads.contains head then base.heads else base.heads ++ [head]
      left := base.left || (last.bind (·.side)) = some .left
      right := base.right || (last.bind (·.side)) = some .right
      neither := base.neither || (last.bind (·.side)) = none }
  if acc.actions.isEmpty then keep noReductions
  else match compareRanks t.grammar rank [head] acc.rank acc.heads with
    | .gt => keep noReductions
    | .eq => keep acc
    | .lt => acc

/-- The finished items of a state that the terminal may follow, shorter ones first. -/
def finished (t : Tables) (state : AutomatonState) (x : Sym) : List Item :=
  let own := state.items.toList.filter fun item =>
    (stepOf t item).isNone && item.follow.testBit x
  let empties := (List.range t.nonterminals).flatMap fun n =>
    match t.emptyProductions.getD n [] with
    | [] => []
    | ps =>
        let f := state.follow.getD n 0
        if f.testBit x then ps.map fun p => { production := p, dot := 0, follow := f, reserving := 0 }
        else []
  empties ++ own.mergeSort fun a b =>
    a.dot < b.dot || (a.dot = b.dot && a.production ≤ b.production)

def resolve (t : Tables) (state : AutomatonState) (x : Sym) (kept : Reductions) (target : Nat) :
    List Action :=
  let g := t.grammar
  let pending : List Item := state.items.toList.filter fun item =>
    item.dot > 0 && match stepOf t item with
      | some step => (t.first.getD step.symbol 0).testBit x
      | none => false
  let done : List Item := state.items.toList.filter fun item =>
    (stepOf t item).isNone && item.follow.testBit x
  let heads : List Sym := (pending ++ done).map fun item => headOf t item.production
  let sameRepetition := match heads with
    | [] => false
    | h :: rest => g.visibilityOf h = Visibility.repetition && rest.all (· = h)
  if sameRepetition then kept.actions ++ [.shiftRepetition target]
  else
    let comparisons : List Ordering := pending.map fun item =>
      compareRanks g (((lastStep t item).map (·.rank)).getD .unstated)
        [headOf t item.production] kept.rank kept.heads
    let more := comparisons.contains .gt
    let less := comparisons.contains .lt
    if more && !less then [.shift target]
    else if less && !more then kept.actions
    else if !more && !less then
      if kept.left && !kept.neither && !kept.right then kept.actions
      else if kept.right && !kept.neither && !kept.left then [.shift target]
      else kept.actions ++ [.shift target]
    else kept.actions ++ [.shift target]

def computeActions (t : Tables) (a : Automaton) (state : Nat) (x : Sym) : List Action × Automaton :=
  match a.states[state]? with
  | none => ([], a)
  | some st =>
      if !(st.valid.testBit x) then ([], a)
      else
        let kept := (finished t st x).foldl (addReduction t) noReductions
        let (target, a) := a.goto t state x
        let actions := match kept.actions, target with
          | [], none => []
          | [], some s => [.shift s]
          | acts, none => acts
          | _, some s => resolve t st x kept s
        if actions.isEmpty && t.grammar.extras.contains x then ([.shiftExtra], a)
        else (actions, a)

def actionsAt (t : Tables) (a : Automaton) (state : Nat) (x : Sym) : List Action × Automaton :=
  match a.actions[moveKey state x]? with
  | some acts => (acts, a)
  | none =>
      let (acts, a) := a.computeActions t state x
      (acts, { a with actions := a.actions.insert (moveKey state x) acts })

end Automaton

end Flowgraph
