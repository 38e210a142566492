import Std.Data.HashMap
import Flowgraph.Grammar.Rule

/-!
# Productions

`Grammar.compile` turns a written grammar into numbered symbols and flat productions: tokens are
collected in order of first use, repetitions become symbols of their own, choices are multiplied
out, and inlined rules are replaced by their alternatives. Symbols below `terminalCount` are
terminals, and symbol `0` is the end of the text.
-/

namespace Flowgraph

/-- A terminal or nonterminal. -/
abbrev Sym := Nat

structure Step where
  symbol : Sym
  rank : Rank
  side : Option Side
  reserving : Nat
  shownAs : Option Alias
  field : Option String
deriving DecidableEq, Inhabited

structure Production where
  head : Sym
  steps : Array Step
  weight : Int
deriving DecidableEq, Inhabited

/-- How a symbol appears in the tree: not at all, also made by a repetition, as a named node or as
an unnamed token. -/
inductive Visibility where
  | hidden
  | repetition
  | named
  | anonymous
deriving DecidableEq, Inhabited

structure Grammar where
  names : Array String
  visibility : Array Visibility
  terminalCount : Nat
  /-- Terminals from this one on are recognised by the language's own scanner. -/
  externalStart : Nat
  lexicon : Lexicon
  word : Sym
  keywords : Std.HashMap String Sym
  extras : List Sym
  unsought : List Sym
  bodies : List Sym
  bodyMarks : List Sym
  external : Array Sym
  rankings : List (List Ranked)
  reserved : Array (List Sym)
  productions : Array Production
  start : Sym

namespace Grammar

def tokensOf : Rule → List TokenSpec → List TokenSpec
  | .blank, acc => acc
  | .token spec, acc => spec :: acc
  | .ref _, acc => acc
  | .seq a b, acc => tokensOf b (tokensOf a acc)
  | .alt a b, acc => tokensOf b (tokensOf a acc)
  | .many1 r, acc | .ranked _ _ r, acc | .weighted _ r, acc | .field _ r, acc
  | .aliased _ r, acc | .reserving _ r, acc => tokensOf r acc

/-- A token of the grammar with the name of the rule it makes up, if it makes up one alone. -/
structure NamedToken where
  spec : TokenSpec
  rule : Option String

def distinctTokens (specs : List TokenSpec) : Array TokenSpec × Std.HashMap String Nat :=
  let (order, uses) := specs.foldl (fun (acc : Array TokenSpec × Std.HashMap String Nat) spec =>
    match acc.2[spec.label]? with
    | some n => (acc.1, acc.2.insert spec.label (n + 1))
    | none => (acc.1.push spec, acc.2.insert spec.label 1)) (#[], ∅)
  (order, uses)

def isWordText (text : String) : Bool :=
  match text.toList with
  | [] => false
  | c :: rest => (c.isAlpha || c = '_') && rest.all fun c => c.isAlphanum || c = '_'

structure Surroundings where
  rank : Rank
  side : Option Side
  reserving : Nat
  shownAs : Option Alias
  field : Option String

/-- Work in progress on the productions: the symbols by name, the repetitions made so far by key,
and the rules of those repetitions in reverse. -/
structure Expansion where
  symbols : Std.HashMap String Sym
  repeats : Std.HashMap String Sym
  pending : Array (Sym × Rule)
  next : Sym

/-- Replaces every repetition by a reference to a symbol of its own. -/
def expandRepeats (labelOf : Sym → String) : Rule → Expansion → Rule × Expansion
  | .blank, e => (.blank, e)
  | .token spec, e => (.token spec, e)
  | .ref name, e => (.ref name, e)
  | .seq a b, e =>
      let (a, e) := expandRepeats labelOf a e
      let (b, e) := expandRepeats labelOf b e
      (.seq a b, e)
  | .alt a b, e =>
      let (a, e) := expandRepeats labelOf a e
      let (b, e) := expandRepeats labelOf b e
      (.alt a b, e)
  | .many1 r, e =>
      let (r, e) := expandRepeats labelOf r e
      match e.repeats[r.key]? with
      | some s => (.ref (labelOf s), e)
      | none =>
          let s := e.next
          let self : Rule := .ref (labelOf s)
          (self,
            { symbols := e.symbols.insert (labelOf s) s
              repeats := e.repeats.insert r.key s
              pending := e.pending.push (s, .alt (.seq self self) r)
              next := s + 1 })
  | .ranked k s r, e =>
      let (r, e) := expandRepeats labelOf r e
      (.ranked k s r, e)
  | .weighted w r, e =>
      let (r, e) := expandRepeats labelOf r e
      (.weighted w r, e)
  | .field n r, e =>
      let (r, e) := expandRepeats labelOf r e
      (.field n r, e)
  | .aliased a r, e =>
      let (r, e) := expandRepeats labelOf r e
      (.aliased a r, e)
  | .reserving n r, e =>
      let (r, e) := expandRepeats labelOf r e
      (.reserving n r, e)

abbrev Alternative := List Step × Int

/-- The weight that counts where rules with weights nest: the one of greater size. -/
def heavier (a b : Int) : Int := if a.natAbs < b.natAbs then b else a

def modifyLast {α : Type} (f : α → α) : List α → List α
  | [] => []
  | [x] => [f x]
  | x :: y :: rest => x :: modifyLast f (y :: rest)

/-- Multiplies out the choices of a rule. Where a ranked rule ends before its production does, its
last step belongs to the surroundings again. -/
def alternatives (symbolOf : TokenSpec → Sym) (nameOf : String → Sym) :
    Rule → Surroundings → Bool → List Alternative
  | .blank, _, _ => [([], 0)]
  | .token spec, c, _ => [([⟨symbolOf spec, c.rank, c.side, c.reserving, c.shownAs, c.field⟩], 0)]
  | .ref name, c, _ => [([⟨nameOf name, c.rank, c.side, c.reserving, c.shownAs, c.field⟩], 0)]
  | .seq a b, c, atEnd =>
      let lefts := alternatives symbolOf nameOf a c false
      let rights := alternatives symbolOf nameOf b c atEnd
      lefts.flatMap fun l => rights.map fun r => (l.1 ++ r.1, heavier l.2 r.2)
  | .alt a b, c, atEnd =>
      alternatives symbolOf nameOf a c atEnd ++ alternatives symbolOf nameOf b c atEnd
  | .many1 _, _, _ => []
  | .ranked k s r, c, atEnd =>
      let inner := alternatives symbolOf nameOf r
        { c with rank := k, side := match s with | none => c.side | some s => some s } atEnd
      if atEnd then inner
      else inner.map fun alt =>
        (modifyLast (fun step =>
          { step with rank := c.rank, side := match s with | none => step.side | some _ => c.side })
          alt.1, alt.2)
  | .weighted w r, c, atEnd =>
      (alternatives symbolOf nameOf r c atEnd).map fun alt => (alt.1, heavier w alt.2)
  | .field n r, c, atEnd => alternatives symbolOf nameOf r { c with field := some n } atEnd
  | .aliased a r, c, atEnd => alternatives symbolOf nameOf r { c with shownAs := some a } atEnd
  | .reserving n r, c, atEnd => alternatives symbolOf nameOf r { c with reserving := n } atEnd

/-- Puts an inlined alternative in place of one step, which passes on its alias and field, and its
rank and side where the alternative's last step states none. -/
def spliceStep (removed : Step) (inserted : List Step) : List Step :=
  let named := inserted.map fun s =>
    { s with
      shownAs := match removed.shownAs with | none => s.shownAs | some a => some a
      field := match removed.field with | none => s.field | some f => some f }
  modifyLast (fun s =>
    { s with
      rank := if s.rank = .unstated then removed.rank else s.rank
      side := match s.side with | none => removed.side | some d => some d }) named

def inlineSteps (inlined : Sym → Option (List Alternative)) :
    Nat → List Step → List Alternative
  | 0, steps => [(steps, 0)]
  | _, [] => [([], 0)]
  | fuel + 1, s :: rest =>
      match inlined s.symbol with
      | none => (inlineSteps inlined fuel rest).map fun alt => (s :: alt.1, alt.2)
      | some alts =>
          alts.flatMap fun alt =>
            (inlineSteps inlined fuel (spliceStep s alt.1 ++ rest)).map fun tail =>
              (tail.1, heavier alt.2 tail.2)

def distinct (ps : List Production) : List Production :=
  (ps.foldl (fun acc p => if acc.contains p then acc else p :: acc) []).reverse

def repeatName (n : Nat) : String := "repetition " ++ toString n

def compile (source : GrammarSource) : Grammar :=
  let allTokens := (source.rules.foldl (fun acc r => tokensOf r.2 acc) []).reverse
  let (order, uses) := distinctTokens allTokens
  let soleRule : Std.HashMap String String := source.rules.foldl (fun acc r =>
    match r.2 with
    | .token spec => if uses[spec.label]? = some 1 then acc.insert spec.label r.1 else acc
    | _ => acc) ∅
  let named := order.map fun spec => NamedToken.mk spec (soleRule[spec.label]?)
  let isWord (t : NamedToken) : Bool := t.rule = some source.word
  let tokens := named.filter isWord ++ named.filter fun t => !isWord t
  let symbolByLabel : Std.HashMap String Sym :=
    (tokens.foldl (fun (acc : Std.HashMap String Sym × Nat) t =>
      (acc.1.insert t.spec.label acc.2, acc.2 + 1)) (∅, 1)).1
  let tokenByRule : Std.HashMap String Sym :=
    (tokens.foldl (fun (acc : Std.HashMap String Sym × Nat) t =>
      (match t.rule with
        | some name => acc.1.insert name acc.2
        | none => acc.1, acc.2 + 1)) (∅, 1)).1
  let internalExternal (r : Rule) : Option Sym :=
    match r with
    | .token spec => symbolByLabel[spec.label]?
    | .ref name => tokenByRule[name]?
    | _ => none
  let externalStart := tokens.size + 1
  let ownExternal := source.external.filter fun r => (internalExternal r).isNone
  let externalNames := ownExternal.map fun r => match r with | .ref name => name | _ => ""
  let terminalCount := externalStart + externalNames.length
  let withTokens := tokenByRule
  let withExternal : Std.HashMap String Sym :=
    (externalNames.foldl (fun (acc : Std.HashMap String Sym × Nat) name =>
      (acc.1.insert name acc.2, acc.2 + 1)) (withTokens, externalStart)).1
  let syntaxRules := source.rules.filter fun r => !tokenByRule.contains r.1
  let withRules : Std.HashMap String Sym :=
    (syntaxRules.foldl (fun (acc : Std.HashMap String Sym × Nat) r =>
      (acc.1.insert r.1 acc.2, acc.2 + 1)) (withExternal, terminalCount)).1
  let firstRepeat := terminalCount + syntaxRules.length
  let expanded := syntaxRules.foldl (fun (acc : Array (Sym × Rule) × Expansion) r =>
    let (rule, e) := expandRepeats repeatName r.2 acc.2
    (acc.1.push (withRules.getD r.1 0, rule), e))
    (#[], { symbols := withRules, repeats := ∅, pending := #[], next := firstRepeat })
  let symbols := expanded.2.symbols
  let ruleOf := expanded.1 ++ expanded.2.pending
  let symbolOf (spec : TokenSpec) : Sym := symbolByLabel.getD spec.label 0
  let nameOf (name : String) : Sym := symbols.getD name 0
  let outside : Surroundings := ⟨.unstated, none, 0, none, none⟩
  let flat : Array (Sym × List Alternative) := ruleOf.map fun (s, r) =>
    (s, alternatives symbolOf nameOf r outside true)
  let inlineSyms := source.inline.filterMap (symbols[·]?)
  let inlineAlternatives : Std.HashMap Sym (List Alternative) :=
    flat.foldl (fun acc (s, alts) => if inlineSyms.contains s then acc.insert s alts else acc) ∅
  let productions : Array Production := flat.foldl (fun acc (s, alts) =>
    if inlineSyms.contains s then acc
    else
      let ps := distinct (alts.flatMap fun alt =>
        (inlineSteps (inlineAlternatives[·]?) 64 alt.1).map fun tail =>
          { head := s, steps := tail.1.toArray, weight := heavier alt.2 tail.2 })
      acc ++ ps.toArray) #[]
  let tokenName (t : NamedToken) : String :=
    match t.rule, t.spec.text with
    | some name, _ => name
    | none, some text => text
    | none, none => t.spec.label
  let isHiddenName (name : String) : Bool := name.startsWith "_"
  let tokenVisibility (t : NamedToken) : Visibility :=
    match t.rule, t.spec.text with
    | some name, _ => if isHiddenName name then .hidden else .named
    | none, some _ => .anonymous
    | none, none => .hidden
  let ruleVisibility (name : String) : Visibility :=
    if isHiddenName name || source.supertypes.contains name then .hidden else .named
  let repeatCount := expanded.2.pending.size
  let names := #["end"] ++ tokens.map tokenName ++ externalNames.toArray
    ++ (syntaxRules.map (·.1)).toArray
    ++ ((List.range repeatCount).map fun i => repeatName (firstRepeat + i)).toArray
  let visibility := #[Visibility.hidden] ++ tokens.map tokenVisibility
    ++ (externalNames.map ruleVisibility).toArray
    ++ (syntaxRules.map fun r => ruleVisibility r.1).toArray
    ++ (List.replicate repeatCount Visibility.repetition).toArray
  let preference (spec : TokenSpec) : Nat :=
    (if spec.text.isSome then 2 else 0) + (if spec.glued then 1 else 0)
  let shapes := tokens.map fun t =>
    { lexeme := t.spec.lexeme, rank := t.spec.rank, preference := preference t.spec
      glued := t.spec.glued : TokenShape }
  let keywords : Std.HashMap String Sym := tokens.foldl (fun acc t =>
    match t.spec.text with
    | some text =>
        if isWordText text && !t.spec.glued then acc.insert text (symbolOf t.spec) else acc
    | none => acc) ∅
  let externalSym (r : Rule) : Sym :=
    match internalExternal r, r with
    | some s, _ => s
    | none, .ref name => symbols.getD name 0
    | none, _ => 0
  { names, visibility, terminalCount, externalStart
    lexicon := Lexicon.build source.blank shapes
    word := tokenByRule.getD source.word 0
    keywords
    extras := source.extras.filterMap (symbols[·]?)
    unsought := (tokens.toList.zipIdx 1).filterMap fun (t, s) =>
      if source.unsought.contains (tokenName t) then some s else none
    bodies := source.bodies.filterMap (symbols[·]?)
    bodyMarks := source.bodyMarks.map externalSym
    external := (source.external.map externalSym).toArray
    rankings := source.rankings
    reserved := (source.reserved.map fun ws => ws.filterMap (keywords[·]?)).toArray
    productions
    start := match source.rules with
      | r :: _ => symbols.getD r.1 0
      | [] => 0 }

def isTerminal (g : Grammar) (s : Sym) : Bool := s < g.terminalCount

def nameOf (g : Grammar) (s : Sym) : String := g.names.getD s ""

def visibilityOf (g : Grammar) (s : Sym) : Visibility := g.visibility.getD s .hidden

end Grammar

end Flowgraph
