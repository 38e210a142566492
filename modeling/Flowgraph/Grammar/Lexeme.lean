import Flowgraph.Text.CharSet

/-!
# Lexemes and the lexicon

The shape of a token is a regular expression. A lexicon numbers the character positions of all its
tokens and records which positions may follow which, so recognition is a walk over sets of
positions with no empty moves. Which tokens are looked for depends on the place in the grammar:
`Lexicon.scan` takes the candidates and returns the longest match, cut short where a token of
higher rank is already complete.
-/

namespace Flowgraph

inductive Lexeme where
  | empty
  | one (set : CharSet)
  | seq (a b : Lexeme)
  | alt (a b : Lexeme)
  | star (a : Lexeme)
deriving Inhabited

namespace Lexeme

def text (s : String) : Lexeme :=
  s.toList.foldr (fun c rest => .seq (.one (.single c)) rest) .empty

def concat (parts : List Lexeme) : Lexeme := parts.foldr .seq .empty

def oneOf (first : Lexeme) (others : List Lexeme) : Lexeme := others.foldl .alt first

def opt (a : Lexeme) : Lexeme := .alt a .empty

def plus (a : Lexeme) : Lexeme := .seq a (.star a)

def times (a : Lexeme) (n : Nat) : Lexeme := concat (List.replicate n a)

/-- Between `n` and `n + more` copies. -/
def between (a : Lexeme) (n more : Nat) : Lexeme :=
  .seq (a.times n) (Nat.rec .empty (fun _ rest => .alt (.seq a rest) .empty) more)

end Lexeme

structure Slot where
  set : CharSet
  token : Nat
  follow : List Nat
  final : Bool
deriving Inhabited

namespace Slot

def mergeAscending : List Nat → List Nat → List Nat
  | [], ys => ys
  | xs, [] => xs
  | x :: xs, y :: ys =>
      if x < y then x :: mergeAscending xs (y :: ys)
      else if y < x then y :: mergeAscending (x :: xs) ys
      else x :: mergeAscending xs ys
termination_by xs ys => xs.length + ys.length

end Slot

/-- What is known of a part of a lexeme: whether it matches the empty text, and the positions that
may come first and last in it. -/
structure Outline where
  nullable : Bool
  first : List Nat
  last : List Nat

abbrev Slots := Array Slot

namespace Slots

def link (slots : Slots) (sources targets : List Nat) : Slots :=
  sources.foldl (fun acc p =>
    acc.modify p fun slot => { slot with follow := Slot.mergeAscending slot.follow targets }) slots

end Slots

namespace Lexeme

def addTo (token : Nat) : Lexeme → Slots → Outline × Slots
  | .empty, slots => (⟨true, [], []⟩, slots)
  | .one set, slots =>
      let p := slots.size
      (⟨false, [p], [p]⟩, slots.push { set, token, follow := [], final := false })
  | .seq a b, slots =>
      let (f, slots) := a.addTo token slots
      let (g, slots) := b.addTo token slots
      (⟨f.nullable && g.nullable,
        if f.nullable then Slot.mergeAscending f.first g.first else f.first,
        if g.nullable then Slot.mergeAscending f.last g.last else g.last⟩,
       slots.link f.last g.first)
  | .alt a b, slots =>
      let (f, slots) := a.addTo token slots
      let (g, slots) := b.addTo token slots
      (⟨f.nullable || g.nullable, Slot.mergeAscending f.first g.first,
        Slot.mergeAscending f.last g.last⟩, slots)
  | .star a, slots =>
      let (f, slots) := a.addTo token slots
      (⟨true, f.first, f.last⟩, slots.link f.last f.first)

end Lexeme

/-- A token as the lexicon sees it. Among complete tokens of one length the higher rank wins, then
the higher default (a fixed text before a pattern, a glued token before a free one), then the
token that was introduced first. A glued token may not be preceded by blanks. -/
structure TokenShape where
  lexeme : Lexeme
  rank : Int
  preference : Nat
  glued : Bool
deriving Inhabited

structure Lexicon where
  slots : Array Slot
  first : Array (List Nat)
  shapes : Array TokenShape
  blank : CharSet

namespace Lexicon

def build (blank : CharSet) (shapes : Array TokenShape) : Lexicon :=
  let step (acc : Slots × Array (List Nat)) (shape : TokenShape) : Slots × Array (List Nat) :=
    let (slots, firsts) := acc
    let (outline, slots) := shape.lexeme.addTo firsts.size slots
    let slots := outline.last.foldl (fun s p => s.modify p ({ · with final := true })) slots
    (slots, firsts.push outline.first)
  let (slots, first) := shapes.foldl step (#[], #[])
  { slots, first, shapes, blank }

/-- The positions where the tokens to look for may start: of all of them, and of those that may
follow blanks. -/
structure Candidates where
  all : List Nat
  free : List Nat
deriving Inhabited

def candidates (lexicon : Lexicon) (tokens : List Nat) : Candidates :=
  let firsts := tokens.map fun t => lexicon.first.getD t []
  let freeFirsts := tokens.map fun t =>
    if ((lexicon.shapes[t]?).map (·.glued)).getD true then [] else lexicon.first.getD t []
  { all := firsts.foldl Slot.mergeAscending []
    free := freeFirsts.foldl Slot.mergeAscending [] }

/-- A recognised token: its number (`none` at the end of the text) and its extent. -/
structure Match where
  token : Option Nat
  start : Nat
  stop : Nat

def rankOf (lexicon : Lexicon) (t : Nat) : Int := ((lexicon.shapes[t]?).map (·.rank)).getD 0

def preferenceOf (lexicon : Lexicon) (t : Nat) : Nat :=
  ((lexicon.shapes[t]?).map (·.preference)).getD 0

def prefers (lexicon : Lexicon) (a b : Nat) : Bool :=
  let ra := lexicon.rankOf a
  let rb := lexicon.rankOf b
  if ra = rb then
    let pa := lexicon.preferenceOf a
    let pb := lexicon.preferenceOf b
    if pa = pb then a < b else pb < pa
  else rb < ra

/-- The outcome of looking for a token. A failure tells where the token would have begun and how far
the text was read. -/
inductive Scan where
  | found (m : Match)
  | failed (start stop : Nat)

/-- The walk after some characters: the positions that may come next, whether everything so far was
blank, whether a token has begun, its start, the token complete here and the best match so far. -/
structure Walk where
  next : List Nat
  blankSoFar : Bool
  begun : Bool
  start : Nat
  complete : Option Nat
  best : Option Match

def Walk.finish (w : Walk) (pos : Nat) : Scan :=
  match w.best with
  | some m => .found m
  | none => .failed w.start pos

/-- One step per character. Blanks before a token are skipped; where a blank may also begin a token
it belongs to the token. The null character is part of no token. -/
def walk (lexicon : Lexicon) (source : Array Char) (free : List Nat) (endAllowed : Bool) :
    Nat → Nat → Walk → Scan
  | 0, pos, w => w.finish pos
  | fuel + 1, pos, w =>
      match source[pos]? with
      | none => if endAllowed && w.blankSoFar && !w.begun then
          .found ⟨none, pos, pos⟩ else w.finish pos
      | some c =>
          let hit := w.next.filter fun p =>
            match lexicon.slots[p]? with
            | some slot => c != '\x00' && slot.set.contains c
            | none => false
          let blank := w.blankSoFar && lexicon.blank.contains c
          if hit.isEmpty && !blank then w.finish pos
          else
            let tokenOf (p : Nat) : Nat := ((lexicon.slots[p]?).map (·.token)).getD 0
            let rank : Option Int := hit.foldl (fun acc p =>
              let r := lexicon.rankOf (tokenOf p)
              match acc with
              | some a => some (max a r)
              | none => some r) (if blank then some 0 else none)
            let goesOn : Bool :=
              match w.complete, rank with
              | some t, some r =>
                  let done := lexicon.rankOf t
                  if r < done then false else !(r = done && hit.isEmpty)
              | _, _ => true
            if !goesOn then w.finish pos
            else
              let begun := w.begun || !hit.isEmpty
              let start := if hit.isEmpty then pos + 1 else w.start
              let finals := hit.filter fun p => ((lexicon.slots[p]?).map (·.final)).getD false
              let complete := finals.foldl (fun acc p =>
                let t := tokenOf p
                match acc with
                | some b => if lexicon.prefers t b then some t else some b
                | none => some t) (none : Option Nat)
              let best := match complete with
                | some t => some ⟨some t, start, pos + 1⟩
                | none => w.best
              let follow := hit.foldl (fun acc p =>
                Slot.mergeAscending acc (((lexicon.slots[p]?).map (·.follow)).getD [])) []
              let next := if blank then Slot.mergeAscending follow free else follow
              walk lexicon source free endAllowed fuel (pos + 1)
                { next, blankSoFar := blank, begun, start, complete, best }

def scan (lexicon : Lexicon) (source : Array Char) (c : Candidates) (endAllowed : Bool)
    (pos : Nat) : Scan :=
  walk lexicon source c.free endAllowed (source.size - pos + 1) pos
    { next := c.all, blankSoFar := true, begun := false, start := pos, complete := none, best := none }

end Lexicon

end Flowgraph
