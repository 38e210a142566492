import Flowgraph.Text.BreakClass

/-!
# Grapheme clusters

A text falls into extended grapheme clusters, what a reader takes for one character each. Whether a
cluster goes on is decided from the cluster so far and the next character, so segmentation is a walk
that carries a short summary of the open cluster.
-/

namespace Flowgraph.Grapheme

/-- How a character joins its neighbours. -/
inductive BreakClass where
  | other
  | cr
  | lf
  | control
  | extend
  | joiner
  | regional
  | prepend
  | spacingMark
  | lead
  | vowel
  | tail
  | openSyllable
  | closedSyllable
deriving DecidableEq, Inhabited

def breakClass (c : Char) : BreakClass :=
  let n := c.toNat
  if n = 0x0D then .cr
  else if n = 0x0A then .lf
  else if 0x20 ≤ n ∧ n < 0x7F then .other
  else if n = 0x200D then .joiner
  else if 0x1F1E6 ≤ n ∧ n ≤ 0x1F1FF then .regional
  else if 0xAC00 ≤ n ∧ n ≤ 0xD7A3 then
    if (n - 0xAC00) % 28 = 0 then .openSyllable else .closedSyllable
  else if extenders.contains c then .extend
  else if spacingMarks.contains c then .spacingMark
  else if controls.contains c then .control
  else if prependers.contains c then .prepend
  else if hangulLeads.contains c then .lead
  else if hangulVowels.contains c then .vowel
  else if hangulTails.contains c then .tail
  else .other

/-- How far the open cluster is into an emoji sequence. -/
inductive EmojiProgress where
  | outside
  | pictograph
  | joined
deriving DecidableEq, Inhabited

/-- How far the open cluster is into a conjunct: whether a consonant has been met, and whether a
linker has followed it. -/
inductive ConjunctProgress where
  | outside
  | consonant
  | linked
deriving DecidableEq, Inhabited

/-- What the open cluster says about the next character. -/
structure Context where
  last : BreakClass
  /-- The cluster ends in an unpaired regional indicator. -/
  unpaired : Bool
  emoji : EmojiProgress
  conjunct : ConjunctProgress
deriving DecidableEq, Inhabited

namespace Context

def nextEmoji (before : EmojiProgress) (c : Char) (cls : BreakClass) : EmojiProgress :=
  if pictographs.contains c then .pictograph
  else match before, cls with
    | .pictograph, .extend => .pictograph
    | .pictograph, .joiner => .joined
    | _, _ => .outside

def nextConjunct (before : ConjunctProgress) (c : Char) (cls : BreakClass) : ConjunctProgress :=
  if cls = .other then
    if conjunctLetters.contains c then .consonant else .outside
  else if before = .outside then .outside
  else if conjunctLinkers.contains c then .linked
  else if cls = .joiner ∨ (cls = .extend ∧ c.toNat ≠ 0x200C) then before
  else .outside

def start (c : Char) : Context :=
  let cls := breakClass c
  { last := cls, unpaired := cls = .regional, emoji := nextEmoji .outside c cls
    conjunct := nextConjunct .outside c cls }

/-- Whether the next character belongs to the open cluster. -/
def joins (ctx : Context) (c : Char) (cls : BreakClass) : Bool :=
  match ctx.last, cls with
  | .cr, .lf => true
  | .cr, _ | .lf, _ | .control, _ => false
  | _, .cr | _, .lf | _, .control => false
  | .lead, .lead | .lead, .vowel | .lead, .openSyllable | .lead, .closedSyllable => true
  | .openSyllable, .vowel | .openSyllable, .tail | .vowel, .vowel | .vowel, .tail => true
  | .closedSyllable, .tail | .tail, .tail => true
  | _, .extend | _, .joiner | _, .spacingMark => true
  | .prepend, _ => true
  | .regional, .regional => ctx.unpaired
  | _, _ =>
      (ctx.conjunct = .linked && conjunctLetters.contains c) ||
        (ctx.emoji = .joined && pictographs.contains c)

/-- The context of the open cluster with one more character, unless a new cluster begins there. -/
def extend? (ctx : Context) (c : Char) : Option Context :=
  let cls := breakClass c
  if ctx.joins c cls then
    some { last := cls, unpaired := cls = .regional && !ctx.unpaired
           emoji := nextEmoji ctx.emoji c cls, conjunct := nextConjunct ctx.conjunct c cls }
  else none

end Context

/-- The clusters of an open cluster (in reverse) followed by more text. -/
def clustersFrom (ctx : Context) (current : List Char) : List Char → List (List Char)
  | [] => [current.reverse]
  | c :: rest =>
      match ctx.extend? c with
      | some ctx => clustersFrom ctx (c :: current) rest
      | none => current.reverse :: clustersFrom (Context.start c) [c] rest

/-- The extended grapheme clusters of a text. -/
def clusters : List Char → List (List Char)
  | [] => []
  | c :: rest => clustersFrom (Context.start c) [c] rest

end Flowgraph.Grapheme
