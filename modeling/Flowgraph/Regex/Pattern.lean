import Flowgraph.Text.CharSet

/-!
# Patterns

Regular expressions over characters, with assertions about the place between two characters.
Matching is by partial derivatives: what remains to be matched after one character is a list of
patterns, any of which may match the rest.
-/

namespace Flowgraph

inductive Assertion where
  | textStart
  | textEnd
  | lineStart
  | lineEnd
  | lineStartCrlf
  | lineEndCrlf
  | boundary (word : CharSet)
  | notBoundary (word : CharSet)
  | wordStart (word : CharSet)
  | wordEnd (word : CharSet)
  | wordStartHalf (word : CharSet)
  | wordEndHalf (word : CharSet)
deriving DecidableEq, Inhabited

namespace Assertion

def neighbourIn (set : CharSet) : Option Char → Bool
  | some c => set.contains c
  | none => false

/-- The assertion holds between two neighbours; `none` stands for the end of the text. -/
def holds (before after : Option Char) : Assertion → Bool
  | .textStart => before = none
  | .textEnd => after = none
  | .lineStart => before = none || before = some '\n'
  | .lineEnd => after = none || after = some '\n'
  | .lineStartCrlf =>
      before = none || before = some '\n' || (before = some '\r' && after ≠ some '\n')
  | .lineEndCrlf =>
      after = none || after = some '\r' || (after = some '\n' && before ≠ some '\r')
  | .boundary word => neighbourIn word before != neighbourIn word after
  | .notBoundary word => neighbourIn word before == neighbourIn word after
  | .wordStart word => !neighbourIn word before && neighbourIn word after
  | .wordEnd word => neighbourIn word before && !neighbourIn word after
  | .wordStartHalf word => !neighbourIn word before
  | .wordEndHalf word => !neighbourIn word after

end Assertion

inductive Pattern where
  | empty
  | one (set : CharSet)
  | assert (condition : Assertion)
  | seq (a b : Pattern)
  | alt (a b : Pattern)
  /-- Between `least` and `most` copies; without `most`, any number from `least` on. -/
  | copies (a : Pattern) (least : Nat) (most : Option Nat)
deriving DecidableEq, Inhabited

namespace Pattern

def nullable (before after : Option Char) : Pattern → Bool
  | .empty => true
  | .one _ => false
  | .assert condition => condition.holds before after
  | .seq a b => a.nullable before after && b.nullable before after
  | .alt a b => a.nullable before after || b.nullable before after
  | .copies a least _ => least = 0 || a.nullable before after

/-- A sequence; an empty first part is left out. -/
def andThen : Pattern → Pattern → Pattern
  | .empty, b => b
  | a, b => .seq a b

/-- A sequence; an empty part is left out. -/
def followedBy : Pattern → Pattern → Pattern
  | a, .empty => a
  | a, b => a.andThen b

/-- What is left to match after the character `c`, which follows `before`. A copy that can be empty
where it stands can be so any number of times, so then no further copies are called for. -/
def derive (before : Option Char) (c : Char) : Pattern → List Pattern
  | .empty => []
  | .one set => if set.contains c then [.empty] else []
  | .assert _ => []
  | .seq a b =>
      (a.derive before c).map (·.andThen b) ++
        (if a.nullable before (some c) then b.derive before c else [])
  | .alt a b => a.derive before c ++ b.derive before c
  | .copies a least most =>
      if most = some 0 then []
      else
        let least := if a.nullable before (some c) then 0 else least - 1
        (a.derive before c).map (·.andThen (.copies a least (most.map (· - 1))))

/-- Whether one of the patterns under way, or `p` from some later place on, matches a beginning of
the text. -/
def matchesFrom (p : Pattern) (active : List Pattern) (before : Option Char) : List Char → Bool
  | [] => (p :: active).any fun q => q.nullable before none
  | c :: rest =>
      (p :: active).any (fun q => q.nullable before (some c)) ||
        matchesFrom p ((p :: active).flatMap fun q => q.derive before c).eraseDups (some c) rest

def isMatch (p : Pattern) (text : String) : Bool := p.matchesFrom [] none text.toList

end Pattern

end Flowgraph
