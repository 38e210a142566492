import Flowgraph.Regex.Pattern

/-!
# The shapes of patterns

A shape is a pattern in a simple form: no sequence or choice stands directly inside another one,
characters in a row are one literal, a choice among single characters is a set, and what all
branches of a choice begin with stands in front of it. The constructors `Shape.ofSet`,
`Shape.copiesOf`, `Shape.sequenceOf` and `Shape.choiceOf` keep that form. `Shape.pattern` says what
a shape matches; how many copies come first to mind, and the numbers of groups, make no difference
to that.
-/

namespace Flowgraph

inductive Shape where
  | empty
  /-- Characters in a row, at least one. -/
  | literal (text : List Char)
  /-- A set of characters, not of exactly one; without `unicode` it is one of single bytes. -/
  | set (chars : CharSet) (unicode : Bool)
  | assert (condition : Assertion)
  | copies (a : Shape) (least : Nat) (most : Option Nat) (lazy : Bool)
  | group (number : Nat) (a : Shape)
  | sequence (parts : List Shape)
  | choice (branches : List Shape)
deriving Inhabited

namespace Shape

def fail : Shape := .set .empty false

mutual

def same : Shape → Shape → Bool
  | .empty, .empty => true
  | .literal s, .literal t => s = t
  | .set s u, .set t v => s = t && u = v
  | .assert c, .assert d => c = d
  | .copies a least most lazy, .copies b least' most' lazy' =>
      least = least' && most = most' && lazy = lazy' && a.same b
  | .group n a, .group m b => n = m && a.same b
  | .sequence as, .sequence bs => sameAll as bs
  | .choice as, .choice bs => sameAll as bs
  | _, _ => false

def sameAll : List Shape → List Shape → Bool
  | [], [] => true
  | a :: as, b :: bs => a.same b && sameAll as bs
  | _, _ => false

end

mutual

def onlyEmpty : Shape → Bool
  | .empty | .assert _ => true
  | .literal _ | .set _ _ => false
  | .copies a _ most _ => most.isSome && a.onlyEmpty
  | .group _ a => a.onlyEmpty
  | .sequence parts => allOnlyEmpty parts
  | .choice branches => allOnlyEmpty branches

def allOnlyEmpty : List Shape → Bool
  | [] => true
  | a :: rest => a.onlyEmpty && allOnlyEmpty rest

end

mutual

/-- The fewest characters that are matched, if there is a match at all. -/
def leastLength? : Shape → Option Nat
  | .empty | .assert _ => some 0
  | .literal text => some text.length
  | .set chars _ => if chars.isEmpty then none else some 1
  | .copies a least _ _ => a.leastLength?.map (least * ·)
  | .group _ a => a.leastLength?
  | .sequence parts => sumOfLeast? parts
  | .choice branches => leastAmong? branches

def sumOfLeast? : List Shape → Option Nat
  | [] => some 0
  | a :: rest =>
      match a.leastLength?, sumOfLeast? rest with
      | some m, some n => some (m + n)
      | _, _ => none

def leastAmong? : List Shape → Option Nat
  | [] => none
  | [a] => a.leastLength?
  | a :: rest =>
      match a.leastLength?, leastAmong? rest with
      | some m, some n => some (min m n)
      | _, _ => none

end

def ofSet (unicode : Bool) (s : CharSet) : Shape :=
  let ranges := (s.ranges.map fun (lo, hi) =>
    (if 0xD800 ≤ lo && lo < 0xE000 then 0xE000 else lo,
     if 0xD800 ≤ hi && hi < 0xE000 then 0xD7FF else hi)).filter fun r => r.1 ≤ r.2
  match ranges with
  | [] => fail
  | [(lo, hi)] => if lo = hi then .literal [Char.ofNat lo] else .set ⟨ranges⟩ unicode
  | _ => .set ⟨ranges⟩ unicode

/-- Between `least` and `most` copies. What can only be empty need not be repeated. -/
def copiesOf (a : Shape) (least : Nat) (most : Option Nat) (lazy : Bool) : Shape :=
  let (least, most) :=
    if a.onlyEmpty then (min least 1, some ((most.map (min · 1)).getD 1)) else (least, most)
  if most = some 0 then .empty
  else if least = 1 && most = some 1 then a
  else .copies a least most lazy

def joinLiterals : List Shape → List Shape
  | [] => []
  | .literal text :: rest =>
      match joinLiterals rest with
      | .literal more :: others => .literal (text ++ more) :: others
      | others => .literal text :: others
  | a :: rest => a :: joinLiterals rest

def partsOf : Shape → List Shape
  | .empty => []
  | .sequence parts => parts
  | a => [a]

def sequenceOf (parts : List Shape) : Shape :=
  match joinLiterals (parts.flatMap partsOf) with
  | [] => .empty
  | [a] => a
  | parts => .sequence parts

def branchesOf : Shape → List Shape
  | .choice branches => branches
  | a => [a]

def single? : Shape → Option Char
  | .literal [c] => some c
  | _ => none

def set? : Shape → Option CharSet
  | .set chars _ => some chars
  | _ => none

/-- How many parts two sequences have in common from the start on. -/
def commonParts : List Shape → List Shape → Nat
  | a :: as, b :: bs => if a.same b then commonParts as bs + 1 else 0
  | _, _ => 0

/-- A choice; one among characters or among sets is a set. -/
def plainChoice (branches : List Shape) : Shape :=
  match branches.flatMap branchesOf with
  | [] => fail
  | [a] => a
  | branches =>
      match branches.mapM single? with
      | some chars => ofSet true (CharSet.ofText (String.ofList chars))
      | none =>
          match branches.mapM set? with
          | some sets => ofSet true (CharSet.ofRanges (sets.flatMap CharSet.ranges))
          | none => .choice branches

/-- The parts of every branch, if all branches are sequences. -/
def sequences? (branches : List Shape) : Option (List (List Shape)) :=
  branches.mapM fun
    | .sequence parts => some parts
    | _ => none

/-- A choice; what all branches begin with is taken out. -/
def choiceOf (branches : List Shape) : Shape :=
  match plainChoice branches with
  | .choice branches =>
      match sequences? branches with
      | some (first :: others) =>
          let n := (others.map (commonParts first)).foldl min first.length
          if n = 0 then .choice branches
          else sequenceOf (first.take n ++
            [plainChoice ((first :: others).map fun parts => sequenceOf (parts.drop n))])
      | _ => .choice branches
  | a => a

mutual

def pattern : Shape → Pattern
  | .empty => .empty
  | .literal text => text.foldr (fun c p => (Pattern.one (.single c)).followedBy p) .empty
  | .set chars _ => .one chars
  | .assert condition => .assert condition
  | .copies a least most _ => .copies a.pattern least most
  | .group _ a => a.pattern
  | .sequence parts => patternOfAll parts
  | .choice branches => patternOfAny branches

def patternOfAll : List Shape → Pattern
  | [] => .empty
  | a :: rest => a.pattern.followedBy (patternOfAll rest)

def patternOfAny : List Shape → Pattern
  | [] => .one .empty
  | [a] => a.pattern
  | a :: rest => .alt a.pattern (patternOfAny rest)

end

end Shape

end Flowgraph
