/-!
# Sets of characters

A character set is a list of disjoint ranges of code points in ascending order. Every constructor
keeps that form, so membership stops at the first range that starts past the character.
-/

namespace Flowgraph

/-- A set of code points, as disjoint closed ranges in ascending order. -/
structure CharSet where
  ranges : List (Nat × Nat)
deriving Inhabited

/-- Sets are compared by their ranges; a set that is compared with itself need not be looked at. -/
instance : DecidableEq CharSet := fun s t =>
  withPtrEqDecEq s t fun _ =>
    if h : s.ranges = t.ranges then
      isTrue (by cases s; cases t; cases h; rfl)
    else isFalse fun same => h (by rw [same])

namespace CharSet

def lastCode : Nat := 0x10FFFF

def empty : CharSet := ⟨[]⟩

def all : CharSet := ⟨[(0, lastCode)]⟩

/-- Joins ranges that overlap or touch; the list is ordered by lower bound. -/
def joinFrom (lo hi : Nat) : List (Nat × Nat) → List (Nat × Nat)
  | [] => [(lo, hi)]
  | (a, b) :: rest =>
      if a ≤ hi + 1 then joinFrom lo (max hi b) rest else (lo, hi) :: joinFrom a b rest

/-- The set with the given ranges, in any order; a range whose bounds are reversed is empty. -/
def ofRanges (ranges : List (Nat × Nat)) : CharSet :=
  match (ranges.filter fun r => r.1 ≤ r.2).mergeSort (fun r s => r.1 ≤ s.1) with
  | [] => ⟨[]⟩
  | (lo, hi) :: rest => ⟨joinFrom lo hi rest⟩

def single (c : Char) : CharSet := ⟨[(c.toNat, c.toNat)]⟩

def range (a b : Char) : CharSet := ofRanges [(a.toNat, b.toNat)]

def ofText (text : String) : CharSet := ofRanges (text.toList.map fun c => (c.toNat, c.toNat))

/-- One step of reading ranges from hexadecimal text: the ranges so far in reverse, the lower bound
if its dots have been read, and the number under way. -/
def hexStep (acc : List (Nat × Nat) × Option Nat × Nat) (c : Char) :
    List (Nat × Nat) × Option Nat × Nat :=
  let (done, lo, n) := acc
  if c = '.' then (done, some (lo.getD n), 0)
  else if c = ' ' then ((lo.getD n, n) :: done, none, 0)
  else (done, lo, 16 * n + (if c.isDigit then c.toNat - 48 else c.toNat - 55))

def hexRanges (text : String) : List (Nat × Nat) :=
  let (done, lo, n) := text.toList.foldl hexStep ([], none, 0)
  ((lo.getD n, n) :: done).reverse

/-- The set written as lines of ascending hexadecimal ranges, such as `"41..5A 5F"`. -/
def ofHex (lines : List String) : CharSet := ⟨lines.flatMap hexRanges⟩

def union (s t : CharSet) : CharSet := ofRanges (s.ranges ++ t.ranges)

/-- The gaps between ascending ranges, from `lo` on. -/
def gapsFrom (lo : Nat) : List (Nat × Nat) → List (Nat × Nat)
  | [] => if lo ≤ lastCode then [(lo, lastCode)] else []
  | (a, b) :: rest => if lo < a then (lo, a - 1) :: gapsFrom (b + 1) rest else gapsFrom (b + 1) rest

def complement (s : CharSet) : CharSet := ⟨gapsFrom 0 s.ranges⟩

def inter (s t : CharSet) : CharSet := (s.complement.union t.complement).complement

def diff (s t : CharSet) : CharSet := s.inter t.complement

def symmDiff (s t : CharSet) : CharSet := (s.diff t).union (t.diff s)

instance : Append CharSet := ⟨union⟩

/-- Membership in ascending ranges; the search ends at a range that starts past the code point. -/
def inRanges (code : Nat) : List (Nat × Nat) → Bool
  | [] => false
  | (a, b) :: rest => if code < a then false else code ≤ b || inRanges code rest

def contains (s : CharSet) (c : Char) : Bool := inRanges c.toNat s.ranges

def isEmpty (s : CharSet) : Bool := s.ranges.isEmpty

end CharSet

end Flowgraph
