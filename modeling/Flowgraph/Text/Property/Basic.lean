import Flowgraph.Text.CharSet

/-!
# Named sets of characters

Tables of character sets are searched by name. A set stands in a table with its ranges, or with the
other sets that it is put together from.
-/

namespace Flowgraph

/-- A set under its names, as lines of ascending hexadecimal ranges. -/
structure NamedSet where
  names : List String
  ranges : List String

namespace NamedSet

def set (s : NamedSet) : CharSet := CharSet.ofHex s.ranges

def row? (table : List NamedSet) (name : String) : Option NamedSet :=
  table.find? fun s => s.names.contains name

def find? (table : List NamedSet) (name : String) : Option CharSet := (row? table name).map set

def join (rows : List NamedSet) : CharSet := CharSet.ofRanges (rows.flatMap fun s => s.set.ranges)

end NamedSet

/-- A set under its names that is put together: the sets named by `parts` and the ranges `more`,
without the sets named by `without` and the ranges `apart`. -/
structure DerivedSet where
  names : List String
  parts : List String
  more : List String
  without : List String
  apart : List String

namespace DerivedSet

/-- The set, where `find` gives the sets that are named. -/
def set (find : String → CharSet) (s : DerivedSet) : CharSet :=
  let join (names ranges : List String) : CharSet :=
    CharSet.ofRanges (names.flatMap (fun n => (find n).ranges) ++ (CharSet.ofHex ranges).ranges)
  let out := join s.without s.apart
  if out.isEmpty then join s.parts s.more else (join s.parts s.more).diff out

def find? (find : String → CharSet) (table : List DerivedSet) (name : String) : Option CharSet :=
  (table.find? fun s => s.names.contains name).map (set find)

end DerivedSet

end Flowgraph
