import Flowgraph.Regex.Term
import Flowgraph.Text.Property
import Flowgraph.Text.Property.Case

/-!
# Character classes of patterns

The sets that the named classes of patterns stand for, with and without Unicode, and the closure of
a set under case.
-/

namespace Flowgraph.Regex

def digits : CharSet := Property.categorySet ["nd"]

def asciiDigits : CharSet := CharSet.ofHex ["30..39"]

def blanks : CharSet :=
  CharSet.ofHex ["9..D 20 85 A0 1680 2000..200A 2028 2029 202F 205F 3000"]

def asciiBlanks : CharSet := CharSet.ofHex ["9..D 20"]

/-- Letters, marks, digits, connectors and joiners. -/
def words : CharSet :=
  Property.categorySet ["mn", "mc", "me", "nd", "pc"] ++
    ((Property.binary? "alphabetic").getD .empty) ++ CharSet.ofHex ["200C..200D"]

def asciiWords : CharSet := CharSet.ofHex ["30..39 41..5A 5F 61..7A"]

def wordSet (unicode : Bool) : CharSet := if unicode then words else asciiWords

def PerlClass.set (unicode : Bool) : PerlClass → CharSet
  | .digit => if unicode then digits else asciiDigits
  | .space => if unicode then blanks else asciiBlanks
  | .word => wordSet unicode

def readGroup (text : List Char) : List Nat :=
  let step (acc : List Nat × Nat) (c : Char) : List Nat × Nat :=
    if c = '+' then (acc.2 :: acc.1, 0)
    else (acc.1, 16 * acc.2 + (if c.isDigit then c.toNat - 48 else c.toNat - 55))
  let (done, last) := text.foldl step ([], 0)
  last :: done

def splitBlanks (text : List Char) : List (List Char) :=
  let (done, last) := text.foldl
    (fun (acc : List (List Char) × List Char) c =>
      if c = ' ' then (acc.2.reverse :: acc.1, []) else (acc.1, c :: acc.2)) ([], [])
  (last.reverse :: done).reverse

def caseGroups : List (List Nat) :=
  Property.caseGroups.flatMap fun line => (splitBlanks line.toList).map readGroup

/-- A set together with the other cases of its characters; without Unicode only those of ASCII. -/
def foldCase (unicode : Bool) (s : CharSet) : CharSet :=
  let groups := if unicode then caseGroups else
    (List.range 26).map fun i => [65 + i, 97 + i]
  let more := groups.filter fun group => group.any fun n => CharSet.inRanges n s.ranges
  match more with
  | [] => s
  | _ => s ++ CharSet.ofRanges (more.flatten.map fun n => (n, n))

/-- Names of properties are compared without case, blanks, `_` and `-`. An `is` that the name begins
with does not count, unless only a `c` follows. -/
def normalizeName (name : String) : String :=
  let lower := name.toList.map Char.toLower
  let (led, rest) := match lower with
    | 'i' :: 's' :: rest => (true, rest)
    | _ => (false, lower)
  let kept := rest.filter fun c => c ≠ ' ' && c ≠ '_' && c ≠ '-' && c.toNat < 128
  if led && kept = ['c'] then "isc" else String.ofList kept

/-- The set that a property query asks for. A name of a property goes before one of a category or a
script, but for the names `cf`, `sc` and `lc`. -/
def PropertyQuery.set : PropertyQuery → Except FaultKind CharSet
  | .named name =>
      let name := normalizeName name
      if ["cf", "sc", "lc"].all (· != name) && Property.isName name then
        match Property.binary? name with
        | some s => .ok s
        | none => .error .propertyNotFound
      else
        match (Property.category? name).orElse fun _ => Property.script? name with
        | some s => .ok s
        | none =>
            if ["cs", "surrogate"].contains name || Property.emptyScripts.contains name then
              .error .propertyValueNotFound
            else .error .propertyNotFound
  | .valued name value =>
      let name := normalizeName name
      match Property.valued? name (normalizeName value) with
      | some (some s) => .ok s
      | some none => .error .propertyValueNotFound
      | none =>
          if Property.isName name then .error .propertyValueNotFound else .error .propertyNotFound

end Flowgraph.Regex
