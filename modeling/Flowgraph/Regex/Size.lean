import Std.Data.HashMap
import Flowgraph.Regex.Shape

/-!
# The size of a pattern

A pattern stands for two machines that read the bytes of a text, one forward and one backward.
`Machine.extent` says how much of each is made for a shape, with counted copies written out, and a
shape fits when neither takes more memory than `Machine.sizeLimit`.

A set that goes beyond ASCII is read along the byte sequences of its characters. States that read
the same are made once as long as a table of limited size remembers them, so the numbers of the
states made before have a part in how many are made.
-/

namespace Flowgraph

namespace CharSet

/-- The byte sequences of a range of codes with the given number of continuation bytes; `mark`
stands in front of the first byte. Each sequence allows one range of bytes at every place. -/
def byteSequences (mark : Nat) : Nat → Nat → Nat → List (List (Nat × Nat))
  | 0, lo, hi => [[(mark + lo, mark + hi)]]
  | more + 1, lo, hi =>
      let part := 64 ^ (more + 1)
      let inner (first last l h : Nat) : List (List (Nat × Nat)) :=
        (byteSequences 128 more l h).map ((mark + first, mark + last) :: ·)
      let a := lo / part
      let b := hi / part
      if a = b then inner a b (lo % part) (hi % part)
      else
        let front := if lo % part = 0 then [] else inner a a (lo % part) (part - 1)
        let back := if hi % part = part - 1 then [] else inner b b 0 (hi % part)
        let first := if front.isEmpty then a else a + 1
        let last := if back.isEmpty then b else b - 1
        front ++ (if first ≤ last then inner first last 0 (part - 1) else []) ++ back

/-- The codes by the length of their encoding: bounds, continuation bytes and mark. The gap lies
where no character is. -/
def encodings : List (Nat × Nat × Nat × Nat) :=
  [(0, 0x7F, 0, 0), (0x80, 0x7FF, 1, 0xC0), (0x800, 0xD7FF, 2, 0xE0), (0xE000, 0xFFFF, 2, 0xE0),
   (0x10000, lastCode, 3, 0xF0)]

def bytes (s : CharSet) : List (List (Nat × Nat)) :=
  s.ranges.flatMap fun (lo, hi) =>
    encodings.flatMap fun (first, last, more, mark) =>
      if max lo first ≤ min hi last then byteSequences mark more (max lo first) (min hi last)
      else []

def isAscii (s : CharSet) : Bool := s.ranges.all fun r => r.2 < 128

end CharSet

/-- How much of a machine has been made: its states, and the memory of the links between them. -/
structure Machine where
  states : Nat
  links : Nat
deriving DecidableEq, Inhabited

namespace Machine

/-- The memory that a state takes, a link that reads a range of bytes, and a link that reads
none. -/
def stateSize : Nat := 32
def rangeSize : Nat := 8
def linkSize : Nat := 4

def sizeLimit : Nat := 10485760

def start : Machine := ⟨0, 0⟩

def size (m : Machine) : Nat := stateSize * m.states + m.links

def add (m : Machine) (links : Nat) : Machine := ⟨m.states + 1, m.links + links⟩

def fork : Nat := 2 * linkSize

def mix (h : UInt64) (n : Nat) : UInt64 := (h ^^^ n.toUInt64) * 1099511628211

def placeOf (places : Nat) (key : List Nat) : Nat :=
  (key.foldl mix 14695981039346656037).toNat % places

/-- A table of limited size: a key that comes to a place drives out the one that was there. -/
structure Memo where
  places : Nat
  entries : Std.HashMap Nat (List Nat × Nat)

namespace Memo

def empty (places : Nat) : Memo := ⟨places, ∅⟩

/-- The state under a key, made with the given links if it is not remembered. -/
def state (memo : Memo) (key : List Nat) (links : Nat) (m : Machine) : Nat × Memo × Machine :=
  let place := placeOf memo.places key
  let fresh := (m.states, { memo with entries := memo.entries.insert place (key, m.states) },
    m.add links)
  match memo.entries[place]? with
  | some (known, s) => if known = key then (s, memo, m) else fresh
  | none => fresh

end Memo

/-- A state on the way along the sequence under way: the ranges that it has done with, as numbers in
reverse, how many they are, and the range that it goes on with. -/
structure Junction where
  done : List Nat
  count : Nat
  current : Nat × Nat

namespace Junction

def fresh (range : Nat × Nat) : Junction := ⟨[], 0, range⟩

def close (j : Junction) (next : Nat) : Junction :=
  { j with done := next :: j.current.2 :: j.current.1 :: j.done, count := j.count + 1 }

end Junction

/-- Makes the states of a way from its end on; says which one it begins with. -/
def closeWay (goal : Nat) (memo : Memo) (m : Machine) : List Junction → Nat × Memo × Machine
  | [] => (goal, memo, m)
  | j :: deeper =>
      let (next, memo, m) := closeWay goal memo m deeper
      let j := j.close next
      memo.state j.done.reverse (rangeSize * j.count) m

/-- Goes on with another sequence: the way is kept as far as the two agree. -/
def turn (goal : Nat) (memo : Memo) (m : Machine) :
    List Junction → List (Nat × Nat) → List Junction × Memo × Machine
  | j :: deeper, range :: rest =>
      if j.current = range then
        let (deeper, memo, m) := turn goal memo m deeper rest
        (j :: deeper, memo, m)
      else
        let (next, memo, m) := closeWay goal memo m deeper
        ({ j.close next with current := range } :: rest.map Junction.fresh, memo, m)
  | _, ranges => (ranges.map Junction.fresh, memo, m)

def readForward (sequences : List (List (Nat × Nat))) (m : Machine) : Machine :=
  let goal := m.states
  let (way, memo, m) := sequences.foldl
    (fun (acc : List Junction × Memo × Machine) ranges => turn goal acc.2.1 acc.2.2 acc.1 ranges)
    ([], Memo.empty 10000, m.add 0)
  (closeWay goal memo m way).2.2

def readBackward (sequences : List (List (Nat × Nat))) (m : Machine) : Machine :=
  let m := m.add (linkSize * sequences.length)
  let goal := m.states
  let step (acc : Nat × Memo × Machine) (range : Nat × Nat) : Nat × Memo × Machine :=
    acc.2.1.state [acc.1, range.1, range.2] 0 acc.2.2
  (sequences.foldl (fun (acc : Memo × Machine) ranges =>
    (ranges.foldl step (goal, acc.1, acc.2)).2) (Memo.empty 1000, m.add 0)).2

/-- The strings of one state of a tree of strings, parted where one of them ends. The parts are in
reverse, and so is each of them; a string that ends again where nothing has been added since the
first end counts once. -/
def partAtEnds (strings : List (List Nat)) : List (List (List Nat)) :=
  strings.foldl (fun parts s =>
    match s, parts with
    | [], current :: earlier =>
        if earlier.all List.isEmpty && current.isEmpty && !earlier.isEmpty then parts
        else [] :: current :: earlier
    | _, current :: earlier => (s :: current) :: earlier
    | _, [] => [[s]]) [[]]

/-- Makes the states of a tree of strings: one that chooses among its parts, one for each part, and
those of the trees that its bytes lead to. What only ends needs no state. -/
def readTree : Nat → List (List Nat) → Machine → Machine
  | 0, _, m => m
  | fuel + 1, strings, m =>
      if strings.all List.isEmpty then m
      else
        let parts := partAtEnds strings
        let filled := parts.filter (!·.isEmpty)
        let m := m.add (linkSize * (filled.length + (parts.length - 1)))
        filled.foldl (fun (m : Machine) (part : List (List Nat)) =>
          let bytes : List Nat := (part.map fun s => s.headD 0).eraseDups
          let m := m.add (if bytes.length = 1 then 0 else rangeSize * bytes.length)
          bytes.foldl (fun m b =>
            readTree fuel
              ((part.reverse.filter (·.head? = some b)).map (·.drop 1)) m) m) m

/-- Adds copies one by one, and stops when there are too many. -/
def addCopies (copy : Machine → Machine) : Nat → Machine → Machine
  | 0, m => m
  | n + 1, m => if sizeLimit < m.size then m else addCopies copy n (copy m)

end Machine

inductive Direction where
  | forward
  | backward
deriving DecidableEq, Inhabited

namespace Shape

def bytesOf (text : List Char) : List Nat :=
  text.flatMap fun c => (String.utf8EncodeChar c).map UInt8.toNat

def literal? : Shape → Option (List Nat)
  | .literal text => some (bytesOf text)
  | _ => none

def addSet (d : Direction) (chars : CharSet) (m : Machine) : Machine :=
  if chars.isAscii then (m.add 0).add (Machine.rangeSize * chars.ranges.length)
  else match d with
    | .forward => m.readForward chars.bytes
    | .backward => m.readBackward chars.bytes

def addStrings (d : Direction) (strings : List (List Nat)) (m : Machine) : Machine :=
  let strings := match d with
    | .forward => strings
    | .backward => strings.map List.reverse
  Machine.readTree ((strings.map List.length).foldl max 0 + 1) strings (m.add 0)

mutual

def addTo (d : Direction) : Shape → Machine → Machine
  | .empty, m => m.add 0
  | .literal text, m => (bytesOf text).foldl (fun m _ => m.add 0) m
  | .set chars _, m => addSet d chars m
  | .assert _, m => m.add 0
  | .copies a least none _, m =>
      if least = 0 then
        if a.leastLength?.any (0 < ·) then a.addTo d (m.add Machine.fork)
        else (((a.addTo d m).add Machine.fork).add Machine.fork).add 0
      else (Machine.addCopies (a.addTo d) least m).add Machine.fork
  | .copies a least (some most) _, m =>
      if least = 0 && most = 1 then (a.addTo d (m.add Machine.fork)).add 0
      else
        let m := if least = 0 then m.add 0 else Machine.addCopies (a.addTo d) least m
        if least = most then m
        else
          Machine.addCopies (fun m => a.addTo d (m.add Machine.fork)) (most - least) (m.add 0)
  | .group _ a, m =>
      match d with
      | .forward => (a.addTo d (m.add 0)).add 0
      | .backward => a.addTo d m
  | .sequence parts, m => addAll d parts m
  | .choice branches, m =>
      match branches.mapM literal? with
      | some strings => addStrings d strings m
      | none => addAny d branches 0 m

/-- Makes the states of parts that follow each other, in the order in which they are read. -/
def addAll (d : Direction) : List Shape → Machine → Machine
  | [], m => m
  | a :: rest, m =>
      match d with
      | .forward => addAll d rest (a.addTo d m)
      | .backward => a.addTo d (addAll d rest m)

/-- Makes the states of branches. The states where they part and meet come after the second one. -/
def addAny (d : Direction) : List Shape → Nat → Machine → Machine
  | [], _, m => m
  | a :: rest, before, m =>
      let m := a.addTo d m
      let m := if before = 1 then (m.add 0).add 0 else m
      addAny d rest (before + 1) { m with links := m.links + Machine.linkSize }

end

mutual

/-- Every match begins at the start of the text, as far as the shape's outside shows. -/
def atStart : Shape → Bool
  | .assert condition => condition = .textStart
  | .copies a least _ _ => 0 < least && a.atStart
  | .group _ a => a.atStart
  | .sequence parts => someAtStart parts
  | .choice branches => allAtStart branches
  | _ => false

/-- One of the parts up to the first one that can read something begins at the start. -/
def someAtStart : List Shape → Bool
  | [] => false
  | a :: rest => a.atStart || (a.onlyEmpty && someAtStart rest)

def allAtStart : List Shape → Bool
  | [] => true
  | a :: rest => a.atStart && allAtStart rest

end

mutual

/-- Every match stops at the end of the text, as far as the shape's outside shows. -/
def atEnd : Shape → Bool
  | .assert condition => condition = .textEnd
  | .copies a least _ _ => 0 < least && a.atEnd
  | .group _ a => a.atEnd
  | .sequence parts => (someAtEnd parts).1
  | .choice branches => allAtEnd branches
  | _ => false

/-- One of the parts from the last one that can read something on stops at the end; and whether none
of the parts can read anything. -/
def someAtEnd : List Shape → Bool × Bool
  | [] => (false, true)
  | a :: rest =>
      let (stops, still) := someAtEnd rest
      (stops || (still && a.atEnd), still && a.onlyEmpty)

def allAtEnd : List Shape → Bool
  | [] => true
  | a :: rest => a.atEnd && allAtEnd rest

end

/-- The machine of a shape. One that may begin anywhere has states that pass over what comes before,
and one that reads forward marks where the match begins and ends. -/
def machine (d : Direction) (a : Shape) : Machine :=
  let fixed := match d with
    | .forward => a.atStart
    | .backward => a.atEnd
  let m := if fixed then Machine.start.add 0
    else ((Machine.start.add Machine.fork).add 0).add Machine.rangeSize
  match d with
  | .forward => ((a.addTo d (m.add 0)).add 0).add 0
  | .backward => (a.addTo d m).add 0

def fits (a : Shape) : Bool :=
  (a.machine .forward).size ≤ Machine.sizeLimit && (a.machine .backward).size ≤ Machine.sizeLimit

end Shape

end Flowgraph
