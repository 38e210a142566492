/-!
# Source texts

A text opened for parsing: its characters, and for each of them (and for the end) how many bytes and
how many line breaks come before it. The parser counts in characters; trees are reported in bytes.
-/

namespace Flowgraph

structure Source where
  chars : Array Char
  bytes : Array Nat
  rows : Array Nat

namespace Source

def tally (text : List Char) : Array Nat × Array Nat :=
  let (bytes, rows, b, r) := text.foldl
    (fun (acc : Array Nat × Array Nat × Nat × Nat) c =>
      let (bytes, rows, b, r) := acc
      (bytes.push b, rows.push r, b + c.utf8Size, if c = '\n' then r + 1 else r))
    (#[], #[], 0, 0)
  (bytes.push b, rows.push r)

def ofString (text : String) : Source :=
  let chars := text.toList
  let (bytes, rows) := tally chars
  { chars := chars.toArray, bytes, rows }

def size (s : Source) : Nat := s.chars.size

def byteAt (s : Source) (pos : Nat) : Nat := s.bytes.getD pos 0

def rowAt (s : Source) (pos : Nat) : Nat := s.rows.getD pos 0

/-- The character at a position; the end of the text reads as the null character. -/
def charAt (s : Source) (pos : Nat) : Char := s.chars.getD pos '\x00'

def slice (s : Source) (start stop : Nat) : String :=
  String.ofList (s.chars.extract start stop).toList

end Source

end Flowgraph
