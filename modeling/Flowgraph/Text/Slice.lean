import Flowgraph.Text.Span

/-!
# Slices

The part of a text in a byte range. Offsets count bytes of UTF-8; one that falls inside a character
gives no slice.
-/

namespace Flowgraph.Text

def byteSize : List Char → Nat
  | [] => 0
  | c :: rest => c.utf8Size + byteSize rest

/-- Splits a text after `n` bytes; `taken` holds what has been taken, in reverse. -/
def splitBytesFrom (taken : List Char) (n : Nat) : List Char → Option (List Char × List Char)
  | [] => if n = 0 then some (taken.reverse, []) else none
  | c :: rest =>
      if n = 0 then some (taken.reverse, c :: rest)
      else if c.utf8Size ≤ n then splitBytesFrom (c :: taken) (n - c.utf8Size) rest
      else none

/-- Splits a text after `n` bytes, if that is the boundary of a character. -/
def splitBytes (n : Nat) (text : List Char) : Option (List Char × List Char) :=
  splitBytesFrom [] n text

def slice? (text : List Char) (span : Span) : Option (List Char) :=
  if span.start ≤ span.stop then
    (splitBytes span.start text).bind fun (_, rest) =>
      (splitBytes (span.stop - span.start) rest).map (·.1)
  else none

/-- The text in a byte range; nothing where the range does not fit the text. -/
def slice (text : String) (span : Span) : String :=
  String.ofList ((slice? text.toList span).getD [])

end Flowgraph.Text
