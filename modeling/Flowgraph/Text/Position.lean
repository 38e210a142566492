import Flowgraph.Text.Blank
import Flowgraph.Text.Numeral
import Flowgraph.Text.Slice

/-!
# Lines and columns

A place in a text is a byte offset, or a line and a column, both counted from 1 and in characters.
A line keeps its line feed as its last character, and a column past its last character stands for
the end of the line, after the line feed.
-/

namespace Flowgraph

/-- A line and a column, both from 1. -/
structure Location where
  line : Nat
  column : Nat
deriving DecidableEq, Inhabited, Repr

namespace Location

def after (place : Location) (c : Char) : Location :=
  if c = '\n' then ⟨place.line + 1, 1⟩ else ⟨place.line, place.column + 1⟩

/-- Walks from the known location of the byte offset `here` to the byte offset `offset`. -/
def walk (place : Location) (here offset : Nat) : List Char → Location
  | [] => place
  | c :: rest =>
      if offset ≤ here then place else walk (place.after c) (here + c.utf8Size) offset rest

def ofOffset (text : String) (offset : Nat) : Location := walk ⟨1, 1⟩ 0 offset text.toList

inductive Fault where
  | noColon (text : String)
  | badLine (cause : Numeral.Fault)
  | badColumn (cause : Numeral.Fault)
  | zero
  | pastEnd (line : Nat)
deriving DecidableEq, Inhabited

def Fault.message : Fault → String
  | .noColon text => "expected LINE:COL, got \x60" ++ text ++ "\x60"
  | .badLine cause => "line must be a number: " ++ cause.message
  | .badColumn cause => "column must be a number: " ++ cause.message
  | .zero => "line and column are 1-based"
  | .pastEnd line => "line " ++ Numeral.render line ++ " is past the end of the file"

/-- The bytes before a column of the line that the text begins with. -/
def bytesToColumn : Nat → List Char → Nat
  | 0, _ => 0
  | _, [] => 0
  | n + 1, c :: rest =>
      if c = '\n' then c.utf8Size else c.utf8Size + bytesToColumn n rest

/-- The rest of a text from its next line on, and the bytes before it; `none` on the last line. -/
def nextLine (here : Nat) : List Char → Option (Nat × List Char)
  | [] => none
  | c :: rest => if c = '\n' then some (here + c.utf8Size, rest) else nextLine (here + c.utf8Size) rest

/-- The byte offset of a column, `skip` lines further on. A text that has ended has no line left. -/
def seek (column here : Nat) : Nat → List Char → Option Nat
  | _, [] => none
  | 0, text => some (here + bytesToColumn column text)
  | skip + 1, text => (nextLine here text).bind fun (next, rest) => seek column next skip rest

def offset? (text : String) (place : Location) : Option Nat :=
  seek (place.column - 1) 0 (place.line - 1) text.toList

/-- Reads a position, a line and a column with a colon between them. -/
def read (text : String) : Except Fault Location :=
  match Text.splitOnce ':' text.toList with
  | none => .error (.noColon text)
  | some (line, column) =>
      match Numeral.read Numeral.max64 (Text.trim line) with
      | .error cause => .error (.badLine cause)
      | .ok line =>
          match Numeral.read Numeral.max64 (Text.trim column) with
          | .error cause => .error (.badColumn cause)
          | .ok column => if line = 0 ∨ column = 0 then .error .zero else .ok ⟨line, column⟩

def resolve (text position : String) : Except Fault Nat :=
  match read position with
  | .error fault => .error fault
  | .ok place =>
      match place.offset? text with
      | some offset => .ok offset
      | none => .error (.pastEnd place.line)

end Location

end Flowgraph
