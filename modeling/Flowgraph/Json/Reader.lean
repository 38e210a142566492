import Flowgraph.Json.Value

/-!
# Reading JSON

A text is one JSON value with blanks around it. Values may be nested up to a given depth. The reader
returns what follows the value, so it is bounded by the length of the text.
-/

namespace Flowgraph.Json

def isBlank (c : Char) : Bool := c = ' ' || c = '\n' || c = '\t' || c = '\r'

def skipBlanks (text : List Char) : List Char := text.dropWhile isBlank

def hexValue? (c : Char) : Option Nat :=
  if '0' ≤ c ∧ c ≤ '9' then some (c.toNat - 48)
  else if 'a' ≤ c ∧ c ≤ 'f' then some (c.toNat - 87)
  else if 'A' ≤ c ∧ c ≤ 'F' then some (c.toNat - 55)
  else none

def unit? (a b c d : Char) : Option Nat := do
  let a ← hexValue? a
  let b ← hexValue? b
  let c ← hexValue? c
  let d ← hexValue? d
  return ((a * 16 + b) * 16 + c) * 16 + d

def isHighSurrogate (n : Nat) : Bool := 0xD800 ≤ n && n < 0xDC00

def isLowSurrogate (n : Nat) : Bool := 0xDC00 ≤ n && n < 0xE000

def simpleEscape? : Char → Option Char
  | '"' => some '"'
  | '\\' => some '\\'
  | '/' => some '/'
  | 'b' => some '\x08'
  | 'f' => some '\x0c'
  | 'n' => some '\n'
  | 'r' => some '\r'
  | 't' => some '\t'
  | _ => none

/-- Reads the rest of a string up to its closing quote; `done` is in reverse. A character beyond the
basic plane is escaped as a pair of surrogates, and a lone surrogate is refused. -/
def stringRest (done : List Char) : List Char → Option (String × List Char)
  | '"' :: rest => some (String.ofList done.reverse, rest)
  | '\\' :: 'u' :: a :: b :: c :: d :: rest =>
      match unit? a b c d with
      | none => none
      | some n =>
          if isLowSurrogate n then none
          else if isHighSurrogate n then
            match rest with
            | '\\' :: 'u' :: e :: f :: g :: h :: rest =>
                match unit? e f g h with
                | some m =>
                    if isLowSurrogate m then
                      stringRest
                        (Char.ofNat (0x10000 + (n - 0xD800) * 1024 + (m - 0xDC00)) :: done) rest
                    else none
                | none => none
            | _ => none
          else stringRest (Char.ofNat n :: done) rest
  | '\\' :: c :: rest =>
      match simpleEscape? c with
      | some c => stringRest (c :: done) rest
      | none => none
  | c :: rest => if c.toNat < 0x20 ∨ c = '\\' then none else stringRest (c :: done) rest
  | [] => none

def digitsOf (text : List Char) : List Char × List Char :=
  (text.takeWhile Char.isDigit, text.dropWhile Char.isDigit)

/-- Reads a fraction if there is one; `none` if it is broken off. -/
def fraction (text : List Char) : Option (List Char × List Char) :=
  match text with
  | '.' :: rest =>
      match digitsOf rest with
      | ([], _) => none
      | (digits, rest) => some ('.' :: digits, rest)
  | _ => some ([], text)

/-- Reads an exponent if there is one; `none` if it is broken off. -/
def exponent (text : List Char) : Option (List Char × List Char) :=
  let digits (mark : List Char) (rest : List Char) : Option (List Char × List Char) :=
    match digitsOf rest with
    | ([], _) => none
    | (digits, rest) => some (mark ++ digits, rest)
  match text with
  | 'e' :: '+' :: rest | 'E' :: '+' :: rest => digits ['e', '+'] rest
  | 'e' :: '-' :: rest | 'E' :: '-' :: rest => digits ['e', '-'] rest
  | 'e' :: rest | 'E' :: rest => digits ['e'] rest
  | _ => some ([], text)

def decimalValue (digits : List Char) : Nat :=
  digits.foldl (fun n c => 10 * n + (c.toNat - 48)) 0

/-- Reads a number without its sign. A zero in front stands alone. Minus zero is not an integer. -/
def number (negative : Bool) (text : List Char) : Option (Json × List Char) := do
  let (digits, rest) := digitsOf text
  if digits.isEmpty || (digits.head? = some '0' && digits.length ≠ 1) then none
  let (fractionText, rest) ← fraction rest
  let (exponentText, rest) ← exponent rest
  let n := decimalValue digits
  if fractionText.isEmpty && exponentText.isEmpty && !(negative && n = 0) then
    return (.int (if negative then -(n : Int) else n), rest)
  else
    let sign := if negative then ['-'] else []
    return (.decimal (String.ofList (sign ++ digits ++ fractionText ++ exponentText)), rest)

mutual

/-- Reads a value, which may be nested `depth` levels deep. -/
def value (fuel depth : Nat) (text : List Char) : Option (Json × List Char) :=
  match fuel with
  | 0 => none
  | fuel + 1 =>
      match skipBlanks text with
      | 'n' :: 'u' :: 'l' :: 'l' :: rest => some (.null, rest)
      | 't' :: 'r' :: 'u' :: 'e' :: rest => some (.bool true, rest)
      | 'f' :: 'a' :: 'l' :: 's' :: 'e' :: rest => some (.bool false, rest)
      | '"' :: rest => (stringRest [] rest).map fun (s, rest) => (.text s, rest)
      | '-' :: rest => number true rest
      | '[' :: rest =>
          if depth = 0 then none
          else
            match skipBlanks rest with
            | ']' :: rest => some (.array [], rest)
            | rest => (itemsOf fuel (depth - 1) rest).map fun (xs, rest) => (.array xs, rest)
      | '\x7b' :: rest =>
          if depth = 0 then none
          else
            match skipBlanks rest with
            | '\x7d' :: rest => some (.object [], rest)
            | rest => (membersOf fuel (depth - 1) rest).map fun (ms, rest) => (.object ms, rest)
      | rest => number false rest

def itemsOf (fuel depth : Nat) (text : List Char) : Option (List Json × List Char) :=
  match fuel with
  | 0 => none
  | fuel + 1 =>
      match value fuel depth text with
      | none => none
      | some (item, rest) =>
          match skipBlanks rest with
          | ',' :: rest => (itemsOf fuel depth rest).map fun (items, rest) => (item :: items, rest)
          | ']' :: rest => some ([item], rest)
          | _ => none

def membersOf (fuel depth : Nat) (text : List Char) :
    Option (List (String × Json) × List Char) :=
  match fuel with
  | 0 => none
  | fuel + 1 =>
      match skipBlanks text with
      | '"' :: rest =>
          match stringRest [] rest with
          | none => none
          | some (name, rest) =>
              match skipBlanks rest with
              | ':' :: rest =>
                  match value fuel depth rest with
                  | none => none
                  | some (item, rest) =>
                      match skipBlanks rest with
                      | ',' :: rest =>
                          (membersOf fuel depth rest).map fun (members, rest) =>
                            ((name, item) :: members, rest)
                      | '\x7d' :: rest => some ([(name, item)], rest)
                      | _ => none
              | _ => none
      | _ => none

end

def maxDepth : Nat := 127

def read (text : String) : Option Json :=
  let chars := text.toList
  match value (2 * chars.length + 2) maxDepth chars with
  | some (v, rest) => if (skipBlanks rest).isEmpty then some v else none
  | none => none

end Flowgraph.Json
