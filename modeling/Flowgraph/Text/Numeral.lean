/-!
# Decimal numerals

A natural number is written with the fewest decimal digits. When one is read, a plus sign in front
and further zeros are allowed, and the value may be bounded.
-/

namespace Flowgraph.Numeral

def max32 : Nat := 4294967295

def max64 : Nat := 18446744073709551615

def digitChar (d : Nat) : Char := Char.ofNat (48 + d)

def digitValue? (c : Char) : Option Nat :=
  if '0' ≤ c ∧ c ≤ '9' then some (c.toNat - 48) else none

/-- The decimal digits of a number, the first one not a zero unless it is alone. -/
def digits (n : Nat) : List Char :=
  if n < 10 then [digitChar n] else digits (n / 10) ++ [digitChar (n % 10)]

def render (n : Nat) : String := String.ofList (digits n)

inductive Fault where
  | empty
  | invalidDigit
  | tooLarge
deriving DecidableEq, Inhabited

def Fault.message : Fault → String
  | .empty => "cannot parse integer from empty string"
  | .invalidDigit => "invalid digit found in string"
  | .tooLarge => "number too large to fit in target type"

/-- Reads digits after the number `n`; the first offending character decides. -/
def readFrom (bound n : Nat) : List Char → Except Fault Nat
  | [] => .ok n
  | c :: rest =>
      match digitValue? c with
      | none => .error .invalidDigit
      | some d => if bound < 10 * n + d then .error .tooLarge else readFrom bound (10 * n + d) rest

/-- Reads a numeral of at most `bound`. -/
def read (bound : Nat) (text : List Char) : Except Fault Nat :=
  match text with
  | [] => .error .empty
  | ['+'] => .error .invalidDigit
  | '+' :: rest => readFrom bound 0 rest
  | _ => readFrom bound 0 text

def read? (bound : Nat) (text : List Char) : Option Nat := (read bound text).toOption

end Flowgraph.Numeral
