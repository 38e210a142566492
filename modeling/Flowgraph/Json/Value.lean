/-!
# JSON values

Objects keep their members in order, repeated names included. A number is an integer, or is kept as
it is written if it has a fraction or an exponent.
-/

namespace Flowgraph

inductive Json where
  | null
  | bool (value : Bool)
  | int (value : Int)
  | decimal (literal : String)
  | text (value : String)
  | array (items : List Json)
  | object (members : List (String × Json))
deriving Inhabited

namespace Json

def nat (n : Nat) : Json := .int n

def ofOption {α : Type} (encode : α → Json) : Option α → Json
  | some a => encode a
  | none => .null

def membersNamed (name : String) (members : List (String × Json)) : List Json :=
  (members.filter fun m => m.1 = name).map (·.2)

/-- A natural number of at most `bound`. -/
def nat? (bound : Nat) : Json → Option Nat
  | .int value => if 0 ≤ value ∧ value ≤ bound then some value.toNat else none
  | _ => none

def text? : Json → Option String
  | .text value => some value
  | _ => none

def array? : Json → Option (List Json)
  | .array items => some items
  | _ => none

/-- The name of a variant that has no contents: a text, or an object with that name as its only
member and nothing in it. -/
def variant? : Json → Option String
  | .text name => some name
  | .object [(name, .null)] => some name
  | _ => none

/-- Looks up each name. A member may be given once; other members are ignored. -/
def lookup (names : List String) (members : List (String × Json)) : Option (List (Option Json)) :=
  names.mapM fun name =>
    match membersNamed name members with
    | [] => some none
    | [value] => some (some value)
    | _ => none

/-- The fields of a record, in the order of their names. A record is given as an object, or as an
array of its first fields. -/
def fields? (names : List String) : Json → Option (List (Option Json))
  | .object members => lookup names members
  | .array items =>
      if items.length ≤ names.length then
        some (items.map some ++ List.replicate (names.length - items.length) none)
      else none
  | _ => none

end Json

end Flowgraph
