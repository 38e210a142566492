import Flowgraph.Grammar.Lexeme

/-!
# Grammar descriptions

A grammar is a list of named rules over tokens and other rules. Rules carry what decides between
readings of a text: ranks and associativity settle a choice when the tables are made, weights
settle it when two complete readings meet. Fields and aliases only name parts of the tree.
-/

namespace Flowgraph

/-- Which side a chain of equal rank groups to. -/
inductive Side where
  | left
  | right
deriving DecidableEq, Inhabited

/-- How strongly a rule binds: not stated, a number, or a name ordered by the grammar's rankings. -/
inductive Rank where
  | unstated
  | number (n : Int)
  | name (n : String)
deriving DecidableEq, Inhabited

/-- A token described where it is used. The label identifies it; `text` is given for a fixed
text. -/
structure TokenSpec where
  label : String
  lexeme : Lexeme
  text : Option String
  rank : Int
  glued : Bool
deriving Inhabited

/-- The name a node takes in the tree, and whether it counts as named there. -/
structure Alias where
  name : String
  named : Bool
deriving DecidableEq, Inhabited

inductive Rule where
  | blank
  | token (spec : TokenSpec)
  | ref (name : String)
  | seq (a b : Rule)
  | alt (a b : Rule)
  | many1 (r : Rule)
  | ranked (rank : Rank) (side : Option Side) (r : Rule)
  | weighted (weight : Int) (r : Rule)
  | field (name : String) (r : Rule)
  | aliased (shownAs : Alias) (r : Rule)
  | reserving (set : Nat) (r : Rule)
deriving Inhabited

namespace Rule

def lit (text : String) : Rule :=
  .token { label := "'" ++ text, lexeme := .text text, text := some text, rank := 0, glued := false }

/-- A fixed text that must follow the previous token without blanks. -/
def gluedLit (text : String) (rank : Int) : Rule :=
  .token { label := "glued '" ++ text, lexeme := .text text, text := some text, rank, glued := true }

def pattern (label : String) (lexeme : Lexeme) : Rule :=
  .token { label, lexeme, text := none, rank := 0, glued := false }

/-- A pattern that must follow the previous token without blanks. -/
def glued (label : String) (rank : Int) (lexeme : Lexeme) : Rule :=
  .token { label, lexeme, text := none, rank, glued := true }

def seqs : List Rule → Rule
  | [] => .blank
  | [r] => r
  | r :: rest => .seq r (seqs rest)

def choice : List Rule → Rule
  | [] => .blank
  | [r] => r
  | r :: rest => .alt r (choice rest)

def oneOf (texts : List String) : Rule := choice (texts.map lit)

def opt (r : Rule) : Rule := .alt r .blank

def many (r : Rule) : Rule := .alt (.many1 r) .blank

def commas1 (r : Rule) : Rule := .seq r (many (.seq (lit ",") r))

def commas (r : Rule) : Rule := opt (commas1 r)

def rank (name : String) (r : Rule) : Rule := .ranked (.name name) none r

def rankLeft (name : String) (r : Rule) : Rule := .ranked (.name name) (some .left) r

def rankRight (name : String) (r : Rule) : Rule := .ranked (.name name) (some .right) r

def left (r : Rule) : Rule := .ranked (.number 0) (some .left) r

def right (r : Rule) : Rule := .ranked (.number 0) (some .right) r

/-- Shows a rule in the tree as the named node `name`. -/
def as (name : String) (r : Rule) : Rule := .aliased ⟨name, true⟩ r

/-- Shows a rule in the tree as the unnamed token `name`. -/
def asToken (name : String) (r : Rule) : Rule := .aliased ⟨name, false⟩ r

/-- A text that two rules share exactly when they are the same rule. -/
def key : Rule → String
  | .blank => "()"
  | .token spec => "<" ++ spec.label ++ ">"
  | .ref name => name
  | .seq a b => "(" ++ a.key ++ " " ++ b.key ++ ")"
  | .alt a b => "(" ++ a.key ++ " | " ++ b.key ++ ")"
  | .many1 r => "(" ++ r.key ++ ")+"
  | .ranked k s r =>
      let kind := match k with
        | .unstated => "-"
        | .number n => toString n
        | .name n => n
      let side := match s with
        | none => "n"
        | some .left => "l"
        | some .right => "r"
      "rank " ++ kind ++ side ++ "(" ++ r.key ++ ")"
  | .weighted w r => "weight " ++ toString w ++ "(" ++ r.key ++ ")"
  | .field n r => "field " ++ n ++ "(" ++ r.key ++ ")"
  | .aliased a r => "alias " ++ a.name ++ (if a.named then "" else "!") ++ "(" ++ r.key ++ ")"
  | .reserving n r => "reserving " ++ toString n ++ "(" ++ r.key ++ ")"

end Rule

inductive Ranked where
  | rank (name : String)
  | rule (name : String)
deriving DecidableEq, Inhabited

/-- A grammar as written. The first rule is the start; each ranking lists ranks and rules from the
strongest to the weakest; the first set of reserved words holds wherever no other set is named. The
`unsought` tokens would swallow what other tokens stand for, so they are read only where they are
expected and never while looking for a place to go on after an error. Wherever all the tokens
`bodyMarks` may follow one of the rules `bodies`, the end of the text may follow it as well. -/
structure GrammarSource where
  rules : List (String × Rule)
  external : List Rule
  extras : List String
  unsought : List String
  bodies : List String
  bodyMarks : List Rule
  blank : CharSet
  inline : List String
  supertypes : List String
  word : String
  rankings : List (List Ranked)
  reserved : List (List String)

end Flowgraph
