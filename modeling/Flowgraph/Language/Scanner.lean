import Flowgraph.Parsing.Source

/-!
# Tokens that depend on their surroundings

Some tokens cannot be told by their own characters: the semicolon that a line end stands for, the
text of a template, the question mark of a conditional. They are found here from the characters that
follow and from which tokens the grammar allows at the place. JavaScript and TypeScript differ in a
few of these rules; each rule that does is written once for either.
-/

namespace Flowgraph

namespace Scanner

/-- The external tokens, in the order in which both grammars list them. -/
inductive Token where
  | automaticSemicolon
  | templateChars
  | ternaryMark
  | htmlComment
  | logicalOr
  | escapeSequence
  | regexPattern
  | jsxText
  | signatureSemicolon
  | errorRecovery
deriving DecidableEq

def Token.index : Token → Nat
  | .automaticSemicolon => 0
  | .templateChars => 1
  | .ternaryMark => 2
  | .htmlComment => 3
  | .logicalOr => 4
  | .escapeSequence => 5
  | .regexPattern => 6
  | .jsxText => 7
  | .signatureSemicolon => 8
  | .errorRecovery => 9

def isSpace (c : Char) : Bool := (9 ≤ c.toNat && c.toNat ≤ 13) || c = ' '

def isLineSeparator (c : Char) : Bool := c.toNat = 0x2028 || c.toNat = 0x2029

def isLineBreak (c : Char) : Bool := c = '\n' || isLineSeparator c

def atEnd (c : Char) : Bool := c.toNat = 0

def skipWhile (src : Source) (test : Char → Bool) : Nat → Nat → Nat
  | 0, pos => pos
  | fuel + 1, pos => if test (src.charAt pos) then skipWhile src test fuel (pos + 1) else pos

def fuelFrom (src : Source) (pos : Nat) : Nat := src.size + 1 - pos

def skipSpaces (src : Source) (pos : Nat) : Nat := skipWhile src isSpace (fuelFrom src pos) pos

def matchesText (src : Source) (pos : Nat) : List Char → Bool
  | [] => true
  | c :: rest => src.charAt pos = c && matchesText src (pos + 1) rest

/-! ## Templates, conditionals, comments and text between tags -/

/-- Template text up to a substitution, an escape or the closing quote. -/
def templateChars (src : Source) : Nat → Nat → Bool → Option Nat
  | 0, _, _ => none
  | fuel + 1, pos, content =>
      let c := src.charAt pos
      if c = '\x60' || c = '\\' then if content then some pos else none
      else if atEnd c then none
      else if c = '$' then
        if src.charAt (pos + 1) = '\x7b' then if content then some pos else none
        else templateChars src fuel (pos + 1) true
      else templateChars src fuel (pos + 1) true

/-- The question mark of a conditional, told from `??` and, unless a digit follows, from `?.`. -/
def ternaryMark (src : Source) (pos : Nat) : Option (Nat × Nat) :=
  let start := skipSpaces src pos
  if src.charAt start = '?' then
    let next := src.charAt (start + 1)
    if next = '?' then none
    else if next = '.' then
      if (src.charAt (start + 2)).isDigit then some (start, start + 1) else none
    else some (start, start + 1)
  else none

/-- The question mark of a conditional where `?` may also mark an optional parameter: not before
`?`, `.`, or, blanks apart, `:`, `)` or `,`. -/
def typedTernaryMark (src : Source) (pos : Nat) : Option (Nat × Nat) :=
  let start := skipSpaces src pos
  if src.charAt start = '?' then
    let next := src.charAt (start + 1)
    if next = '?' || next = '.' then none
    else
      let after := skipSpaces src (start + 1)
      let c := src.charAt after
      if c = ':' || c = ')' || c = ',' then none
      else if c = '.' then
        if (src.charAt (after + 1)).isDigit then some (start, start + 1) else none
      else some (start, start + 1)
  else none

/-- A comment in the manner of HTML: from `<!--` or `-->` to the end of the line. -/
def htmlComment (src : Source) (pos : Nat) : Option (Nat × Nat) :=
  let start := skipWhile src (fun c => isSpace c || isLineSeparator c) (fuelFrom src pos) pos
  let opening := if matchesText src start "<!--".toList then some (start + 4)
    else if matchesText src start "-->".toList then some (start + 3)
    else none
  opening.map fun body =>
    (start, skipWhile src (fun c => !(atEnd c || isLineBreak c)) (fuelFrom src body) body)

/-- The end of the text between tags, and whether there is any: blanks after a line break do not
count as text by themselves. -/
def jsxText (src : Source) : Nat → Nat → Bool → Bool → Nat × Bool
  | 0, pos, _, _ => (pos, false)
  | fuel + 1, pos, atNewline, sawText =>
      let c := src.charAt pos
      if atEnd c || c = '<' || c = '>' || c = '\x7b' || c = '\x7d' || c = '&' then
        (pos, sawText)
      else if c = '\n' then jsxText src fuel (pos + 1) true sawText
      else
        let still := atNewline && isSpace c
        jsxText src fuel (pos + 1) still (sawText || !still)

/-! ## Semicolons that line ends stand for -/

structure Skipped where
  pos : Nat
  /-- Nothing if a slash followed that begins no comment. -/
  allowed : Option Bool
  comment : Bool

/-- The end of a block comment whose inside begins at `pos`, and whether it holds a line break;
`none` in place of the end if the text ends first. -/
def blockComment (src : Source) : Nat → Nat → Bool → Option Nat × Nat × Bool
  | 0, pos, newline => (none, pos, newline)
  | fuel + 1, pos, newline =>
      let c := src.charAt pos
      if atEnd c then (none, pos, newline)
      else if c = '*' then
        if src.charAt (pos + 1) = '/' then (some (pos + 2), pos + 2, newline)
        else blockComment src fuel (pos + 1) newline
      else blockComment src fuel (pos + 1) (newline || isLineBreak c)

/-- Passes blanks and comments. With `consume` false it ends after a block comment that no slash
follows: allowed there means that this block comment or one passed before it holds a line break,
which `newline` keeps. -/
def skipComments (src : Source) (lineEnd : Char → Bool) (consume : Bool) :
    Nat → Nat → Bool → Bool → Skipped
  | 0, pos, comment, _ => ⟨pos, some true, comment⟩
  | fuel + 1, pos, comment, newline =>
      let pos := skipSpaces src pos
      if src.charAt pos = '/' then
        let next := src.charAt (pos + 1)
        if next = '/' then
          let stop := skipWhile src (fun c => !(atEnd c || lineEnd c)) (fuelFrom src pos) (pos + 2)
          skipComments src lineEnd consume fuel stop true newline
        else if next = '*' then
          match blockComment src (fuelFrom src pos) (pos + 2) newline with
          | (some stop, _, newline) =>
              if !consume && src.charAt stop != '/' then ⟨stop, some newline, true⟩
              else skipComments src lineEnd consume fuel stop true newline
          | (none, stop, newline) => skipComments src lineEnd consume fuel stop comment newline
        else ⟨pos + 1, none, comment⟩
      else ⟨pos, some true, comment⟩

/-- Whether a semicolon may stand at a line end before the text at `pos` if that text begins with a
sign or with `in` or `instanceof`; the position is where the look ended. -/
def beforeSignOrWord (src : Source) (pos : Nat) : Bool × Nat :=
  let c := src.charAt pos
  let next := src.charAt (pos + 1)
  if c = '+' then (next = '+', pos + 1)
  else if c = '-' then (next = '-', pos + 1)
  else if c = '!' then (next != '=', pos + 1)
  else if c = 'i' then
    if next != 'n' then (true, pos + 1)
    else if !(src.charAt (pos + 2)).isAlpha then (false, pos + 2)
    else if !(matchesText src (pos + 2) "stanceof".toList) then (true, pos + 2)
    else ((src.charAt (pos + 10)).isAlpha, pos + 10)
  else (true, pos)

/-- What was found of a semicolon: whether it stands, whether a comment was passed, and where the
look ended. -/
structure SemicolonLook where
  stands : Bool
  comment : Bool
  pos : Nat

/-- The line before the line break: `none` if the look goes on after it. -/
def semicolonOnLine (src : Source) (commentEnds : Bool) :
    Nat → Nat → Bool → Option SemicolonLook × Nat × Bool
  | 0, pos, comment => (some ⟨false, comment, pos⟩, pos, comment)
  | fuel + 1, pos, comment =>
      if atEnd (src.charAt pos) then (some ⟨true, comment, pos⟩, pos, comment)
      else
        let look : Skipped := if src.charAt pos = '/' then
            skipComments src isLineBreak false (fuelFrom src pos) pos comment false
          else ⟨pos, some false, comment⟩
        match look.allowed with
        | none => (some ⟨false, look.comment, look.pos⟩, look.pos, look.comment)
        | some allowed =>
            let c := src.charAt look.pos
            if allowed && commentEnds && c != ',' && c != '=' then
              (some ⟨true, look.comment, look.pos⟩, look.pos, look.comment)
            else if c = '\x7d' || look.pos = 0 then
              (some ⟨true, look.comment, look.pos⟩, look.pos, look.comment)
            else if isLineBreak c then (none, look.pos + 1, look.comment)
            else if !isSpace c then
              (some ⟨false, look.comment, look.pos⟩, look.pos, look.comment)
            else semicolonOnLine src commentEnds fuel (look.pos + 1) look.comment

/-- The semicolon at a line end in JavaScript: before the end of the text, a closing brace or a line
break, unless what follows continues the statement. -/
def semicolon (src : Source) (commentEnds : Bool) (pos : Nat) : SemicolonLook :=
  match semicolonOnLine src commentEnds (fuelFrom src pos) pos false with
  | (some look, _, _) => look
  | (none, pos, comment) =>
      let look := skipComments src isLineBreak true (fuelFrom src pos) pos comment false
      match look.allowed with
      | none => ⟨false, look.comment, look.pos⟩
      | some _ =>
          let c := src.charAt look.pos
          if "\x60,:;*%><=[(?^|&/".toList.contains c then ⟨false, look.comment, look.pos⟩
          else if c = '.' then ⟨(src.charAt (look.pos + 1)).isDigit, look.comment, look.pos + 1⟩
          else
            let (stands, pos) := beforeSignOrWord src look.pos
            ⟨stands, look.comment, pos⟩

/-- The first character on the line that decides on a semicolon in TypeScript. -/
def typedSemicolonOnLine (src : Source) (inTernary : Bool) :
    Nat → Nat → Option SemicolonLook × Nat
  | 0, pos => (some ⟨false, false, pos⟩, pos)
  | fuel + 1, pos =>
      let c := src.charAt pos
      if atEnd c then (some ⟨true, false, pos⟩, pos)
      else if c = '\x7d' then
        let after := skipSpaces src (pos + 1)
        (some ⟨if src.charAt after = ':' then inTernary else true, false, after⟩, after)
      else if !isSpace c then (some ⟨false, false, pos⟩, pos)
      else if c = '\n' then (none, pos + 1)
      else typedSemicolonOnLine src inTernary fuel (pos + 1)

/-- The semicolon at a line end in TypeScript. Brackets on the next line continue an expression but
not a type; `inExpression` tells which it is. -/
def typedSemicolon (src : Source) (inExpression signature : Bool) (pos : Nat) : SemicolonLook :=
  match typedSemicolonOnLine src inExpression (fuelFrom src pos) pos with
  | (some look, _) => look
  | (none, pos) =>
      let look := skipComments src (· = '\n') true (fuelFrom src pos) pos false false
      match look.allowed with
      | none => ⟨false, look.comment, look.pos⟩
      | some _ =>
          let c := src.charAt look.pos
          if "\x60,.;*%><=?^|&/:".toList.contains c then ⟨false, look.comment, look.pos⟩
          else if c = '\x7b' then ⟨!signature, look.comment, look.pos⟩
          else if c = '(' || c = '[' then ⟨!inExpression, look.comment, look.pos⟩
          else
            let (stands, pos) := beforeSignOrWord src look.pos
            ⟨stands, look.comment, pos⟩

/-! ## The scanners -/

/-- What the two scanners share: the order in which tokens are tried. -/
def scanWith (allowed : Nat → Bool) (src : Source) (pos : Nat)
    (semicolonAt : SemicolonLook) (mark : Nat → Option (Nat × Nat)) (htmlAllowed : Bool) :
    Option (Nat × Nat × Nat) :=
  let may (t : Token) : Bool := allowed t.index
  let fuel := fuelFrom src pos
  let ternary (from_ : Nat) : Option (Nat × Nat × Nat) :=
    (mark from_).map fun (start, stop) => (Token.ternaryMark.index, start, stop)
  if may .templateChars then
    if may .automaticSemicolon then none
    else (templateChars src fuel pos false).map fun stop => (Token.templateChars.index, pos, stop)
  else
    match if may .jsxText then jsxText src fuel pos false false else (pos, false) with
    | (stop, true) => some (Token.jsxText.index, pos, stop)
    | (pos, false) =>
        if may .automaticSemicolon || may .signatureSemicolon then
          let look := semicolonAt
          if look.stands then some (Token.automaticSemicolon.index, pos, pos)
          else if !look.comment && may .ternaryMark && src.charAt look.pos = '?' then
            ternary look.pos
          else none
        else if may .ternaryMark then ternary pos
        else if may .htmlComment && htmlAllowed then
          (htmlComment src pos).map fun (start, stop) => (Token.htmlComment.index, start, stop)
        else none

def javaScript (allowed : Nat → Bool) (src : Source) (pos : Nat) : Option (Nat × Nat × Nat) :=
  let may (t : Token) : Bool := allowed t.index
  scanWith (fun i => i < 8 && allowed i) src pos
    (if may .automaticSemicolon then semicolon src (!may .logicalOr) pos else ⟨false, false, pos⟩)
    (ternaryMark src)
    (!may .logicalOr && !may .escapeSequence && !may .regexPattern)

/-- The scanner of TypeScript. A line end stands for a semicolon after a signature too, and there it
is that kind of semicolon only if the ordinary one is not allowed. -/
def typeScript (allowed : Nat → Bool) (src : Source) (pos : Nat) : Option (Nat × Nat × Nat) :=
  let may (t : Token) : Bool := allowed t.index
  scanWith allowed src pos
    (if may .automaticSemicolon || may .signatureSemicolon then
      typedSemicolon src (may .logicalOr) (may .signatureSemicolon) pos
    else ⟨false, false, pos⟩)
    (typedTernaryMark src)
    (!may .logicalOr && !may .escapeSequence && !may .regexPattern)

end Scanner

end Flowgraph
