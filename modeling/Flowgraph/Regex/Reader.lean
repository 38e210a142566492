import Flowgraph.Regex.Term
import Flowgraph.Text.Blank
import Flowgraph.Text.Property

/-!
# Reading patterns

The reader walks over the characters of a pattern from left to right and stops at the first fault.
Its loops are bounded by the length of the pattern: each round takes at least one character.
-/

namespace Flowgraph.Regex

structure Cursor where
  rest : List Char
  pos : Nat
  /-- Blanks and comments between terms are skipped. -/
  verbose : Bool
  /-- The names of groups so far, each with its place. -/
  names : List (String × Span)
  /-- How many groups have been counted so far. -/
  groups : Nat

abbrev Reader := StateT Cursor (Except Fault)

namespace Reader

def fail {α : Type} (kind : FaultKind) (start stop : Nat) : Reader α :=
  throw { kind, span := ⟨start, stop⟩, earlier := none }

def position : Reader Nat := return (← get).pos

def current? : Reader (Option Char) := return (← get).rest.head?

def next? : Reader (Option Char) := return ((← get).rest.drop 1).head?

def atEnd : Reader Bool := return (← get).rest.isEmpty

/-- Passes the character at hand and tells whether there is another one. -/
def bump : Reader Bool := do
  let s ← get
  match s.rest with
  | [] => return false
  | _ :: rest =>
      set { s with rest, pos := s.pos + 1 }
      return !rest.isEmpty

def skip (n : Nat) : Reader Unit :=
  modify fun s => { s with rest := s.rest.drop n, pos := s.pos + n }

def accept (text : String) : Reader Bool := do
  let s ← get
  if text.toList.isPrefixOf s.rest then
    skip text.length
    return true
  else return false

/-- The number of characters that blanks and comments take at the front of a text. -/
def blankLength (inComment : Bool) : List Char → Nat
  | [] => 0
  | c :: rest =>
      if inComment then 1 + blankLength (c ≠ '\n') rest
      else if Text.isBlank c then 1 + blankLength false rest
      else if c = '#' then 1 + blankLength true rest
      else 0

def skipBlanks : Reader Unit := do
  let s ← get
  if s.verbose then skip (blankLength false s.rest)

def bumpAndSkip : Reader Bool := do
  if ← bump then
    skipBlanks
    return !(← atEnd)
  else return false

/-- The first character after the one at hand that is neither blank nor in a comment. -/
def nextTerm? : Reader (Option Char) := do
  let s ← get
  let rest := s.rest.drop 1
  return (if s.verbose then rest.drop (blankLength false rest) else rest).head?

/-- Passes characters of a class, and the blanks between them if asked for. -/
def takeWhile (accepts : Char → Bool) (skipping : Bool) : Nat → Reader (List Char)
  | 0 => return []
  | fuel + 1 => do
      match ← current? with
      | some c =>
          if accepts c then
            let _ ← if skipping then bumpAndSkip else bump
            return c :: (← takeWhile accepts skipping fuel)
          else return []
      | none => return []

def remaining : Reader Nat := return (← get).rest.length

def takeAll (accepts : Char → Bool) (skipping : Bool) : Reader (List Char) := do
  takeWhile accepts skipping ((← remaining) + 1)

def hexValue? (c : Char) : Option Nat :=
  if '0' ≤ c ∧ c ≤ '9' then some (c.toNat - 48)
  else if 'a' ≤ c ∧ c ≤ 'f' then some (c.toNat - 87)
  else if 'A' ≤ c ∧ c ≤ 'F' then some (c.toNat - 55)
  else none

def charOfCode? (n : Nat) : Option Char :=
  if n.isValidChar then some (Char.ofNat n) else none

def hexNumber (digits : List Char) : Nat :=
  digits.foldl (fun n c => 16 * n + (hexValue? c).getD 0) 0

def hexChar (digits : List Char) (start stop : Nat) : Reader Char :=
  match charOfCode? (hexNumber digits) with
  | some c => return c
  | none => fail .escapeHexInvalid start stop

def hexDigits (isFirst : Bool) : Nat → Reader (List Char)
  | 0 => do
      let _ ← bumpAndSkip
      return []
  | n + 1 => do
      if !isFirst then
        if !(← bumpAndSkip) then
          let here ← position
          fail .escapeUnexpectedEnd here here
      let here ← position
      match ← current? with
      | some c =>
          if (hexValue? c).isSome then return c :: (← hexDigits false n)
          else fail .escapeHexInvalidDigit here (here + 1)
      | none => fail .escapeUnexpectedEnd here here

def bracedHex : Reader Char := do
  let brace ← position
  let _ ← bumpAndSkip
  let digits ← takeAll (fun c => (hexValue? c).isSome) true
  let stop ← position
  match ← current? with
  | none => fail .escapeUnexpectedEnd brace stop
  | some '}' =>
      let _ ← bumpAndSkip
      if digits.isEmpty then fail .escapeHexEmpty brace (← position)
      else hexChar digits (brace + 1) stop
  | some _ => fail .escapeHexInvalidDigit stop (stop + 1)

def hexEscape (start width : Nat) : Reader Term := do
  if !(← bumpAndSkip) then
    let here ← position
    fail .escapeUnexpectedEnd here here
  if (← current?) = some '{' then
    let c ← bracedHex
    return .literal c false ⟨start, ← position⟩
  else
    let first ← position
    let digits ← hexDigits true width
    let stop ← position
    let c ← hexChar digits first stop
    return .literal c (width = 2) ⟨start, stop⟩

def splitAtText (mark : List Char) : List Char → Option (List Char × List Char)
  | [] => none
  | c :: rest =>
      if mark.isPrefixOf (c :: rest) then some ([], (c :: rest).drop mark.length)
      else (splitAtText mark rest).map fun (before, after) => (c :: before, after)

/-- The query in the braces of a property, and whether it is negated. -/
def propertyQuery (text : List Char) : PropertyQuery × Bool :=
  let valued (parts : List Char × List Char) : PropertyQuery :=
    .valued (String.ofList parts.1) (String.ofList parts.2)
  match splitAtText ['!', '='] text with
  | some parts => (valued parts, true)
  | none =>
      match Text.splitOnce ':' text with
      | some parts => (valued parts, false)
      | none =>
          match Text.splitOnce '=' text with
          | some parts => (valued parts, false)
          | none => (.named (String.ofList text), false)

def propertyEscape (start : Nat) (negated : Bool) : Reader Term := do
  if !(← bumpAndSkip) then
    let here ← position
    fail .escapeUnexpectedEnd here here
  match ← current? with
  | some '{' =>
      let _ ← bumpAndSkip
      let text ← takeAll (· ≠ '}') true
      let here ← position
      if ← atEnd then fail .escapeUnexpectedEnd here here
      let _ ← bump
      let (query, flipped) := propertyQuery text
      return .property query (negated != flipped) ⟨start, ← position⟩
  | some '\\' =>
      let here ← position
      fail .unicodeClassInvalid here (here + 1)
  | some c =>
      let _ ← bumpAndSkip
      return .property (.named (String.singleton c)) negated ⟨start, ← position⟩
  | none =>
      let here ← position
      fail .escapeUnexpectedEnd here here

def isMeta (c : Char) : Bool := "\\.+*?()|[]\x7b\x7d^$#&-~".toList.contains c

/-- The characters that may be escaped without need. -/
def isEscapable (c : Char) : Bool :=
  isMeta c || (c.toNat < 128 && !c.isAlphanum && c ≠ '<' && c ≠ '>')

/-- The kind of word boundary that `\b` with a name in braces stands for. -/
def specialBoundary? (name : List Char) : Option AssertionKind :=
  match String.ofList name with
  | "start" => some .wordStart
  | "end" => some .wordEnd
  | "start-half" => some .wordStartHalf
  | "end-half" => some .wordEndHalf
  | _ => none

/-- Reads the braces after `\b` if they hold a name; else leaves them for a count of copies. -/
def boundary (start : Nat) : Reader AssertionKind := do
  if (← current?) ≠ some '{' then return .boundary
  let saved ← get
  let brace ← position
  if !(← bumpAndSkip) then fail .specialBoundaryUnexpectedEnd start (← position)
  let isName (c : Char) : Bool := c.isAlpha || c = '-'
  let contents ← position
  let name ← takeAll isName true
  if name.isEmpty then
    set saved
    return .boundary
  let stop ← position
  if (← current?) ≠ some '}' then fail .specialBoundaryUnclosed brace stop
  let _ ← bump
  match specialBoundary? name with
  | some kind => return kind
  | none => fail .specialBoundaryUnrecognized contents stop

def escape : Reader Term := do
  let start ← position
  if !(← bump) then fail .escapeUnexpectedEnd start (← position)
  let here ← position
  let c := (← current?).getD '\\'
  if c.isDigit then fail .unsupportedBackreference start (here + 1)
  let perl (cls : PerlClass) (negated : Bool) : Reader Term := do
    let _ ← bump
    return .perl cls negated ⟨start, ← position⟩
  match c with
  | 'x' => hexEscape start 2
  | 'u' => hexEscape start 4
  | 'U' => hexEscape start 8
  | 'p' => propertyEscape start false
  | 'P' => propertyEscape start true
  | 'd' => perl .digit false
  | 'D' => perl .digit true
  | 's' => perl .space false
  | 'S' => perl .space true
  | 'w' => perl .word false
  | 'W' => perl .word true
  | _ =>
      let _ ← bump
      let stop ← position
      let literal (c : Char) : Reader Term := return .literal c false ⟨start, stop⟩
      if isEscapable c then literal c
      else
        match c with
        | 'a' => literal '\x07'
        | 'f' => literal '\x0c'
        | 't' => literal '\t'
        | 'n' => literal '\n'
        | 'r' => literal '\r'
        | 'v' => literal '\x0b'
        | 'A' => return .assertion .textStart
        | 'z' => return .assertion .textEnd
        | 'b' => return .assertion (← boundary start)
        | 'B' => return .assertion .notBoundary
        | '<' => return .assertion .wordStart
        | '>' => return .assertion .wordEnd
        | _ => fail .escapeUnrecognized start stop

/-- Reads the changes of flags after `(?`, up to the colon or parenthesis that ends them. -/
def flags (fuel : Nat) (on : Bool) (lastNegation : Option Nat) (negation : Option Span)
    (seen : List (Flag × Span)) : Reader (List (Flag × Bool) × Bool) :=
  match fuel with
  | 0 => return ([], negation.isSome)
  | fuel + 1 => do
      let here ← position
      let place : Span := ⟨here, here + 1⟩
      let advance : Reader Unit := do
        if !(← bump) then fail .flagUnexpectedEnd (here + 1) (here + 1)
      match ← current? with
      | none => return ([], negation.isSome)
      | some c =>
          if c = ':' ∨ c = ')' then
            match lastNegation with
            | some at_ => fail .flagDanglingNegation at_ (at_ + 1)
            | none => return ([], negation.isSome)
          else if c = '-' then
            match negation with
            | some earlier =>
                throw { kind := .flagRepeatedNegation, span := place, earlier := some earlier }
            | none =>
                advance
                flags fuel false (some here) (some place) seen
          else
            let flag? : Option Flag :=
              match c with
              | 'i' => some .ignoreCase
              | 'm' => some .multiLine
              | 's' => some .dotAll
              | 'U' => some .swapGreed
              | 'u' => some .unicode
              | 'R' => some .crlf
              | 'x' => some .verbose
              | _ => none
            match flag? with
            | none => fail .flagUnrecognized here (here + 1)
            | some flag =>
                match seen.find? (·.1 = flag) with
                | some (_, earlier) =>
                    throw { kind := .flagDuplicate, span := place, earlier := some earlier }
                | none =>
                    advance
                    let (changes, negated) ← flags fuel on none negation ((flag, place) :: seen)
                    return ((flag, on) :: changes, negated)

def letters : CharSet := (Property.binary? "alphabetic").getD .empty

def numbers : CharSet := Property.categorySet ["nd", "nl", "no"]

def isNameChar (first : Bool) (c : Char) : Bool :=
  c = '_' || letters.contains c ||
    (!first && (c = '.' || c = '[' || c = ']' || numbers.contains c))

def groupName : Reader Unit := do
  let start ← position
  if ← atEnd then fail .groupNameUnexpectedEnd start start
  let first ← takeWhile (isNameChar true) false 1
  let others ← if first.isEmpty then pure [] else takeAll (isNameChar false) false
  let stop ← position
  match ← current? with
  | none => fail .groupNameUnexpectedEnd stop stop
  | some '>' =>
      let _ ← bump
      let name := String.ofList (first ++ others)
      if name.isEmpty then fail .groupNameEmpty start start
      match (← get).names.find? (·.1 = name) with
      | some (_, earlier) =>
          throw { kind := .groupNameDuplicate, span := ⟨start, stop⟩, earlier := some earlier }
      | none => modify fun s => { s with names := (name, ⟨start, stop⟩) :: s.names }
  | some _ => fail .groupNameInvalid stop (stop + 1)

/-- What an opening parenthesis begins: changes of flags for what follows, or a group. -/
inductive Opening where
  | flags (changes : List (Flag × Bool))
  | group (changes : List (Flag × Bool)) (number : Option Nat)

def counted : Reader Opening := do
  modify fun s => { s with groups := s.groups + 1 }
  return .group [] (some (← get).groups)

def opening : Reader Opening := do
  let start ← position
  let _ ← bump
  skipBlanks
  let inner ← position
  for mark in ["?=", "?!", "?<=", "?<!"] do
    if ← accept mark then fail .unsupportedLookAround start (← position)
  if ← accept "?P<" then
    groupName
    counted
  else if ← accept "?<" then
    groupName
    counted
  else if ← accept "?" then
    if ← atEnd then fail .groupUnclosed start (start + 1)
    let (changes, negated) ← flags ((← remaining) + 1) true none none []
    let closing ← current?
    let _ ← bump
    if closing = some ')' then
      if changes.isEmpty && !negated then fail .repetitionMissing inner inner
      else return .flags changes
    else return .group changes none
  else counted

def maxCount : Nat := 4294967295

/-- Reads a decimal number; without digits the fault is kept for the caller. -/
def decimal : Reader (Except Fault Nat) := do
  let _ ← takeAll Text.isBlank false
  let start ← position
  let digits ← takeAll Char.isDigit true
  let stop ← position
  let _ ← takeAll Text.isBlank true
  let n := digits.foldl (fun n c => 10 * n + (c.toNat - 48)) 0
  if digits.isEmpty then
    return .error { kind := .repetitionCountDecimalEmpty, span := ⟨start, stop⟩, earlier := none }
  else if maxCount < n then
    return .error { kind := .decimalInvalid, span := ⟨start, stop⟩, earlier := none }
  else return .ok n

def questionMark : Reader Bool := do
  if (← current?) = some '?' then
    let _ ← bump
    return true
  else return false

def count : Reader (Nat × Option Nat × Bool) := do
  let start ← position
  let unclosed {α : Type} : Reader α := do fail .repetitionCountUnclosed start (← position)
  if !(← bumpAndSkip) then unclosed
  let least ← decimal
  if ← atEnd then unclosed
  let (least, most) ←
    if (← current?) = some ',' then do
      if !(← bumpAndSkip) then unclosed
      if (← current?) ≠ some '}' then
        let least ← MonadExcept.ofExcept least
        let most ← MonadExcept.ofExcept (← decimal)
        pure (least, some most)
      else pure (← MonadExcept.ofExcept least, none)
    else do
      let n ← MonadExcept.ofExcept least
      pure (n, some n)
  if (← current?) ≠ some '}' then unclosed
  let lazy ← if ← bumpAndSkip then questionMark else pure false
  match most with
  | some most =>
      if most < least then fail .repetitionCountInvalid start (← position)
      return (least, some most, lazy)
  | none => return (least, none, lazy)

def mark (least : Nat) (most : Option Nat) : Reader (Nat × Option Nat × Bool) := do
  return (least, most, ← if ← bump then questionMark else pure false)

def asciiClass? (name : List Char) : Option CharSet :=
  (match String.ofList name with
    | "alnum" => some "30..39 41..5A 61..7A"
    | "alpha" => some "41..5A 61..7A"
    | "ascii" => some "0..7F"
    | "blank" => some "9 20"
    | "cntrl" => some "0..1F 7F"
    | "digit" => some "30..39"
    | "graph" => some "21..7E"
    | "lower" => some "61..7A"
    | "print" => some "20..7E"
    | "punct" => some "21..2F 3A..40 5B..60 7B..7E"
    | "space" => some "9..D 20"
    | "upper" => some "41..5A"
    | "word" => some "30..39 41..5A 5F 61..7A"
    | "xdigit" => some "30..39 41..46 61..66"
    | _ => none).map fun ranges => CharSet.ofHex [ranges]

/-- Reads a class such as `[:alpha:]` inside brackets; leaves anything else alone. -/
def asciiClass : Reader (Option SetTerm) := do
  let saved ← get
  let undo : Reader (Option SetTerm) := do
    set saved
    return none
  if !(← accept "[:") then undo
  else
    let negated ← accept "^"
    let name ← takeAll (· ≠ ':') false
    if ← accept ":]" then
      match asciiClass? name with
      | some s => return some (.ascii s negated)
      | none => undo
    else undo

/-- One item of a bracketed set: a character or an escape. -/
def setItem : Reader (Term × Span) := do
  let start ← position
  let term ←
    if (← current?) = some '\\' then escape
    else do
      let c := (← current?).getD '\\'
      let _ ← bump
      pure (.literal c false ⟨start, start + 1⟩)
  return (term, ⟨start, ← position⟩)

def itemTerm (item : Term × Span) : Reader SetTerm :=
  match item.1 with
  | .literal c _ span => return .range c c span
  | .perl cls negated span => return .perl cls negated span
  | .property query negated span => return .property query negated span
  | _ => fail .classEscapeInvalid item.2.start item.2.stop

def itemChar (item : Term × Span) : Reader Char :=
  match item.1 with
  | .literal c _ _ => return c
  | _ => fail .classRangeLiteral item.2.start item.2.stop

/-- Reads an item of a set, or a range; `opened` is the place of the brackets around it. -/
def setRange (opened : Span) : Reader SetTerm := do
  let first ← setItem
  skipBlanks
  if ← atEnd then fail .classUnclosed opened.start opened.stop
  let after ← nextTerm?
  if (← current?) ≠ some '-' ∨ after = some ']' ∨ after = some '-' then itemTerm first
  else
    if !(← bumpAndSkip) then fail .classUnclosed opened.start opened.stop
    let second ← setItem
    let lo ← itemChar first
    let hi ← itemChar second
    let span : Span := ⟨first.2.start, second.2.stop⟩
    if hi < lo then fail .classRangeInvalid span.start span.stop
    return .range lo hi span

/-- A union of items in reverse; one item stands for itself. -/
def unionOf : List SetTerm → SetTerm
  | [item] => item
  | items => .union items.reverse

def joinOperator (before : Option (SetOperator × SetTerm)) (term : SetTerm) : SetTerm :=
  match before with
  | some (operator, left) => .binary operator left term
  | none => term

def leadingHyphens (start : Nat) : Nat → Reader (List SetTerm)
  | 0 => return []
  | fuel + 1 => do
      if (← current?) = some '-' then
        let here ← position
        if !(← bumpAndSkip) then fail .classUnclosed start start
        return (← leadingHyphens start fuel) ++ [.range '-' '-' ⟨here, here + 1⟩]
      else return []

/-- Reads the opening bracket of a set and what has a special meaning right after it: whether the
set is negated, its first items in reverse, and the place of all that. -/
def setOpening : Reader (Bool × List SetTerm × Span) := do
  let start ← position
  if !(← bumpAndSkip) then fail .classUnclosed start (← position)
  let negated ←
    if (← current?) = some '^' then do
      if !(← bumpAndSkip) then fail .classUnclosed start (← position)
      pure true
    else pure false
  let items ← leadingHyphens start (← remaining)
  let items ←
    if items.isEmpty && (← current?) = some ']' then do
      let here ← position
      if !(← bumpAndSkip) then fail .classUnclosed start (← position)
      pure [.range ']' ']' ⟨here, here + 1⟩]
    else pure items
  return (negated, items, ⟨start, ← position⟩)

/-- Reads the rest of a bracketed set; `items` are in reverse. -/
def setRest (fuel : Nat) (negated : Bool) (opened : Span)
    (before : Option (SetOperator × SetTerm)) (items : List SetTerm) : Reader SetTerm :=
  match fuel with
  | 0 => fail .classUnclosed opened.start opened.stop
  | fuel + 1 => do
      skipBlanks
      let operator (op : SetOperator) : Reader SetTerm := do
        skip 2
        setRest fuel negated opened (some (op, joinOperator before (unionOf items))) []
      match ← current? with
      | none => fail .classUnclosed opened.start opened.stop
      | some '[' =>
          match ← asciiClass with
          | some item => setRest fuel negated opened before (item :: items)
          | none =>
              let (innerNegated, innerItems, innerOpened) ← setOpening
              let inner ← setRest fuel innerNegated innerOpened none innerItems
              setRest fuel negated opened before (inner :: items)
      | some ']' =>
          let _ ← bump
          return .bracketed negated (joinOperator before (unionOf items))
            ⟨opened.start, ← position⟩
      | some c =>
          let doubled := (← next?) = some c
          if doubled && c = '&' then operator .intersection
          else if doubled && c = '-' then operator .difference
          else if doubled && c = '~' then operator .symmetricDifference
          else
            let item ← setRange opened
            setRest fuel negated opened before (item :: items)

def bracketedSet : Reader Term := do
  let fuel := (← remaining) + 1
  let (negated, items, opened) ← setOpening
  return .set (← setRest fuel negated opened none items)

def concatOf : List Term → Term
  | [] => .empty
  | [term] => term
  | terms => .concat terms.reverse

/-- Branches in reverse, the last one still as terms in reverse. -/
def branchesOf (branches : List Term) (terms : List Term) : Term :=
  match branches with
  | [] => concatOf terms
  | _ => .alternation (concatOf terms :: branches).reverse

def branches (fuel : Nat) (done : List Term) (terms : List Term) : Reader Term :=
  match fuel with
  | 0 => return branchesOf done terms
  | fuel + 1 => do
      skipBlanks
      let here ← position
      let repeated (read : Reader (Nat × Option Nat × Bool)) : Reader Term := do
        match terms with
        | [] | .flags _ :: _ => fail .repetitionMissing here here
        | term :: terms =>
            let (least, most, lazy) ← read
            branches fuel done (.copies term least most lazy :: terms)
      match ← current? with
      | none | some ')' => return branchesOf done terms
      | some '|' =>
          let _ ← bump
          branches fuel (concatOf terms :: done) []
      | some '(' =>
          let verbose := (← get).verbose
          let apply (changes : List (Flag × Bool)) : Reader Unit :=
            match changes.find? (·.1 = .verbose) with
            | some (_, on) => modify fun s => { s with verbose := on }
            | none => return ()
          match ← opening with
          | .flags changes =>
              apply changes
              branches fuel done (.flags changes :: terms)
          | .group changes number =>
              apply changes
              let inner ← branches fuel [] []
              if ← atEnd then fail .groupUnclosed here (here + 1)
              modify fun s => { s with verbose }
              let _ ← bump
              branches fuel done (.group changes number inner :: terms)
      | some '[' =>
          let term ← bracketedSet
          branches fuel done (term :: terms)
      | some '?' => repeated (mark 0 (some 1))
      | some '*' => repeated (mark 0 none)
      | some '+' => repeated (mark 1 none)
      | some '{' => repeated count
      | some '\\' =>
          let term ← escape
          branches fuel done (term :: terms)
      | some c =>
          let _ ← bump
          let span : Span := ⟨here, here + 1⟩
          let term : Term :=
            match c with
            | '.' => .dot span
            | '^' => .assertion .lineStart
            | '$' => .assertion .lineEnd
            | _ => .literal c false span
          branches fuel done (term :: terms)

def nestLimit : Nat := 250

def pattern : Reader Term := do
  let size ← remaining
  let term ← branches (size + 1) [] []
  let here ← position
  if !(← atEnd) then fail .groupUnopened here (here + 1)
  if nestLimit < term.depth then fail (.nestLimitExceeded nestLimit) 0 size
  return term

end Reader

def Term.read (text : String) : Except Fault Term :=
  (Reader.pattern.run
    { rest := text.toList, pos := 0, verbose := false, names := [], groups := 0 }).map (·.1)

end Flowgraph.Regex
