/-!
# YAML tokens

The indicators and scalars of a YAML text, with block structure made explicit: where indentation
opens or closes a block sequence or mapping, a token says so. A scalar turns out to be a key only
when a colon follows it, so places where a key may have begun are remembered until then.
-/

namespace Flowgraph.Yaml

/-- A tag as written: the handle up to its last exclamation mark, and the rest. -/
structure TagText where
  handle : String
  suffix : String
deriving DecidableEq, Inhabited

inductive ScalarStyle where
  | plain
  | quoted
  | literal
  | folded
deriving DecidableEq, Inhabited

inductive Token where
  | versionDirective (major minor : Nat)
  | tagDirective (handle full : String)
  | documentStart
  | documentEnd
  | blockSequenceStart
  | blockMappingStart
  | blockEnd
  | flowSequenceStart
  | flowSequenceEnd
  | flowMappingStart
  | flowMappingEnd
  | blockEntry
  | flowEntry
  | key
  | value
  | aliasOf (name : String)
  | anchor (name : String)
  | tag (text : TagText)
  | scalar (text : String) (style : ScalarStyle)
  | streamEnd
deriving DecidableEq, Inhabited

structure KeyPlace where
  required : Bool
  /-- The number of tokens before the key. -/
  index : Nat
  pos : Nat
  line : Nat
  column : Nat
deriving Inhabited

structure Scan where
  rest : List Char
  pos : Nat
  line : Nat
  column : Nat
  tokens : Array Token
  /-- The column of the innermost block, or -1 outside of all blocks. -/
  indent : Int
  indents : List Int
  /-- One entry for the block context and one per open flow collection, innermost first. -/
  keys : List (Option KeyPlace)
  keyAllowed : Bool

abbrev Scanner := StateT Scan Option

namespace Scanner

def isBreak (c : Char) : Bool :=
  c = '\n' || c = '\r' || c.toNat = 0x85 || c.toNat = 0x2028 || c.toNat = 0x2029

def isBlank (c : Char) : Bool := c = ' ' || c = '\t'

def isBlankOrEnd : Option Char → Bool
  | some c => isBlank c || isBreak c
  | none => true

def isBreakOrEnd : Option Char → Bool
  | some c => isBreak c
  | none => true

/-- The characters of names of anchors and directives. -/
def isWord (c : Char) : Bool := c.isAlphanum || c = '-' || c = '_'

def isPrintable (c : Char) : Bool :=
  let n := c.toNat
  n = 9 || n = 10 || n = 13 || (0x20 ≤ n && n ≤ 0x7E) || n = 0x85 || (0xA0 ≤ n && n ≤ 0xD7FF) ||
    (0xE000 ≤ n && n ≤ 0xFFFD) || 0x10000 ≤ n

def peek (n : Nat) : Scanner (Option Char) := return ((← get).rest.drop n).head?

def current? : Scanner (Option Char) := peek 0

def skip (n : Nat) : Scanner Unit :=
  modify fun s => { s with rest := s.rest.drop n, pos := s.pos + n, column := s.column + n }

/-- Passes a line break and returns what it reads as. -/
def readLine : Scanner (List Char) := do
  let s ← get
  let next (rest : List Char) (n : Nat) (text : List Char) : Scanner (List Char) := do
    set { s with rest, pos := s.pos + n, line := s.line + 1, column := 0 }
    return text
  match s.rest with
  | '\r' :: '\n' :: rest => next rest 2 ['\n']
  | c :: rest => if isBreak c then next rest 1 (if c.toNat < 0x2000 then ['\n'] else [c]) else return []
  | [] => return []

def skipBlanks : Scanner Unit := do
  skip ((← get).rest.takeWhile isBlank).length

def skipToBreak : Scanner Unit := do
  skip ((← get).rest.takeWhile fun c => !isBreak c).length

def push (t : Token) : Scanner Unit := modify fun s => { s with tokens := s.tokens.push t }

def inFlow : Scanner Bool := return 1 < (← get).keys.length

def allowKey (allowed : Bool) : Scanner Unit := modify fun s => { s with keyAllowed := allowed }

/-- Forgets the key that may have begun in the current context; a required one must not be lost. -/
def dropKey : Scanner Unit := do
  let s ← get
  match s.keys with
  | some place :: _ =>
      if place.required then failure
      set { s with keys := none :: s.keys.drop 1 }
  | _ => return ()

def saveKey : Scanner Unit := do
  let s ← get
  if s.keyAllowed then
    dropKey
    let s ← get
    let place : KeyPlace :=
      { required := s.keys.length = 1 && s.indent = s.column
        index := s.tokens.size, pos := s.pos, line := s.line, column := s.column }
    set { s with keys := some place :: s.keys.drop 1 }

/-- Forgets places that are on another line or too far back for a key. -/
def dropStaleKeys : Scanner Unit := do
  let s ← get
  let stale (place : KeyPlace) : Bool := place.line < s.line || place.pos + 1024 < s.pos
  let lost := s.keys.any fun k =>
    match k with
    | some place => stale place && place.required
    | none => false
  if lost then failure
  set { s with keys := s.keys.map (Option.filter (!stale ·)) }

/-- Opens a block whose column is `column`, unless one is open there; its token takes the given
place, or the last one. -/
def rollIndent (column : Nat) (index : Option Nat) (t : Token) : Scanner Unit := do
  let s ← get
  if s.keys.length = 1 && s.indent < column then
    let tokens := match index with
      | some i => s.tokens.insertIdxIfInBounds i t
      | none => s.tokens.push t
    set { s with tokens, indent := column, indents := s.indent :: s.indents }

/-- The blocks that end before a column: how many, and the blocks that are left. -/
def closing (column : Int) (indent : Int) : List Int → Nat × Int × List Int
  | [] => (0, indent, [])
  | outer :: rest =>
      if column < indent then
        let (n, indent, rest) := closing column outer rest
        (n + 1, indent, rest)
      else (0, indent, outer :: rest)

/-- Closes the blocks that are indented further than a column. -/
def unrollIndent (column : Int) : Scanner Unit := do
  let s ← get
  if s.keys.length = 1 then
    let (n, indent, indents) := closing column s.indent s.indents
    set { s with indent, indents, tokens := s.tokens ++ Array.replicate n Token.blockEnd }

/-- Passes blanks, comments and line breaks up to the next token, and a byte order mark at the
beginning of a line. -/
def skipToToken : Nat → Scanner Unit
  | 0 => return ()
  | fuel + 1 => do
      if (← get).column = 0 && (← current?) = some '\ufeff' then skip 1
      let flow ← inFlow
      let allowed := (← get).keyAllowed
      let tabs := flow || !allowed
      skip ((← get).rest.takeWhile fun c => c = ' ' || (c = '\t' && tabs)).length
      if (← current?) = some '#' then skipToBreak
      match ← current? with
      | some c =>
          if isBreak c then
            let _ ← readLine
            if !flow then allowKey true
            skipToToken fuel
          else return ()
      | none => return ()

/-- Whether the line begins with three given characters and nothing joined to them. -/
def atDocumentMark (c : Char) : Scanner Bool := do
  let s ← get
  match s.rest with
  | a :: b :: d :: rest =>
      return s.column = 0 && a = c && b = c && d = c && isBlankOrEnd rest.head?
  | _ => return false

def atAnyDocumentMark : Scanner Bool := return (← atDocumentMark '-') || (← atDocumentMark '.')

def takeWhile (accepts : Char → Bool) : Scanner (List Char) := do
  let found := (← get).rest.takeWhile accepts
  skip found.length
  return found

/-! ## Directives, anchors and tags -/

def decimalValue (digits : List Char) : Nat :=
  digits.foldl (fun n c => 10 * n + (c.toNat - 48)) 0

def versionNumber : Scanner Nat := do
  let digits ← takeWhile Char.isDigit
  if digits.isEmpty || 9 < digits.length then failure
  return decimalValue digits

def isUriChar (verbatim : Bool) (c : Char) : Bool :=
  isWord c || ";/?:@&=+$.%!~*'()".toList.contains c || (verbatim && ",[]".toList.contains c)

def hexValue? (c : Char) : Option Nat :=
  if '0' ≤ c ∧ c ≤ '9' then some (c.toNat - 48)
  else if 'a' ≤ c ∧ c ≤ 'f' then some (c.toNat - 87)
  else if 'A' ≤ c ∧ c ≤ 'F' then some (c.toNat - 55)
  else none

def byteCount? (first : Nat) : Option Nat :=
  if first < 0x80 then some 1
  else if first < 0xC0 then none
  else if first < 0xE0 then some 2
  else if first < 0xF0 then some 3
  else if first < 0xF8 then some 4
  else none

def escapedByte? : List Char → Option (Nat × List Char)
  | '%' :: a :: b :: rest => do return (16 * (← hexValue? a) + (← hexValue? b), rest)
  | _ => none

/-- The character that several bytes encode; one that they must not encode is replaced. -/
def wideChar (code : Nat) : Char :=
  if 0x80 ≤ code && decide code.isValidChar then Char.ofNat code else '\ufffd'

/-- Decodes escapes of bytes; `owed` more bytes belong to the character under way, of which `code`
is what has been read. -/
def decodeUri (owed code : Nat) : Nat → List Char → Option (List Char)
  | 0, _ => none
  | _, [] => if owed = 0 then some [] else none
  | fuel + 1, c :: rest =>
      if owed = 0 && c ≠ '%' then (decodeUri 0 0 fuel rest).map (c :: ·)
      else do
        let (byte, rest) ← escapedByte? (c :: rest)
        if owed = 0 then
          match ← byteCount? byte with
          | 1 => return Char.ofNat byte :: (← decodeUri 0 0 fuel rest)
          | n =>
              let lead := if n = 2 then 32 else if n = 3 then 16 else 8
              decodeUri (n - 1) (byte % lead) fuel rest
        else if byte < 0x80 || 0xC0 ≤ byte then none
        else if owed = 1 then
          return wideChar (64 * code + byte % 64) :: (← decodeUri 0 0 fuel rest)
        else decodeUri (owed - 1) (64 * code + byte % 64) fuel rest

/-- Reads a resource name, which is not empty when something stands before it; a null character ends
what it says. -/
def uri (verbatim : Bool) (led : Bool) : Scanner (List Char) := do
  let text ← takeWhile (isUriChar verbatim)
  if text.isEmpty && !led then failure
  match decodeUri 0 0 (text.length + 1) text with
  | some text => return text.takeWhile (· ≠ '\x00')
  | none => failure

/-- A tag handle: one or two exclamation marks with a name between them. -/
def tagHandle : Scanner (List Char) := do
  if (← current?) ≠ some '!' then failure
  skip 1
  let name ← takeWhile isWord
  if (← current?) = some '!' then
    skip 1
    return '!' :: name ++ ['!']
  else return '!' :: name

def directive : Scanner Unit := do
  skip 1
  let name ← takeWhile isWord
  if name.isEmpty || !isBlankOrEnd (← current?) then failure
  if name = "YAML".toList then
    skipBlanks
    let major ← versionNumber
    if (← current?) ≠ some '.' then failure
    skip 1
    let minor ← versionNumber
    push (.versionDirective major minor)
  else if name = "TAG".toList then
    skipBlanks
    let handle ← tagHandle
    if handle ≠ ['!'] && handle.getLast? ≠ some '!' then failure
    if !isBlankOrEnd (← current?) || isBreakOrEnd (← current?) then failure
    skipBlanks
    let full ← uri true false
    if !isBlankOrEnd (← current?) then failure
    push (.tagDirective (String.ofList handle) (String.ofList full))
  else failure
  skipBlanks
  if (← current?) = some '#' then skipToBreak
  if !isBreakOrEnd (← current?) then failure

def anchorName : Scanner String := do
  skip 1
  let name ← takeWhile isWord
  let after ← current?
  let ends := match after with
    | some c => "?:,]\x7d%@\x60".toList.contains c
    | none => true
  if name.isEmpty || !(isBlankOrEnd after || ends) then failure
  return String.ofList name

def tag : Scanner TagText := do
  let text : TagText ←
    if (← peek 1) = some '<' then do
      skip 2
      let text ← uri true false
      if (← current?) ≠ some '>' then failure
      skip 1
      pure ⟨"", String.ofList text⟩
    else do
      let handle ← tagHandle
      if 2 ≤ handle.length && handle.getLast? = some '!' then
        let text ← uri false false
        pure ⟨String.ofList handle, String.ofList text⟩
      else
        let more ← uri false true
        let suffix := handle.drop 1 ++ more
        pure (if suffix.isEmpty then ⟨"", "!"⟩ else ⟨"!", String.ofList suffix⟩)
  let after ← current?
  if !(isBlankOrEnd after || ((← inFlow) && after = some ',')) then failure
  return text

/-! ## Scalars -/

/-- The line breaks and blanks that have been passed between two parts of a scalar. -/
structure Gap where
  blanks : List Char
  first : List Char
  others : List Char
  broken : Bool

def Gap.none : Gap := ⟨[], [], [], false⟩

/-- What a gap is folded into: a single line break becomes a blank, further ones are kept. -/
def Gap.fold (gap : Gap) : List Char :=
  if gap.broken then
    if gap.first = ['\n'] then (if gap.others.isEmpty then [' '] else gap.others)
    else gap.first ++ gap.others
  else gap.blanks

/-- Passes blanks and line breaks between two parts of a scalar. In a plain scalar no tab may stand
where indentation is due. -/
def gap (tabLimit : Int) (g : Gap) : Nat → Scanner Gap
  | 0 => return g
  | fuel + 1 => do
      match ← current? with
      | some c =>
          if isBlank c then
            if g.broken && c = '\t' && (← get).column < tabLimit then failure
            skip 1
            gap tabLimit (if g.broken then g else { g with blanks := g.blanks ++ [c] }) fuel
          else if isBreak c then
            let text ← readLine
            gap tabLimit
              (if g.broken then { g with others := g.others ++ text }
                else { g with blanks := [], first := text, broken := true }) fuel
          else return g
      | none => return g

def remaining : Scanner Nat := return (← get).rest.length

def simpleEscape? : Char → Option Nat
  | '0' => some 0
  | 'a' => some 7
  | 'b' => some 8
  | 't' | '\t' => some 9
  | 'n' => some 10
  | 'v' => some 11
  | 'f' => some 12
  | 'r' => some 13
  | 'e' => some 27
  | ' ' => some 32
  | '"' => some 34
  | '/' => some 47
  | '\\' => some 92
  | 'N' => some 0x85
  | '_' => some 0xA0
  | 'L' => some 0x2028
  | 'P' => some 0x2029
  | _ => none

def hexWidth? : Char → Option Nat
  | 'x' => some 2
  | 'u' => some 4
  | 'U' => some 8
  | _ => none

def escape : Scanner Char := do
  skip 1
  match ← current? with
  | none => failure
  | some c =>
      skip 1
      match simpleEscape? c, hexWidth? c with
      | some n, _ => return Char.ofNat n
      | none, some width =>
          let digits := (← get).rest.take width
          let values := digits.filterMap hexValue?
          if values.length ≠ width then failure
          let n := values.foldl (fun n d => 16 * n + d) 0
          if !decide n.isValidChar then failure
          skip width
          return Char.ofNat n
      | none, none => failure

/-- Reads the part of a quoted scalar up to a blank, a break or the closing quote; `true` if an
escaped line break ended it. -/
def quotedPart (quote : Char) : Nat → Scanner (List Char × Bool)
  | 0 => return ([], false)
  | fuel + 1 => do
      match ← current? with
      | none => return ([], false)
      | some c =>
          let go (c : Char) : Scanner (List Char × Bool) := do
            let (text, escaped) ← quotedPart quote fuel
            return (c :: text, escaped)
          if isBlank c || isBreak c then return ([], false)
          else if quote = '\'' && c = '\'' && (← peek 1) = some '\'' then
            skip 2
            go '\''
          else if c = quote then return ([], false)
          else if quote = '"' && c = '\\' then
            match ← peek 1 with
            | some d =>
                if isBreak d then
                  skip 1
                  let _ ← readLine
                  return ([], true)
                else go (← escape)
            | none => failure
          else
            skip 1
            go c

def quotedRest (quote : Char) : Nat → Scanner (List Char)
  | 0 => failure
  | fuel + 1 => do
      if ← atAnyDocumentMark then failure
      if (← get).rest.isEmpty then failure
      let (text, escaped) ← quotedPart quote (← remaining)
      if (← current?) = some quote then
        skip 1
        return text
      else
        let start : Gap := { Gap.none with broken := escaped }
        let g ← gap (-1) start ((← remaining) + 1)
        return text ++ g.fold ++ (← quotedRest quote fuel)

def quotedScalar (quote : Char) : Scanner Unit := do
  skip 1
  let text ← quotedRest quote ((← remaining) + 1)
  push (.scalar (String.ofList text) .quoted)

def plainEnds (flow : Bool) (c : Char) (after : Option Char) : Bool :=
  isBlank c || isBreak c || (c = ':' && isBlankOrEnd after) ||
    (flow && ",[]\x7b\x7d".toList.contains c)

def plainPart (flow : Bool) : List Char → Option (List Char)
  | [] => some []
  | c :: rest =>
      let stops := match rest.head? with
        | some d => ",?[]\x7b\x7d".toList.contains d
        | none => false
      if flow && c = ':' && stops then none
      else if plainEnds flow c rest.head? then some []
      else (plainPart flow rest).map (c :: ·)

/-- Reads the rest of a plain scalar after a gap; the result tells whether a gap with a line break
was passed last. -/
def plainRest (limit : Int) (before : Gap) : Nat → Scanner (List Char × Bool)
  | 0 => return ([], before.broken)
  | fuel + 1 => do
      let flow ← inFlow
      if (← atAnyDocumentMark) || (← current?) = some '#' then return ([], before.broken)
      match plainPart flow (← get).rest with
      | none => failure
      | some part =>
          skip part.length
          let text := if part.isEmpty then [] else before.fold ++ part
          let between := if part.isEmpty then before else Gap.none
          if isBlankOrEnd (← current?) && (← current?).isSome then
            let g ← gap limit between ((← remaining) + 1)
            if !flow && (← get).column < limit then return (text, g.broken)
            let (more, broken) ← plainRest limit g fuel
            return (text ++ more, broken)
          else return (text, between.broken)

def plainScalar : Scanner Unit := do
  let limit := (← get).indent + 1
  let (text, broken) ← plainRest limit Gap.none ((← remaining) + 1)
  push (.scalar (String.ofList text) .plain)
  if broken then allowKey true

inductive Chomping where
  | strip
  | clip
  | keep
deriving DecidableEq

/-- The marks after the indicator of a block scalar: how its end is chomped, and its indentation. -/
def blockHeader : Scanner (Chomping × Option Nat) := do
  let chomping : Scanner (Option Chomping) := do
    match ← current? with
    | some '+' =>
        skip 1
        return some .keep
    | some '-' =>
        skip 1
        return some .strip
    | _ => return none
  let width : Scanner (Option Nat) := do
    match ← current? with
    | some c =>
        if c.isDigit then
          if c = '0' then failure
          skip 1
          return some (c.toNat - 48)
        else return none
    | none => return none
  match ← chomping with
  | some ch => return (ch, ← width)
  | none =>
      let w ← width
      if w.isSome then return ((← chomping).getD .clip, w) else return (.clip, none)

/-- Passes the indentation and the empty lines before a line of a block scalar. Without a given
indentation the widest one found counts. -/
def blockBreaks (indent : Option Nat) (widest : Nat) (breaks : List Char) :
    Nat → Scanner (Nat × List Char)
  | 0 => return (widest, breaks)
  | fuel + 1 => do
      let s ← get
      let blanks := (s.rest.takeWhile (· = ' ')).length
      skip (match indent with
        | some n => min blanks (n - s.column)
        | none => blanks)
      let s ← get
      let widest := max widest s.column
      let within := match indent with
        | some n => s.column < n
        | none => true
      if within && (← current?) = some '\t' then failure
      match ← current? with
      | some c =>
          if isBreak c then
            let text ← readLine
            blockBreaks indent widest (breaks ++ text) fuel
          else return (widest, breaks)
      | none => return (widest, breaks)

/-- Reads the lines of a block scalar. The last break and the breaks after it are returned apart. -/
def blockLines (literal : Bool) (indent : Nat) (break_ : List Char) (breaks : List Char)
    (afterBlank : Bool) : Nat → Scanner (List Char × List Char × List Char)
  | 0 => return ([], break_, breaks)
  | fuel + 1 => do
      let s ← get
      if s.column ≠ indent || s.rest.isEmpty then return ([], break_, breaks)
      let blank := match s.rest.head? with
        | some c => isBlank c
        | none => false
      let between :=
        if !literal && break_ = ['\n'] && !afterBlank && !blank then
          if breaks.isEmpty then [' '] else breaks
        else break_ ++ breaks
      let line ← takeWhile fun c => !isBreak c
      let nextBreak ← readLine
      let (_, nextBreaks) ← blockBreaks (some indent) 0 [] ((← remaining) + 1)
      let (more, lastBreak, lastBreaks) ← blockLines literal indent nextBreak nextBreaks blank fuel
      return (between ++ line ++ more, lastBreak, lastBreaks)

def blockScalar (literal : Bool) : Scanner Unit := do
  skip 1
  let (chomping, width) ← blockHeader
  skipBlanks
  if (← current?) = some '#' then skipToBreak
  if !isBreakOrEnd (← current?) then failure
  let _ ← readLine
  let outer := (← get).indent
  let given := width.map fun n => if 0 ≤ outer then outer.toNat + n else n
  let (widest, breaks) ← blockBreaks given 0 [] ((← remaining) + 1)
  let indent := given.getD (max (max widest (outer + 1).toNat) 1)
  let (text, lastBreak, lastBreaks) ←
    blockLines literal indent [] breaks false ((← remaining) + 1)
  let ending := match chomping with
    | .strip => []
    | .clip => lastBreak
    | .keep => lastBreak ++ lastBreaks
  push (.scalar (String.ofList (text ++ ending)) (if literal then .literal else .folded))

/-! ## Tokens -/

def blockEntry : Scanner Unit := do
  let s ← get
  if !(← inFlow) then
    if !s.keyAllowed then failure
    rollIndent s.column none .blockSequenceStart
  dropKey
  allowKey true
  skip 1
  push .blockEntry

def key : Scanner Unit := do
  let s ← get
  let flow ← inFlow
  if !flow then
    if !s.keyAllowed then failure
    rollIndent s.column none .blockMappingStart
  dropKey
  allowKey (!flow)
  skip 1
  push .key

def value : Scanner Unit := do
  let s ← get
  let flow ← inFlow
  match s.keys with
  | some place :: others =>
      set { s with tokens := s.tokens.insertIdxIfInBounds place.index .key, keys := none :: others }
      rollIndent place.column (some place.index) .blockMappingStart
      allowKey false
  | _ =>
      if !flow then
        if !s.keyAllowed then failure
        rollIndent s.column none .blockMappingStart
      allowKey (!flow)
  skip 1
  push .value

def flowStart (t : Token) : Scanner Unit := do
  saveKey
  modify fun s => { s with keys := none :: s.keys }
  allowKey true
  skip 1
  push t

def flowEnd (t : Token) : Scanner Unit := do
  dropKey
  if ← inFlow then modify fun s => { s with keys := s.keys.drop 1 }
  allowKey false
  skip 1
  push t

/-- Reads one token; `false` at the end of the text. -/
def token : Scanner Bool := do
  skipToToken ((← remaining) + 1)
  dropStaleKeys
  unrollIndent (← get).column
  let flow ← inFlow
  let boundary : Scanner Unit := do
    unrollIndent (-1)
    dropKey
    allowKey false
  match ← current? with
  | none =>
      modify fun s =>
        if s.column = 0 then s else { s with column := 0, line := s.line + 1 }
      boundary
      push .streamEnd
      return false
  | some c =>
      let after ← peek 1
      if (← get).column = 0 && c = '%' then
        boundary
        directive
      else if ← atDocumentMark '-' then
        boundary
        skip 3
        push .documentStart
      else if ← atDocumentMark '.' then
        boundary
        skip 3
        push .documentEnd
      else if c = '[' then flowStart .flowSequenceStart
      else if c = '\x7b' then flowStart .flowMappingStart
      else if c = ']' then flowEnd .flowSequenceEnd
      else if c = '\x7d' then flowEnd .flowMappingEnd
      else if c = ',' then
        dropKey
        allowKey true
        skip 1
        push .flowEntry
      else if c = '-' && isBlankOrEnd after then blockEntry
      else if c = '?' && (flow || isBlankOrEnd after) then key
      else if c = ':' && (flow || isBlankOrEnd after) then value
      else if c = '*' then
        saveKey
        allowKey false
        push (.aliasOf (← anchorName))
      else if c = '&' then
        saveKey
        allowKey false
        push (.anchor (← anchorName))
      else if c = '!' then
        saveKey
        allowKey false
        push (.tag (← tag))
      else if (c = '|' || c = '>') && !flow then
        dropKey
        allowKey true
        blockScalar (c = '|')
      else if c = '\'' || c = '"' then
        saveKey
        allowKey false
        quotedScalar c
      else if !("-?:,[]\x7b\x7d#&*!|>'\"%@\x60\t".toList.contains c) ||
          (c = '-' && after ≠ some ' ' && after ≠ some '\t') ||
          (!flow && (c = '?' || c = ':') && !isBlankOrEnd after) then
        saveKey
        allowKey false
        plainScalar
      else failure
      return true

/-- Reads all tokens. Each takes at least one character. -/
def all : Nat → Scanner Unit
  | 0 => failure
  | fuel + 1 => do if ← token then all fuel else return ()

end Scanner

/-- The tokens of a text. A byte order mark in front is passed over. -/
def tokens (text : String) : Option (Array Token) :=
  let chars := match text.toList with
    | '\ufeff' :: rest => rest
    | chars => chars
  if chars.all Scanner.isPrintable then
    let start : Scan :=
      { rest := chars, pos := 0, line := 0, column := 0, tokens := #[], indent := -1, indents := []
        keys := [none], keyAllowed := true }
    ((Scanner.all (chars.length + 2)).run start).map (·.2.tokens)
  else none

end Flowgraph.Yaml
