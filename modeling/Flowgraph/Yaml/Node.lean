import Flowgraph.Yaml.Token

/-!
# YAML nodes

The tree of a YAML document. A document is composed from tokens; aliases are replaced by what their
anchors name. A text that holds more than one document is refused.
-/

namespace Flowgraph.Yaml

inductive Node where
  | scalar (text : String) (style : ScalarStyle) (tag : Option String)
  | sequence (items : List Node)
  | mapping (entries : List (Node × Node))
  /-- An alias inside of what its own anchor names. -/
  | cyclic
deriving Inhabited

/-- An empty scalar stands where a node is left out. -/
def Node.absent (tag : Option String) : Node := .scalar "" .plain tag

/-- Where the composer is: the tokens that are left, what anchors name, and tag handles. -/
structure Compose where
  rest : List Token
  anchors : List (String × Node)
  handles : List (String × String)

abbrev Composer := StateT Compose Option

namespace Composer

def current? : Composer (Option Token) := return (← get).rest.head?

def skip : Composer Unit := modify fun s => { s with rest := s.rest.drop 1 }

def accept (t : Token) : Composer Bool := do
  if (← current?) = some t then
    skip
    return true
  else return false

def expect (t : Token) : Composer Unit := do
  if !(← accept t) then failure

def isAt (ts : List Token) : Composer Bool := do
  match ← current? with
  | some t => return ts.contains t
  | none => return true

def resolveTag (text : TagText) : Composer String := do
  if text.handle.isEmpty then return text.suffix
  match (← get).handles.find? (·.1 = text.handle) with
  | some (_, full) => return full ++ text.suffix
  | none => failure

/-- The anchor and the tag in front of a node, in any order. -/
def properties (anchor tag : Option String) : Nat → Composer (Option String × Option String)
  | 0 => return (anchor, tag)
  | fuel + 1 => do
      match ← current? with
      | some (.anchor name) =>
          if anchor.isSome then return (anchor, tag)
          skip
          properties (some name) tag fuel
      | some (.tag text) =>
          if tag.isSome then return (anchor, tag)
          skip
          properties anchor (some (← resolveTag text)) fuel
      | _ => return (anchor, tag)

def setAnchor (anchor : Option String) (n : Node) : Composer Unit :=
  match anchor with
  | some name => modify fun s => { s with anchors := (name, n) :: s.anchors }
  | none => return ()

mutual

/-- Reads a node; `block` allows block collections, and `indentless` block sequences that are not
indented further than the mapping they stand in. -/
def node (fuel : Nat) (block indentless : Bool) : Composer Node :=
  match fuel with
  | 0 => failure
  | fuel + 1 => do
      if let some (.aliasOf name) ← current? then
        skip
        match (← get).anchors.find? (·.1 = name) with
        | some (_, n) => return n
        | none => failure
      let (anchor, tag) ← properties none none 2
      setAnchor anchor .cyclic
      let n ← content fuel block indentless tag (anchor.isSome || tag.isSome)
      setAnchor anchor n
      return n

def content (fuel : Nat) (block indentless : Bool) (tag : Option String) (mayBeAbsent : Bool) :
    Composer Node :=
  match fuel with
  | 0 => failure
  | fuel + 1 => do
      match ← current? with
      | some .blockEntry =>
          if indentless then return .sequence (← indentlessItems fuel)
          else if mayBeAbsent then return .absent tag
          else failure
      | some (.scalar text style) =>
          skip
          return .scalar text style tag
      | some .flowSequenceStart =>
          skip
          return .sequence (← flowItems fuel true)
      | some .flowMappingStart =>
          skip
          return .mapping (← flowEntries fuel true)
      | some .blockSequenceStart =>
          if !block then failure
          skip
          return .sequence (← blockItems fuel)
      | some .blockMappingStart =>
          if !block then failure
          skip
          return .mapping (← blockEntries fuel)
      | _ => if mayBeAbsent then return .absent tag else failure

def nodeUnless (fuel : Nat) (ends : List Token) (block indentless : Bool) : Composer Node :=
  match fuel with
  | 0 => failure
  | fuel + 1 => do
      if ← isAt ends then return .absent none else node fuel block indentless

def blockItems (fuel : Nat) : Composer (List Node) :=
  match fuel with
  | 0 => failure
  | fuel + 1 => do
      if ← accept .blockEntry then
        let item ← nodeUnless fuel [.blockEntry, .blockEnd] true false
        return item :: (← blockItems fuel)
      else
        expect .blockEnd
        return []

def indentlessItems (fuel : Nat) : Composer (List Node) :=
  match fuel with
  | 0 => failure
  | fuel + 1 => do
      if ← accept .blockEntry then
        let item ← nodeUnless fuel [.blockEntry, .key, .value, .blockEnd] true false
        return item :: (← indentlessItems fuel)
      else return []

def blockEntries (fuel : Nat) : Composer (List (Node × Node)) :=
  match fuel with
  | 0 => failure
  | fuel + 1 => do
      if ← accept .key then
        let ends := [Token.key, .value, .blockEnd]
        let name ← nodeUnless fuel ends true true
        let value ← if ← accept .value then nodeUnless fuel ends true true else pure (.absent none)
        return (name, value) :: (← blockEntries fuel)
      else
        expect .blockEnd
        return []

/-- Reads the name of a pair in a flow sequence. Where it is left out, what comes instead is
passed. -/
def pairName (fuel : Nat) : Composer Node :=
  match fuel with
  | 0 => failure
  | fuel + 1 => do
      if ← isAt [.value, .flowEntry, .flowSequenceEnd] then
        skip
        return .absent none
      else node fuel false false

def flowItems (fuel : Nat) (first : Bool) : Composer (List Node) :=
  match fuel with
  | 0 => failure
  | fuel + 1 => do
      if ← accept .flowSequenceEnd then return []
      if !first then expect .flowEntry
      if ← accept .flowSequenceEnd then return []
      let item ←
        if ← accept .key then
          let name ← pairName fuel
          let value ←
            if ← accept .value then nodeUnless fuel [.flowEntry, .flowSequenceEnd] false false
            else pure (.absent none)
          pure (.mapping [(name, value)])
        else node fuel false false
      return item :: (← flowItems fuel false)

def flowEntries (fuel : Nat) (first : Bool) : Composer (List (Node × Node)) :=
  match fuel with
  | 0 => failure
  | fuel + 1 => do
      if ← accept .flowMappingEnd then return []
      if !first then expect .flowEntry
      if ← accept .flowMappingEnd then return []
      let entry ←
        if ← accept .key then
          let name ← nodeUnless fuel [.value, .flowEntry, .flowMappingEnd] false false
          let value ←
            if ← accept .value then nodeUnless fuel [.flowEntry, .flowMappingEnd] false false
            else pure (.absent none)
          pure (name, value)
        else
          let name ← node fuel false false
          pure (name, .absent none)
      return entry :: (← flowEntries fuel false)

end

/-- Passes directives; their handles add to the two that are always known. -/
def directives (versions : Nat) : Nat → Composer Bool
  | 0 => return false
  | fuel + 1 => do
      match ← current? with
      | some (.versionDirective major minor) =>
          if 0 < versions || major ≠ 1 || (minor ≠ 1 && minor ≠ 2) then failure
          skip
          let _ ← directives 1 fuel
          return true
      | some (.tagDirective handle full) =>
          if ((← get).handles.drop 2).any (·.1 = handle) then failure
          skip
          modify fun s => { s with handles := s.handles ++ [(handle, full)] }
          let _ ← directives versions fuel
          return true
      | _ => return false

def skipDocumentEnds : Nat → Composer Unit
  | 0 => return ()
  | fuel + 1 => do if ← accept .documentEnd then skipDocumentEnds fuel else return ()

/-- Reads the only document of a stream; a stream may be empty. -/
def stream : Composer (Option Node) := do
  let fuel := (← get).rest.length + 2
  if ← accept .streamEnd then return none
  let directed ← directives 0 fuel
  modify fun s => { s with handles := s.handles.drop 2 ++ s.handles.take 2 }
  let started ← accept .documentStart
  if directed && !started then failure
  let ends := [Token.documentStart, .documentEnd, .streamEnd]
  let root ←
    if started then nodeUnless (6 * fuel) ends true false else node (6 * fuel) true false
  skipDocumentEnds fuel
  expect .streamEnd
  return some root

end Composer

/-- Reads a text that holds one document; `some none` if it holds none. -/
def read (text : String) : Option (Option Node) :=
  match tokens text with
  | some ts =>
      let start : Compose :=
        { rest := ts.toList, anchors := []
          handles := [("!", "!"), ("!!", "tag:yaml.org,2002:")] }
      (Composer.stream.run start).map (·.1)
  | none => none

end Flowgraph.Yaml
