import Flowgraph.Settings.Override

/-!
# Arguments

The arguments of a call, read from left to right. Options that concern every command may stand
before the command or after it; a later level wins over an earlier one. The option `--set` takes all
the arguments that follow it up to the next option.
-/

namespace Flowgraph.CommandLine

inductive OutputFormat where
  | dot
  | json
  | mermaid
deriving DecidableEq, Inhabited

def OutputFormat.ofName? : String → Option OutputFormat
  | "dot" => some .dot
  | "json" => some .json
  | "mermaid" => some .mermaid
  | _ => none

inductive Cursor where
  | none
  | offset (offset : Nat)
  | position (text : String)
deriving DecidableEq, Inhabited

inductive Command where
  | visualize (file : String) (cursor : Cursor) (language : Option String) (format : OutputFormat)
      (stats : Bool)
  | reveal (file : String) (nodeId : String)
deriving DecidableEq, Inhabited

structure Invocation where
  config : String
  sets : List String
  command : Command
deriving DecidableEq, Inhabited

inductive Refusal where
  | usage
  | help
  | version
deriving DecidableEq, Inhabited

inductive CommandName where
  | visualize
  | reveal
deriving DecidableEq, Inhabited

def CommandName.ofText? : String → Option CommandName
  | "visualize" => some .visualize
  | "reveal" => some .reveal
  | _ => none

inductive ValueOption where
  | config
  | offset
  | at
  | language
  | format
  | nodeId
deriving DecidableEq, Inhabited

inductive Switch where
  | verbose
  | stats
deriving DecidableEq, Inhabited

inductive OptionName where
  | value (name : ValueOption)
  | switch (name : Switch)
  | sets
  | help
  | version
deriving DecidableEq, Inhabited

/-- The options known at a level; `none` is the level before the command. -/
def longOption? (level : Option CommandName) (name : String) : Option OptionName :=
  match name, level with
  | "config", _ => some (.value .config)
  | "set", _ => some .sets
  | "verbose", _ => some (.switch .verbose)
  | "help", _ => some .help
  | "version", none => some .version
  | "offset", some .visualize => some (.value .offset)
  | "at", some .visualize => some (.value .at)
  | "language", some .visualize => some (.value .language)
  | "format", some .visualize => some (.value .format)
  | "stats", some .visualize => some (.switch .stats)
  | "node-id", some .reveal => some (.value .nodeId)
  | _, _ => none

def shortOption? (level : Option CommandName) : Char → Option OptionName
  | 'v' => some (.switch .verbose)
  | 'h' => some .help
  | 'V' => if level = none then some .version else none
  | _ => none

structure Level where
  values : List (ValueOption × String)
  switches : List Switch
  sets : Option (List String)
  files : List String
deriving Inhabited

def Level.empty : Level := { values := [], switches := [], sets := none, files := [] }

def Level.value? (l : Level) (name : ValueOption) : Option String :=
  (l.values.find? (·.1 = name)).map (·.2)

def Level.addSets (l : Level) (more : List String) : Level :=
  { l with sets := some (l.sets.getD [] ++ more) }

inductive Pending where
  | nothing
  | value (name : ValueOption)
  | sets
deriving DecidableEq, Inhabited

/-- A value fits its option. Paths must not be empty. -/
def valueFits (name : ValueOption) (text : String) : Bool :=
  match name with
  | .config => text ≠ ""
  | .offset => (Numeral.read? Numeral.max64 text.toList).isSome
  | .format => (OutputFormat.ofName? text).isSome
  | _ => true

/-- Records a value; an option with a value may be given once. -/
def Level.addValue (l : Level) (name : ValueOption) (text : String) : Except Refusal Level :=
  if (l.value? name).isSome || !valueFits name text then .error .usage
  else .ok { l with values := (name, text) :: l.values }

def Level.addSwitch (l : Level) (name : Switch) : Except Refusal Level :=
  if l.switches.contains name then .error .usage
  else .ok { l with switches := name :: l.switches }

/-- Records a positional argument, a file; each command takes one. -/
def Level.addFile (l : Level) (level : Option CommandName) (text : String) :
    Except Refusal Level :=
  if level = none || !l.files.isEmpty || text = "" then .error .usage
  else .ok { l with files := [text] }

def shortOptions (level : Option CommandName) (l : Level) : List Char → Except Refusal Level
  | [] => .ok l
  | c :: rest =>
      match shortOption? level c with
      | some (.switch name) =>
          match l.addSwitch name with
          | .ok l => shortOptions level l rest
          | .error refusal => .error refusal
      | some .help => .error .help
      | some .version => .error .version
      | _ => .error .usage

/-- Splits an option from a value that is joined to it by an equals sign. -/
def splitLong (text : List Char) : String × Option String :=
  match Text.splitOnce '=' text with
  | some (name, value) => (String.ofList name, some (String.ofList value))
  | none => (String.ofList text, none)

def longOption (level : Option CommandName) (l : Level) (text : List Char) :
    Except Refusal (Level × Pending) :=
  let (name, joined) := splitLong text
  match longOption? level name, joined with
  | some (.value name), some value => (l.addValue name value).map (·, .nothing)
  | some (.value name), none => .ok (l, .value name)
  | some .sets, some value => .ok (l.addSets [value], .nothing)
  | some .sets, none => .ok (l.addSets [], .sets)
  | some (.switch name), none => (l.addSwitch name).map (·, .nothing)
  | some .help, none => .error .help
  | some .version, none => .error .version
  | _, _ => .error .usage

structure Levels where
  outer : Level
  inner : Option (CommandName × Level)
deriving Inhabited

/-- Reads arguments at a level; `done` is the level before the command once that has been named. -/
def readLevel (done : Option (Level × CommandName)) (l : Level) (pending : Pending)
    (onlyFiles : Bool) : List String → Except Refusal Levels
  | [] =>
      match pending, done with
      | .value _, _ => .error .usage
      | _, some (outer, name) => .ok { outer, inner := some (name, l) }
      | _, none => .ok { outer := l, inner := none }
  | text :: rest =>
      let level := done.map (·.2)
      if onlyFiles then
        match l.addFile level text with
        | .ok l => readLevel done l .nothing true rest
        | .error refusal => .error refusal
      else
        match done, pending, CommandName.ofText? text with
        | none, .nothing, some name => readLevel (some (l, name)) Level.empty .nothing false rest
        | _, _, _ =>
            if done.isNone && pending = .nothing && text = "help" then .error .help
            else
              match text.toList, pending with
              | ['-', '-'], .value _ => .error .usage
              | ['-', '-'], _ => readLevel done l .nothing true rest
              | '-' :: '-' :: _, .value _ => .error .usage
              | '-' :: '-' :: option, _ =>
                  match longOption level l option with
                  | .ok (l, pending) => readLevel done l pending false rest
                  | .error refusal => .error refusal
              | '-' :: _ :: _, .value _ => .error .usage
              | '-' :: c :: options, _ =>
                  match shortOptions level l (c :: options) with
                  | .ok l => readLevel done l .nothing false rest
                  | .error refusal => .error refusal
              | _, .value name =>
                  match l.addValue name text with
                  | .ok l => readLevel done l .nothing false rest
                  | .error refusal => .error refusal
              | _, .sets => readLevel done (l.addSets [text]) .sets false rest
              | _, .nothing =>
                  match l.addFile level text with
                  | .ok l => readLevel done l .nothing false rest
                  | .error refusal => .error refusal

/-- The cursor that the options of a command give; an offset and a position exclude each other. -/
def Level.cursor (l : Level) : Except Refusal Cursor :=
  match l.value? .offset, l.value? .at with
  | some _, some _ => .error .usage
  | some offset, none => .ok (.offset ((Numeral.read? Numeral.max64 offset.toList).getD 0))
  | none, some position => .ok (.position position)
  | none, none => .ok .none

def Level.command (l : Level) (name : CommandName) : Except Refusal Command :=
  match l.files with
  | [file] =>
      match name with
      | .visualize =>
          l.cursor.map fun cursor =>
            .visualize file cursor (l.value? .language)
              (((l.value? .format).bind OutputFormat.ofName?).getD .dot)
              (l.switches.contains .stats)
      | .reveal =>
          match l.value? .nodeId with
          | some nodeId => .ok (.reveal file nodeId)
          | none => .error .usage
  | _ => .error .usage

def standardConfig : String := "codeviz.yml"

def Invocation.read (args : List String) : Except Refusal Invocation :=
  match readLevel none Level.empty .nothing false args with
  | .error refusal => .error refusal
  | .ok levels =>
      match levels.inner with
      | none => .error .usage
      | some (name, inner) =>
          (inner.command name).map fun command =>
            { config := ((inner.value? .config).orElse fun _ => levels.outer.value? .config).getD
                standardConfig
              sets := (inner.sets.orElse fun _ => levels.outer.sets).getD []
              command }

end Flowgraph.CommandLine
