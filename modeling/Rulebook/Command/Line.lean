import Rulebook.Config.File

namespace Rulebook

inductive Command
  | compile (rule : String)
  | describe (rule : String)
  | check (rule input : String) (isTyped : Bool) (context : List String)
  | format (typeName value : String)
  | types
  | validateConfig
  | checkSchema (schema document : Path)

structure Line where
  showsVersion : Bool := false
  config? : Option Path := none
  command? : Option Command := none

inductive OptionKind
  | flag
  | path
  | texts
deriving DecidableEq, Repr

structure Shape where
  commands : List String := []
  options : List (String × OptionKind) := []

/-- The options and words of one level, and what follows from the name of a command on. -/
structure Level where
  options : List (String × String) := []
  words : List String := []
  rest : List String := []

namespace Level

def has (l : Level) (name : String) : Bool := l.options.any (·.1 == name)

def value? (l : Level) (name : String) : Option String := l.options.lookup name

def values (l : Level) (name : String) : List String :=
  l.options.filterMap fun (n, v) ↦ if n = name then some v else none

/-- Only texts may be given repeatedly, and paths may not be empty. -/
def add? (l : Level) (name : String) (kind : OptionKind) (value : String) : Option Level :=
  if (kind ≠ .texts && l.has name) || (kind = .path && value.isEmpty) then none
  else some { l with options := l.options ++ [(name, value)] }

end Level

def globalOptions : List (String × OptionKind) := [("version", .flag), ("config", .path)]

/-- An argument that begins with a hyphen, and is not just one, is no plain word. -/
def isOptionLike (argument : String) : Bool :=
  match argument.toList with
  | '-' :: _ :: _ => true
  | _ => false

def longOption? (argument : String) : Option (String × Option String) :=
  match argument.toList with
  | '-' :: '-' :: cs =>
    let (name, value) := cs.span (· ≠ '=')
    some (String.ofList name, if value.isEmpty then none else some (String.ofList (value.drop 1)))
  | _ => none

def step? (s : Shape) (l : Level) (argument : String) :
    Option (Level × Option (String × OptionKind)) := do
  let (name, value?) ← longOption? argument
  let kind ← (globalOptions ++ s.options).lookup name
  match kind, value? with
  | .flag, none => (l.add? name .flag "").map (·, none)
  | .flag, some _ => none
  | kind, some v => (l.add? name kind v).map (·, none)
  | kind, none => some (l, some (name, kind))

/-- Reads a level up to the name of a command, given the option that still lacks its value. After
two hyphens everything is a word. -/
def scan? (s : Shape) (l : Level) (pending? : Option (String × OptionKind)) :
    List String → Option Level
  | [] => if pending?.isNone then some l else none
  | a :: rest =>
    match pending? with
    | some (name, kind) =>
      if isOptionLike a then none
      else match l.add? name kind a with
        | some l => scan? s l none rest
        | none => none
    | none =>
      if s.commands.contains a then some { l with rest := a :: rest }
      else if a = "--" then some { l with words := l.words ++ rest }
      else if !isOptionLike a then scan? s { l with words := l.words ++ [a] } none rest
      else match step? s l a with
        | some (l, pending?) => scan? s l pending? rest
        | none => none

namespace Line

def adopt (line : Line) (l : Level) : Line :=
  { line with
    showsVersion := line.showsVersion || l.has "version"
    config? := ((l.value? "config").map .ofText).or line.config? }

def leaf? (line : Line) (options : List (String × OptionKind)) (args : List String)
    (make : Level → Option Command) : Option Line := do
  let l ← scan? ⟨[], options⟩ {} none args
  let command ← make l
  some { line.adopt l with command? := some command }

def group? (line : Line) (name : String) (args : List String)
    (inner : Line → List String → Option Line) : Option Line := do
  let l ← scan? ⟨[name], []⟩ {} none args
  match l.words, l.rest with
  | [], _ :: rest => inner (line.adopt l) rest
  | _, _ => none

def rule? (make : String → Command) (l : Level) : Option Command :=
  match l.words with
  | [rule] => some (make rule)
  | _ => none

def check? (l : Level) : Option Command :=
  match l.words with
  | [rule, input] => some (.check rule input (l.has "typed") (l.values "context"))
  | _ => none

def format? (l : Level) : Option Command :=
  match l.words with
  | [type, value] => some (.format type value)
  | _ => none

def bare? (command : Command) (l : Level) : Option Command :=
  if l.words.isEmpty then some command else none

def checkSchema? (l : Level) : Option Command :=
  match l.words, l.value? "schema", l.value? "document" with
  | [], some schema, some document => some (.checkSchema schema document)
  | _, _, _ => none

def commandNames : List String :=
  ["compile", "describe", "check", "format", "types", "config", "schema"]

def inner? (line : Line) (name : String) (args : List String) : Option Line :=
  match name with
  | "compile" => line.leaf? [] args (rule? .compile)
  | "describe" => line.leaf? [] args (rule? .describe)
  | "check" => line.leaf? [("typed", .flag), ("context", .texts)] args check?
  | "format" => line.leaf? [] args format?
  | "types" => line.leaf? [] args (bare? .types)
  | "config" =>
    line.group? "validate" args fun line rest ↦ line.leaf? [] rest (bare? .validateConfig)
  | "schema" =>
    line.group? "check" args fun line rest ↦
      line.leaf? [("schema", .path), ("document", .path)] rest checkSchema?
  | _ => none

def read? (args : List String) : Option Line := do
  let l ← scan? ⟨commandNames, []⟩ {} none args
  match l.words, l.rest with
  | [], [] => some (({} : Line).adopt l)
  | [], name :: rest => inner? (({} : Line).adopt l) name rest
  | _ :: _, _ => none

def usage : String :=
  "Usage: argrule [--version] [--config PATH] COMMAND\n\n" ++
  "Commands:\n" ++
  "  compile RULE\n" ++
  "  describe RULE\n" ++
  "  check [--typed] [--context KEY=VALUE]... RULE INPUT\n" ++
  "  format TYPE VALUE\n" ++
  "  types\n" ++
  "  config validate\n" ++
  "  schema check --schema PATH --document PATH\n"

end Line

end Rulebook
