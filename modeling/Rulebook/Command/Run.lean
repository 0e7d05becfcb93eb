import Rulebook.Command.Host
import Rulebook.Command.Line
import Rulebook.Config.Schema
import Rulebook.Json.Reader
import Rulebook.Pattern.Matching
import Rulebook.Rule.Encoding

namespace Rulebook

def version : String := "argrule 0.1.0"

def exitValid : Nat := 0

def exitInvalid : Nat := 1

def exitError : Nat := 2

def contextEntry (entry : String) : Except String (String × Value) :=
  match entry.toList.span (· ≠ '=') with
  | (_, []) => .error ("context entry '" ++ entry ++ "' must be KEY=VALUE")
  | (key, _ :: value) =>
    let key := Text.trim key
    if key.isEmpty then .error ("context entry '" ++ entry ++ "' has an empty key")
    else .ok (String.ofList key, (Json.read? value).getD (.string (String.ofList value)))

/-- A value that is no JSON is a string. Later entries replace earlier ones. -/
def contextOf (entries : List String) : Except String Context :=
  Directory.ofList <$> entries.mapM contextEntry

def jsonArgument [Wording] (label text : String) : Except String Value :=
  match Json.read? text.toList with
  | some v => .ok v
  | none => .error (label ++ " is not valid JSON: " ++ Wording.json text)

def Outcome.toValue : Outcome → Value
  | .valid v => .object [("status", .string "valid"), ("detail", v)]
  | .invalid reasons =>
    .object [("status", .string "invalid"),
      ("detail", .array ((messagesOf reasons).map .string))]

def Report.toValue (r : Report) : Value :=
  .object [("values", .object r.values),
    ("issues", .array (r.issues.map fun i ↦ .string i.message))]

def Engine.summary (e : Engine) : Value :=
  .object [("max_rule_bytes", .integer e.limits.bytes),
    ("max_nesting_depth", .integer e.limits.depth),
    ("mixed_connectives", .string e.policy.word)]

def Catalog.listing (c : Catalog) : List String :=
  c.flatMap fun (name, t) ↦ (name ++ ": " ++ t.describe) ::
    t.functions.values.map fun f ↦ "  " ++ f.name ++ ": " ++ f.describe

section

variable {m : Type → Type} [Monad m] {ε α : Type}

abbrev Attempt (m : Type → Type) := ExceptT String m

def Host.printLine (host : Host m) (text : String) : Attempt m Unit := ExceptT.mk do
  return (← host.print (text ++ "\n")).mapError ("failed to write to stdout: " ++ ·)

structure Session (m : Type → Type) where
  host : Host m
  engine : Engine
  sink : Sink

namespace Session

def settle (s : Session m) (message : ε → String) (r : Traced ε α) : Attempt m α :=
  s.sink.settle s.host ⟨r.trail, r.result.mapError message⟩

def printValue (s : Session m) (v : Value) : Attempt m Unit := s.host.printLine (Json.pretty v)

def readFile (s : Session m) (message : ConfigFault → String) (path : Path) :
    Attempt m String := do
  let entry ← s.host.look path
  liftExcept ((entry.read path).mapError message)

def compile (s : Session m) (rule : String) : Attempt m Nat := do
  let rule ← s.settle Fault.message (s.engine.compile rule)
  s.printValue rule.toValue
  return exitValid

def describe (s : Session m) (rule : String) : Attempt m Nat := do
  s.host.printLine (← s.settle Fault.message (s.engine.describe (.text rule)))
  return exitValid

def types (s : Session m) : Attempt m Nat := do
  s.engine.catalog.listing.forM s.host.printLine
  return exitValid

def validateConfig (s : Session m) : Attempt m Nat := do
  s.printValue s.engine.summary
  return exitValid

variable [Wording]

def check (s : Session m) (rule input : String) (isTyped : Bool) (entries : List String) :
    Attempt m Nat := do
  let context ← liftExcept (contextOf entries)
  let input ← if isTyped then Input.typed <$> liftExcept (jsonArgument "input" input)
    else pure (.raw input)
  let outcome ← s.settle Fault.message (s.engine.apply context (.text rule) input)
  s.printValue outcome.toValue
  return if outcome.isValid then exitValid else exitInvalid

def format (s : Session m) (typeName value : String) : Attempt m Nat := do
  let value ← liftExcept (jsonArgument "value" value)
  s.host.printLine (← liftExcept ((s.engine.format typeName value).mapError Fault.message))
  return exitValid

def checkSchema (s : Session m) (schema document : Path) : Attempt m Nat := do
  let inSchema := fun (f : ConfigFault) ↦ "failed to load schema: " ++ f.message
  let inDocument := fun (f : ConfigFault) ↦ "failed to validate document: " ++ f.message
  let text ← s.readFile inSchema schema
  let schema ← s.settle inSchema (Schema.read s.engine text)
  let text ← s.readFile inDocument document
  let document ← liftExcept ((readDocument text).mapError inDocument)
  let report ← s.settle inDocument (schema.validate s.engine document)
  s.printValue report.toValue
  return if report.issues.isEmpty then exitValid else exitInvalid

def run (s : Session m) : Command → Attempt m Nat
  | .compile rule => s.compile rule
  | .describe rule => s.describe rule
  | .check rule input isTyped context => s.check rule input isTyped context
  | .format typeName value => s.format typeName value
  | .types => s.types
  | .validateConfig => s.validateConfig
  | .checkSchema schema document => s.checkSchema schema document

end Session

namespace Line

variable [PatternLibrary] [Wording]

def loadSettings (line : Line) (host : Host m) (environment : Variable) :
    ExceptT ConfigFault m Settings := do
  let (path, isRequired) ← liftExcept (Settings.locate environment line.config?)
  let entry ← host.look path
  liftExcept (Settings.ofEntry path isRequired entry)

def attempt (line : Line) (host : Host m) (environment : Variable) : Attempt m Nat := do
  if line.showsVersion then
    host.printLine version
    return exitValid
  let some command := line.command? | throw "no command given; run `argrule --help`"
  let settings ← (line.loadSettings host environment).adapt fun f ↦
    "failed to load config: " ++ f.message
  let engine ← (settings.start host).adapt fun f ↦ "failed to build engine: " ++ f.message
  Session.run ⟨host, engine, settings.sink⟩ command

/-- Carries out a command line and returns the exit code. The environment may name the settings. -/
def run (line : Line) (host : Host m) (environment : Variable) : m Nat := do
  match ← (line.attempt host environment).run with
  | .ok code => return code
  | .error message =>
    host.complain ("error: " ++ message ++ "\n")
    return exitError

end Line

end

/-- The words that this program uses itself. -/
instance : Wording where
  settings _ := "the text is malformed"
  document _ := "the text is malformed"
  json _ := "the text is malformed"

end Rulebook
