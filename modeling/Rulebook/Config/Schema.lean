import Rulebook.Config.File
import Rulebook.Evaluation.Description
import Rulebook.Toml.Reading

namespace Rulebook

open Toml

structure Declaration where
  key : String
  source : String
  sample? : Option String := none
deriving DecidableEq, Repr

structure SchemaEntry extends Declaration where
  rule : Rule

abbrev Schema := List SchemaEntry

structure Issue where
  key : String
  reasons : List Reason
  expected : String
  sample? : Option String

structure Report where
  values : Fields := []
  issues : List Issue := []

def Issue.message (i : Issue) : String :=
  "Validation failed for '" ++ i.key ++ "': " ++ ", ".intercalate (messagesOf i.reasons) ++
    "\nExpected: " ++ String.ofList (Text.replace ['\n'] "\n  ".toList i.expected.toList) ++
    (i.sample?.elim "" ("\nSample: " ++ ·))

/-- Either the text of a rule, or a table with a rule and perhaps a sample. -/
def Declaration.ofNode? (key : String) : Node → Option Declaration
  | .string source => some ⟨key, source, none⟩
  | .table _ entries =>
    match entries.lookup "rule", entries.lookup "sample" with
    | some (.string source), none => some ⟨key, source, none⟩
    | some (.string source), some (.string sample) => some ⟨key, source, some sample⟩
    | _, _ => none
  | _ => none

def documentEntries [Wording] (text : String) : Except ConfigFault Entries :=
  match (Toml.read? text.toList).filter entriesFit with
  | some entries => .ok entries
  | none => .error (@ConfigFault.malformed (Wording.document text))

def readDocument [Wording] (text : String) : Except ConfigFault Fields := do
  return fieldsOf (← documentEntries text)

namespace Schema

def compileEntry (e : Engine) (d : Declaration) : Traced ConfigFault SchemaEntry := do
  let rule ← (e.compile d.source).mapError fun f ↦ .refused (.badRule d.key f)
  return ⟨d, rule⟩

def compile (e : Engine) : List Declaration → Traced ConfigFault Schema
  | [] => .pure []
  | d :: ds => do
    let entry ← compileEntry e d
    return entry :: (← compile e ds)

def ofEntries (e : Engine) : Entries → Traced ConfigFault Schema
  | [] => .pure []
  | (key, n) :: rest =>
    match Declaration.ofNode? key n with
    | none => .fail (.refused (.schemaEntry key))
    | some d => do
      let entry ← compileEntry e d
      return entry :: (← ofEntries e rest)

def read [Wording] (e : Engine) (text : String) : Traced ConfigFault Schema := do
  ofEntries e (← .ofExcept (documentEntries text))

def outcome (e : Engine) (document : Fields) (entry : SchemaEntry) : Run Outcome :=
  match document.get? entry.key with
  | none => .pure (.invalid [.missingKey entry.key])
  | some (.string text) => e.apply [] (.tree entry.rule) (.raw text)
  | some v => e.apply [] (.tree entry.rule) (.typed v)

def expected (e : Engine) (rule : Rule) : String :=
  match (e.describe (.tree rule)).result with
  | .ok text => text
  | .error _ => ""

def validateFrom (e : Engine) (document : Fields) (report : Report) :
    Schema → Traced ConfigFault Report
  | [] => .pure report
  | entry :: entries => do
    let found ← (outcome e document entry).mapError fun f ↦ .refused (.failedRule entry.key f)
    let report := match found with
      | .valid v => { report with values := report.values.insert entry.key v }
      | .invalid reasons =>
        let issue := ⟨entry.key, reasons, expected e entry.rule, entry.sample?⟩
        { report with issues := report.issues ++ [issue] }
    validateFrom e document report entries

/-- Checks every declared key of a document, in the order of declaration. -/
def validate (e : Engine) (schema : Schema) (document : Fields) : Traced ConfigFault Report :=
  validateFrom e document {} schema

end Schema

end Rulebook
