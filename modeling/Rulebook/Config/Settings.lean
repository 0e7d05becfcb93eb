import Rulebook.Catalog.Builtin
import Rulebook.Config.File
import Rulebook.Evaluation.Engine
import Rulebook.Text.Blank
import Rulebook.Toml.Reading

namespace Rulebook

open Toml

inductive Sink
  | off
  | stderr
  | file (path : String)
deriving DecidableEq, Repr

structure Settings where
  limits : Limits := {}
  policy : Policy := .warn
  sink : Sink := .off
deriving DecidableEq, Repr

def Sink.word : Sink → String
  | .off => "none"
  | .stderr => "stderr"
  | .file _ => "file"

def Sink.path? : Sink → Option String
  | .file path => some path
  | _ => none

/-- The values of a section in the order of its keys. A table names them and has no other keys; an
array lists them and may go on. -/
def sectionValues? (keys : List String) : Option Node → Option (List (Option Node))
  | some (.table _ entries) =>
    if entries.all fun e ↦ keys.contains e.1 then some (keys.map fun k ↦ entries.lookup k) else none
  | some (.array items) => some ((List.range keys.length).map fun i ↦ items[i]?)
  | some (.tables items) => some ((List.range keys.length).map fun i ↦ items.reverse[i]?)
  | some _ => none
  | none => some (keys.map fun _ ↦ none)

def optional? (default : α) (read : Node → Option α) : Option Node → Option α
  | none => some default
  | some n => read n

def natural? : Node → Option Nat
  | .integer n => if 0 ≤ n ∧ n.toNat ≤ Value.maxUnsigned then some n.toNat else none
  | _ => none

def string? : Node → Option String
  | .string s => some s
  | _ => none

def isEmptyNode : Node → Bool
  | .table _ [] | .array [] => true
  | _ => false

/-- One of several words, as a string or as the only key of a table with nothing under it. -/
def word? : Node → Option String
  | .string w => some w
  | .table _ [(w, n)] => if isEmptyNode n then some w else none
  | _ => none

def limits? (n : Option Node) : Option Limits := do
  let [bytes, depth] ← sectionValues? ["max_rule_bytes", "max_nesting_depth"] n | none
  let bytes ← optional? ({} : Limits).bytes natural? bytes
  let depth ← optional? ({} : Limits).depth natural? depth
  some ⟨bytes, depth⟩

def policy? (n : Option Node) : Option Policy := do
  let [policy] ← sectionValues? ["mixed_connectives"] n | none
  optional? .warn (fun n ↦ (word? n).bind Policy.ofWord?) policy

def audit? (n : Option Node) : Option (String × Option String) := do
  let [sink, path] ← sectionValues? ["sink", "path"] n | none
  let sink ← optional? "none" (fun n ↦ (word? n).filter ["none", "stderr", "file"].contains) sink
  let path ← optional? none (fun n ↦ (string? n).map some) path
  some (sink, path)

def Limits.check (l : Limits) : Except Refusal Unit :=
  if l.bytes = 0 ∨ ceiling.bytes < l.bytes then .error .ruleBytes
  else if l.depth = 0 ∨ ceiling.depth < l.depth then .error .nestingDepth
  else .ok ()

/-- A log needs a path, and nothing else may have one. -/
def Sink.ofWord (word : String) : Option String → Except Refusal Sink
  | some path =>
    if word ≠ "file" then .error .needlessLogPath
    else if (Text.trim path.toList).isEmpty then .error .blankLogPath
    else if Path.isLong path then .error .longLogPath
    else if Path.hasLongComponent path then .error .longLogComponent
    else .ok (.file path)
  | none =>
    if word = "file" then .error .noLogPath
    else .ok (if word = "stderr" then .stderr else .off)

namespace Settings

def sections : List String := ["limits", "compiler", "audit"]

def declared? (entries : Entries) : Option (Limits × Policy × String × Option String) :=
  let get (key : String) := entries.lookup key
  let isKnown := entries.all fun e ↦ sections.contains e.1
  match isKnown, limits? (get "limits"), policy? (get "compiler"), audit? (get "audit") with
  | true, some limits, some policy, some (sink, path) => some (limits, policy, sink, path)
  | _, _, _, _ => none

def read [Wording] (text : String) : Except ConfigFault Settings :=
  match (Toml.read? text.toList).bind declared? with
  | some (limits, policy, sink, path) =>
    Except.mapError .refused do
      limits.check
      return ⟨limits, policy, ← Sink.ofWord sink path⟩
  | none => .error (@ConfigFault.malformed (Wording.settings text))

def defaultPath : String := "argrule.toml"

/-- The path of the settings, and whether the file has to be there. A path that is asked for comes
before the one in the environment. -/
def locate (environment : Variable) (path : Option Path) : Except ConfigFault (Path × Bool) :=
  match path, environment.text? with
  | some p, _ => .ok (p, true)
  | none, some p => if Path.isLong p then .error (.refused .longPath) else .ok (p, true)
  | none, none => .ok (defaultPath, false)

def ofEntry [Wording] (path : Path) (isRequired : Bool) (e : Entry) :
    Except ConfigFault Settings := do
  if !isRequired && !e.exists then return {}
  read (← e.read path)

/-- Loads settings from a file system, given as what stands at each path. -/
def load [Wording] (look : Path → Entry) (environment : Variable) (path : Option Path) :
    Except ConfigFault Settings := do
  let (path, isRequired) ← locate environment path
  ofEntry path isRequired (look path)

def engine [PatternLibrary] (s : Settings) : Engine := ⟨Catalog.builtin, s.limits, s.policy⟩

end Settings

end Rulebook
