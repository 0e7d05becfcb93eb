import Rulebook.Command.Run
import Std.Time.DateTime.Timestamp

namespace Rulebook

/-- A path can be looked at if it leads to something real. -/
def lookAt (path : Path) : IO Entry := do
  match ← (IO.FS.readBinFile path.shown).toBaseIO with
  | .ok content => return .file content
  | .error e =>
    match ← (IO.FS.realPath path.shown).toBaseIO with
    | .ok _ => return .closed (toString e)
    | .error _ => return .absent (toString e)

def result (action : IO Unit) : IO (Except String Unit) := do
  return (← action.toBaseIO).mapError toString

def appendTo (path text : String) : IO (Except String Unit) :=
  result (IO.FS.withFile path .append fun h ↦ h.putStr text)

def console : Host IO where
  look := lookAt
  append := appendTo
  print text := result (IO.print text)
  complain := IO.eprint
  now := do return (← Std.Time.Timestamp.now).toMillisecondsSinceUnixEpoch.toInt.toNat

/-- The value of a variable. Bytes that are no text are shown as U+FFFD. -/
def variableNamed (name : String) : IO Variable := do
  let shown ← IO.getEnv name
  return if shown.any (·.contains '\ufffd') then .set ⟨#[0xff]⟩ else shown

end Rulebook

open Rulebook in
def main (args : List String) : IO UInt32 := do
  match Line.read? args with
  | some line => return (← line.run console (← variableNamed "ARGRULE_CONFIG")).toUInt32
  | none =>
    IO.eprint Line.usage
    return exitError.toUInt32
