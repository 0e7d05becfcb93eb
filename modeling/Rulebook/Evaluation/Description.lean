import Rulebook.Check.Template
import Rulebook.Evaluation.Engine

namespace Rulebook

def genericDescription (name : String) : String :=
  match name.toList with
  | c :: _ => if ['a', 'e', 'i', 'o', 'u'].contains c then "An " ++ name else "A " ++ name
  | [] => "A " ++ name

def genericCall (call : Call) : String :=
  if call.arguments.isEmpty then call.name
  else call.name ++ "(" ++ ", ".intercalate call.arguments ++ ")"

def describeCall (type? : Option RuleType) (call : Call) : String :=
  match type?.bind (·.function? call.name) with
  | some f => fillTemplate f.describe call.arguments
  | none => genericCall call

/-- A text that is no check describes itself. -/
def Catalog.describeCheck (catalog : Catalog) (text : String) : String :=
  match Check.read text with
  | .error _ => text
  | .ok check =>
    let type? := catalog.find? check.typeName
    let detail := type?.elim (genericDescription check.typeName) RuleType.describe
    if check.calls.isEmpty then detail
    else detail ++ " " ++ ", ".intercalate (check.calls.map (describeCall type?))

/-- The lines for the leaves of a combining group that have no line yet. -/
def joinedLines (parts : List String) (c : Connective) (added : List Nat) :
    List Nat → List String × List Nat
  | [] => ([], added)
  | i :: is =>
    match parts[i]?, added.contains i with
    | some part, false =>
      let line := if i = 0 then part else c.word ++ " " ++ part
      let (lines, added) := joinedLines parts c (i :: added) is
      (line :: lines, added)
    | _, _ => joinedLines parts c added is

def descriptionLines (parts : List String) (added : List Nat) : List Group → List String
  | [] => []
  | .solo i :: gs =>
    match parts[i]? with
    | some part => part :: descriptionLines parts (i :: added) gs
    | none => descriptionLines parts added gs
  | .combine c i j :: gs =>
    let (lines, added) := joinedLines parts c added [i, j]
    lines ++ descriptionLines parts added gs

def unbroken (s : String) : String := s.map fun c ↦ if c = '\n' then ' ' else c

mutual

def Catalog.describe (catalog : Catalog) : Rule → String
  | ⟨leaves, groups, _⟩ =>
    "\n".intercalate (descriptionLines (describeLeaves catalog leaves) [] groups)

def describeLeaf (catalog : Catalog) : Leaf → String
  | .check text => catalog.describeCheck text
  | .nested r => unbroken (catalog.describe r)

def describeLeaves (catalog : Catalog) : List Leaf → List String
  | [] => []
  | l :: ls => describeLeaf catalog l :: describeLeaves catalog ls

end

def Engine.describe (e : Engine) (source : Source) : Run String := do
  return e.catalog.describe (← e.obtain source)

end Rulebook
