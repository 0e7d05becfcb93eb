import Rulebook.Catalog.Signature
import Rulebook.Directory
import Rulebook.Evaluation.Run
import Rulebook.Json.Writer
import Rulebook.Rule.Tree

namespace Rulebook

open Text

inductive Input
  | raw (text : String)
  | typed (v : Value)

def Input.mode : Input → Mode
  | .raw _ => .raw
  | .typed _ => .typed

inductive Source
  | text (t : String)
  | tree (r : Rule)

inductive Outcome
  | valid (v : Value)
  | invalid (reasons : List Reason)

namespace Outcome

def isValid : Outcome → Bool
  | .valid _ => true
  | .invalid _ => false

def reasons : Outcome → List Reason
  | .valid _ => []
  | .invalid rs => rs

end Outcome

abbrev Context := Directory Value

structure Scope where
  context : Context
  apply : Source → Input → Run Outcome

/-- A function leaves the value as it is when it returns none. -/
structure Function where
  name : String
  describe : String
  signature : Signature
  apply : Scope → Value → List Value → Run (Option Value)

/-- A required key of the context may hold any of its kinds, or anything if it lists none. -/
structure RuleType where
  name : String
  describe : String
  accepts : List Kind
  requires : Directory (List Kind)
  convert : Scope → String → Run Value
  format? : Option (Value → String)
  functions : Directory Function

namespace RuleType

def make (name describe : String) (accepts : List Kind) (convert : Scope → String → Run Value) :
    RuleType :=
  ⟨lower name, describe, accepts, [], convert, none, []⟩

def requiring (t : RuleType) (key : String) (kinds : List Kind) : RuleType :=
  { t with requires := t.requires.insert key kinds }

def formattedBy (t : RuleType) (format : Value → String) : RuleType :=
  { t with format? := some format }

def withFunction (t : RuleType) (name describe : String) (signature : Signature)
    (apply : Scope → Value → List Value → Run (Option Value)) : RuleType :=
  { t with functions := t.functions.insert (lower name) ⟨lower name, describe, signature, apply⟩ }

def function? (t : RuleType) (name : String) : Option Function := t.functions.get? (lower name)

def resolve (t : RuleType) (name : String) : Except Mistake Function :=
  match t.function? name with
  | some f => .ok f
  | none => .error (.unknownFunction name t.name)

def format (t : RuleType) (v : Value) : String :=
  match t.format? with
  | some f => f v
  | none => v.display

end RuleType

abbrev Catalog := Directory RuleType

namespace Catalog

/-- A type of the same name is replaced. -/
def register (c : Catalog) (t : RuleType) : Catalog := c.insert t.name t

def find? (c : Catalog) (name : String) : Option RuleType := c.get? (lower name)

def resolve (c : Catalog) (name : String) : Except Mistake RuleType :=
  match c.find? name with
  | some t => .ok t
  | none => .error (.unknownType name)

end Catalog

end Rulebook
