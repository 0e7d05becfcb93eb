import Rulebook.Evaluation.Run
import Rulebook.Json.Writer

namespace Rulebook.Event

def name : Event → String
  | .warned _ => "rule_warning"
  | .compiled _ => "rule_compiled"
  | .validated .. => "rule_validated"

def checks : Event → Nat
  | .warned n => n
  | .compiled n => n
  | .validated _ n _ _ => n

def mode? : Event → Option Mode
  | .validated m _ _ _ => some m
  | _ => none

def valid? : Event → Option Bool
  | .validated _ _ b _ => some b
  | _ => none

def reasonCount : Event → Nat
  | .validated _ _ _ n => n
  | _ => 0

def message? : Event → Option String
  | .warned _ => some "rule mixes `&&` and `||` without parentheses; checks group left to right"
  | _ => none

def toFields (e : Event) (time : Nat) : Fields :=
  [("event", .string e.name),
    ("timestamp_ms", .integer time),
    ("mode", e.mode?.elim .null fun m ↦ .string m.word),
    ("leaf_count", .integer e.checks),
    ("valid", e.valid?.elim .null .bool),
    ("error_count", .integer e.reasonCount),
    ("message", e.message?.elim .null .string)]

def line (e : Event) (time : Nat) : String := Json.compact (.object (e.toFields time)) ++ "\n"

end Rulebook.Event
