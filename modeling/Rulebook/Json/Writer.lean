import Rulebook.Decimal.Layout
import Rulebook.Value

namespace Rulebook.Json

def hexDigit (n : Nat) : Char := (Nat.digitChar n)

/-- What stands for a character inside quotes. Only quotes, backslashes and control characters are
escaped. -/
def escape (c : Char) : String :=
  if c = '"' then "\\\""
  else if c = '\\' then "\\\\"
  else if c = '\x08' then "\\b"
  else if c = '\x0c' then "\\f"
  else if c = '\n' then "\\n"
  else if c = '\r' then "\\r"
  else if c = '\t' then "\\t"
  else if c < ' ' then
    "\\u00" ++ String.ofList [hexDigit (c.toNat / 16), hexDigit (c.toNat % 16)]
  else String.singleton c

def quote (s : String) : String := s.foldl (fun acc c ↦ acc ++ escape c) "\"" ++ "\""

mutual

def compact : Value → String
  | .null => "null"
  | .bool b => if b then "true" else "false"
  | .integer n => toString n
  | .float x => Decimal.floatText x
  | .string s => quote s
  | .array items => "[" ++ ",".intercalate (compactItems items) ++ "]"
  | .object fields => "\x7b" ++ ",".intercalate (compactFields fields) ++ "\x7d"

def compactItems : List Value → List String
  | [] => []
  | v :: vs => compact v :: compactItems vs

def compactFields : List (String × Value) → List String
  | [] => []
  | (k, v) :: fs => (quote k ++ ":" ++ compact v) :: compactFields fs

end

def indent (depth : Nat) : String := String.ofList (List.replicate (2 * depth) ' ')

def block (opening closing : String) (depth : Nat) (lines : List String) : String :=
  if lines.isEmpty then opening ++ closing
  else
    let inner := lines.map (indent (depth + 1) ++ ·)
    opening ++ "\n" ++ ",\n".intercalate inner ++ "\n" ++ indent depth ++ closing

mutual

def prettyAt (depth : Nat) : Value → String
  | .array items => block "[" "]" depth (prettyItems (depth + 1) items)
  | .object fields => block "\x7b" "\x7d" depth (prettyFields (depth + 1) fields)
  | .null => "null"
  | .bool b => if b then "true" else "false"
  | .integer n => toString n
  | .float x => Decimal.floatText x
  | .string s => quote s

def prettyItems (depth : Nat) : List Value → List String
  | [] => []
  | v :: vs => prettyAt depth v :: prettyItems depth vs

def prettyFields (depth : Nat) : List (String × Value) → List String
  | [] => []
  | (k, v) :: fs => (quote k ++ ": " ++ prettyAt depth v) :: prettyFields depth fs

end

def pretty (v : Value) : String := prettyAt 0 v

end Rulebook.Json

namespace Rulebook

/-- A value as messages and formatters show it: a string as it is, anything else as JSON. -/
def Value.display : Value → String
  | .string s => s
  | v => Json.compact v

end Rulebook
