namespace Rulebook

/-- Integers are meant to fit 64 bits, signed or unsigned, and floats to be finite. -/
inductive Value
  | null
  | bool (b : Bool)
  | integer (n : Int)
  | float (x : Float)
  | string (s : String)
  | array (items : List Value)
  | object (fields : List (String × Value))

/-- An ordered map: at most one field for each key. -/
abbrev Fields := List (String × Value)

namespace Fields

def get? (fs : Fields) (key : String) : Option Value := fs.lookup key

/-- A key that is present keeps its place and takes the new value; any other goes to the end. -/
def insert (key : String) (v : Value) : Fields → Fields
  | [] => [(key, v)]
  | (k, w) :: fs => if k = key then (k, v) :: fs else (k, w) :: insert key v fs

def ofList (entries : List (String × Value)) : Fields :=
  entries.foldl (fun fs (k, v) ↦ insert k v fs) []

end Fields

inductive Kind
  | null
  | bool
  | integer
  | float
  | string
  | array
  | map
deriving DecidableEq, Repr

namespace Kind

def word : Kind → String
  | .null => "null"
  | .bool => "bool"
  | .integer => "integer"
  | .float => "float"
  | .string => "string"
  | .array => "array"
  | .map => "map"

def all : List Kind := [.null, .bool, .integer, .float, .string, .array, .map]

def ofWord? (w : String) : Option Kind := all.find? (·.word == w)

end Kind

namespace Value

def kind : Value → Kind
  | .null => .null
  | .bool _ => .bool
  | .integer _ => .integer
  | .float _ => .float
  | .string _ => .string
  | .array _ => .array
  | .object _ => .map

def string? : Value → Option String
  | .string s => some s
  | _ => none

def minSigned : Int := -9223372036854775808

def maxSigned : Int := 9223372036854775807

def maxUnsigned : Nat := 18446744073709551615

def signed? : Value → Option Int
  | .integer n => if minSigned ≤ n ∧ n ≤ maxSigned then some n else none
  | _ => none

end Value

end Rulebook
