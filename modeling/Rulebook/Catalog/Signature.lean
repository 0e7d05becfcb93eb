import Rulebook.Decimal.Reading
import Rulebook.Fault
import Rulebook.Text.Blank
import Rulebook.Text.Lowercase
import Rulebook.Value

namespace Rulebook

open Text

inductive ArgumentKind
  | integer
  | float
  | bool
  | string
deriving DecidableEq, Repr

/-- Fixed arguments each list the kinds that are tried in order. -/
inductive Signature
  | fixed (kinds : List (List ArgumentKind))
  | variadic (kind : ArgumentKind)
deriving DecidableEq, Repr

namespace ArgumentKind

def word : ArgumentKind → String
  | .integer => "integer"
  | .float => "float"
  | .bool => "bool"
  | .string => "string"

def ofWord? (w : String) : Option ArgumentKind :=
  [.integer, .float, .bool, .string].find? (·.word == w)

def boolOfWord? (w : String) : Option Bool :=
  if w = "true" then some true else if w = "false" then some false else none

/-- Blanks around numbers and truth values do not count; strings are kept as they are. -/
def read? (k : ArgumentKind) (text : String) : Option Value :=
  match k with
  | .integer => (Decimal.signed? (trim text.toList)).map .integer
  | .float => (Decimal.finite? (trim text.toList)).map .float
  | .bool => (boolOfWord? (lowerAscii (strip text))).map .bool
  | .string => some (.string text)

end ArgumentKind

namespace Signature

def none : Signature := .fixed []

def checkCount (s : Signature) (function : String) (count : Nat) : Except Mistake Unit :=
  match s with
  | .fixed kinds =>
    if kinds.length = count then .ok () else .error (.argumentCount function kinds.length)
  | .variadic _ => .ok ()

def kindsAt (s : Signature) (i : Nat) : List ArgumentKind :=
  match s with
  | .fixed kinds => (kinds[i]?).getD []
  | .variadic k => [k]

def readFrom (s : Signature) (function : String) (i : Nat) :
    List String → Except Fault (List Value)
  | [] => .ok []
  | a :: as =>
    match (s.kindsAt i).findSome? (·.read? a) with
    | some v => (v :: ·) <$> readFrom s function (i + 1) as
    | Option.none => .error (.absence (.argument function i))

/-- The number of arguments is a matter of the rule; an unreadable one counts as missing. -/
def readAll (s : Signature) (function : String) (arguments : List String) :
    Except Fault (List Value) :=
  match s.checkCount function arguments.length with
  | .error m => .error (.mistake m)
  | .ok () => s.readFrom function 0 arguments

end Signature

end Rulebook
