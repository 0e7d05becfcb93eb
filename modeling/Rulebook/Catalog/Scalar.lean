import Rulebook.Catalog.Types
import Rulebook.Pattern.Library
import Rulebook.Text.Alphanumeric
import Rulebook.Text.Search
import Rulebook.Url.Reading

namespace Rulebook

open Text

def integerArgument (arguments : List Value) (i : Nat) : Run Int :=
  match (arguments[i]?).bind Value.signed? with
  | some n => .pure n
  | none => .fail (.absence (.integerArgument i))

def textOf : Value → Run String
  | .string s => .pure s
  | _ => .reject .notString

def integerOf (v : Value) : Run Int :=
  match v.signed? with
  | some n => .pure n
  | none => .reject .notInteger

def keepIf (holds : Bool) (r : Reason) : Run (Option Value) :=
  if holds then .pure none else .reject r

namespace Str

def length (_ : Scope) (v : Value) (arguments : List Value) : Run (Option Value) := do
  let least ← integerArgument arguments 0
  let greatest ← integerArgument arguments 1
  let n := (← textOf v).length
  keepIf (least ≤ n ∧ n ≤ greatest) (.lengthOutside least greatest)

def includes (_ : Scope) (v : Value) (arguments : List Value) : Run (Option Value) := do
  let text := (lower (← textOf v)).toList
  let words := arguments.filterMap Value.string?
  keepIf (words.any fun w ↦ occurs (lower w).toList text) (.includesNone words)

/-- Hyphens and underscores may stand between letters and digits, but not alone. -/
def alphanumeric (_ : Scope) (v : Value) (_ : List Value) : Run (Option Value) := do
  let cs := (← textOf v).toList.filter fun c ↦ c ≠ '-' && c ≠ '_'
  keepIf (!cs.isEmpty && cs.all isAlphanumeric) .notAlphanumeric

def isOneOf (_ : Scope) (v : Value) (arguments : List Value) : Run (Option Value) := do
  let text := lower (← textOf v)
  let phrases := (arguments.filterMap Value.string?).map lower
  keepIf (phrases.contains text) (.notAmong phrases)

variable [PatternLibrary]

def matchAll (text : String) : List String → Run (Option Value)
  | [] => .pure none
  | p :: ps =>
    match PatternLibrary.anchored p with
    | .error why => .fail (.mistake (.pattern p why))
    | .ok finds => if finds text then matchAll text ps else .reject (.patternFailed p)

def pattern (_ : Scope) (v : Value) (arguments : List Value) : Run (Option Value) := do
  matchAll (← textOf v) (arguments.filterMap Value.string?)

def type : RuleType :=
  RuleType.make "str" "a string" [.string] (fun _ text ↦ .pure (.string text))
    |>.withFunction "len" "between %0 and %1 characters" (.fixed [[.integer], [.integer]]) length
    |>.withFunction "includes" "includes one of %all" (.variadic .string) includes
    |>.withFunction "alnum" "alphanumeric" .none alphanumeric
    |>.withFunction "in" "one of %all" (.variadic .string) isOneOf
    |>.withFunction "regex" "matches regex %all" (.variadic .string) pattern

end Str

namespace Integer

def convert (_ : Scope) (text : String) : Run Value :=
  match Decimal.signed? (trim text.toList) with
  | some n => .pure (.integer n)
  | none => .reject .unreadableInteger

def between (_ : Scope) (v : Value) (arguments : List Value) : Run (Option Value) := do
  let least ← integerArgument arguments 0
  let greatest ← integerArgument arguments 1
  let n ← integerOf v
  keepIf (least ≤ n ∧ n ≤ greatest) (.outside least greatest)

def less (_ : Scope) (v : Value) (arguments : List Value) : Run (Option Value) := do
  let bound ← integerArgument arguments 0
  let n ← integerOf v
  keepIf (n < bound) (.notLess bound)

def greater (_ : Scope) (v : Value) (arguments : List Value) : Run (Option Value) := do
  let bound ← integerArgument arguments 0
  let n ← integerOf v
  keepIf (bound < n) (.notGreater bound)

def type : RuleType :=
  RuleType.make "int" "an integer" [.integer] convert
    |>.withFunction "between" "between %0 and %1" (.fixed [[.integer], [.integer]]) between
    |>.withFunction "less" "below %0" (.fixed [[.integer]]) less
    |>.withFunction "greater" "above %0" (.fixed [[.integer]]) greater

end Integer

namespace Truth

def trueWords : List String := ["yes", "y", "true", "t", "enable", "on"]

def falseWords : List String := ["no", "n", "false", "f", "disable", "off"]

def read? (text : String) : Option Bool :=
  let word := lower (strip text)
  if trueWords.contains word then some true
  else if falseWords.contains word then some false
  else none

def convert (_ : Scope) (text : String) : Run Value :=
  match read? text with
  | some b => .pure (.bool b)
  | none => .reject .unreadableBool

def format : Value → String
  | .bool true => "Yes"
  | .bool false => "No"
  | v => v.display

def type : RuleType :=
  (RuleType.make "bool" "a boolean" [.bool] convert).formattedBy format

end Truth

namespace Url

/-- An address is kept as it is written, blanks around it aside. -/
def convert (_ : Scope) (text : String) : Run Value :=
  let text := strip text
  match check text with
  | .ok () => .pure (.string text)
  | .error f => .reject (.url f)

def type : RuleType := RuleType.make "url" "a url" [.string] convert

end Url

end Rulebook
