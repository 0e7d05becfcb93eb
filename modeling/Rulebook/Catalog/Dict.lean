import Rulebook.Catalog.Types

namespace Rulebook.Dict

open Rulebook

def cutSeparator : List Char → Option (List Char × List Char)
  | [] => none
  | [_] => none
  | a :: b :: r =>
    if a = '=' ∧ b = '=' then some ([], r)
    else (cutSeparator (b :: r)).map fun (before, after) ↦ (a :: before, after)

theorem length_of_cutSeparator {cs before after : List Char}
    (h : cutSeparator cs = some (before, after)) : after.length < cs.length := by
  fun_induction cutSeparator cs generalizing before with
  | case1 => cases h
  | case2 => cases h
  | case3 a b r hab => cases h; simp only [List.length_cons]; omega
  | case4 a b r hab ih =>
    obtain ⟨⟨before', after'⟩, hcut, heq⟩ := Option.map_eq_some_iff.1 h
    cases heq
    exact Nat.lt_succ_of_lt (ih hcut)

/-- Takes the key off the end of a stretch of text: what follows the last space, the final
character always included. What stands before that space belongs to the previous key. -/
def splitKey (head : List Char) : Option (List Char) × List Char :=
  match head.reverse with
  | [] => (none, [])
  | last :: r =>
    match r.span (· ≠ ' ') with
    | (_, []) => (none, head)
    | (front, _ :: value) => (some value.reverse, (last :: front).reverse)

def insertText (key value : List Char) (entries : Fields) : Fields :=
  entries.insert (String.ofList key) (.string (String.ofList value))

def entriesFrom (entries : Fields) (key : Option (List Char)) (cs : List Char) :
    Except Reason Fields :=
  match _h : cutSeparator cs with
  | none => (key.elim (.error .noSeparator) fun k ↦ .ok (insertText k cs entries))
  | some (head, after) =>
    match splitKey head, key with
    | (some _, _), none => .error .unkeyedText
    | (none, next), none => entriesFrom entries (some next) after
    | (value, next), some k => entriesFrom (insertText k (value.getD []) entries) (some next) after
termination_by cs.length
decreasing_by all_goals exact length_of_cutSeparator _h

def read (text : String) : Except Reason Fields := entriesFrom [] none text.toList

def write (entries : Fields) : String :=
  " ".intercalate (entries.map fun (k, v) ↦ k ++ "==" ++ v.display)

def format : Value → String
  | .object entries => write entries
  | v => v.display

def convert (_ : Scope) (text : String) : Run Value :=
  match read text with
  | .ok entries => .pure (.object entries)
  | .error r => .reject r

def entriesOf : Value → Run Fields
  | .object entries => .pure entries
  | _ => .reject .notDict

def ruleOf (arguments : List Value) : String := ",".intercalate (arguments.filterMap Value.string?)

/-- Strings are checked as text, other values as they are. -/
def applyTo (scope : Scope) (rule : String) : Value → Run Outcome
  | .string s => scope.apply (.text rule) (.raw s)
  | v => scope.apply (.text rule) (.typed v)

def replaceKeys (scope : Scope) (rule : String) (done : Fields) : Fields → Run Fields
  | [] => .pure done
  | (k, v) :: rest => do
    match ← applyTo scope rule (.string k) with
    | .valid result => replaceKeys scope rule (done.insert result.display v) rest
    | .invalid reasons => .reject (.badKey k reasons)

def replaceValues (scope : Scope) (rule : String) (done : Fields) : Fields → Run Fields
  | [] => .pure done
  | (k, v) :: rest => do
    match ← applyTo scope rule v with
    | .valid result => replaceValues scope rule (done.insert k result) rest
    | .invalid reasons => .reject (.badEntry k reasons)

def key (scope : Scope) (v : Value) (arguments : List Value) : Run (Option Value) := do
  let entries ← entriesOf v
  return some (.object (← replaceKeys scope (ruleOf arguments) [] entries))

def value (scope : Scope) (v : Value) (arguments : List Value) : Run (Option Value) := do
  let entries ← entriesOf v
  return some (.object (← replaceValues scope (ruleOf arguments) [] entries))

def type : RuleType :=
  RuleType.make "dict" "a dict" [.map] convert
    |>.formattedBy format
    |>.withFunction "key" "with keys matching rule %all" (.variadic .string) key
    |>.withFunction "value" "with values matching rule %all" (.variadic .string) value

end Rulebook.Dict
