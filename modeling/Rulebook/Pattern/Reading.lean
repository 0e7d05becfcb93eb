import Rulebook.Decimal.Reading
import Rulebook.Pattern.Class

namespace Rulebook.Pattern

open Text

structure Read (α : Type) where
  value : α
  names : List String
  rest : List Char

def oneOf? (f : Flags) (c : CharClass) : Option Pattern :=
  let beyond := (List.range 128).any fun i ↦ c.has .exact (Char.ofNat (128 + i))
  if !f.unicode && beyond then none else some (.one f.caseRule c)

def literal (f : Flags) (c : Char) : Pattern := .one f.caseRule (.bracket false (.range c c))

def anyChar? (f : Flags) : Option Pattern :=
  let ends := if f.returns then [.range '\n' '\n', .range '\r' '\r'] else [.range '\n' '\n']
  if !f.unicode then none
  else some (.one .exact (if f.dotAll then .bracket true .none else .bracket true (.union ends)))

def caret (f : Flags) : Pattern := .look (if f.lines then .lineStart f.returns else .textStart)

def dollar (f : Flags) : Pattern := .look (if f.lines then .lineEnd f.returns else .textEnd)

def escaped? (f : Flags) (r : List Char) : Option (Pattern × List Char) := do
  let (e, rest) ← escape? f r
  match e with
  | .literal c => some (literal f c, rest)
  | .property holds => (oneOf? f (.property holds)).map ((·, rest))
  | .look l => some (.look l, rest)

def isRepeatable : Pattern → Bool
  | .empty | .flags => false
  | _ => true

def maxCount : Nat := 4294967295

def count? (f : Flags) (r : List Char) : Option (Nat × List Char) :=
  let r := r.dropWhile isBlank
  let digits := if f.verbose then r.takeWhile fun c ↦ Decimal.isDigit c || isBlank c
    else r.takeWhile Decimal.isDigit
  let ds := digits.filter Decimal.isDigit
  let rest := (r.drop digits.length).dropWhile isBlank
  if ds.isEmpty || maxCount < Decimal.natOf ds then none
  else some (Decimal.natOf ds, if f.verbose then f.skip rest else rest)

/-- A question mark makes a repetition prefer fewer rounds, which does not change what matches. -/
def dropLazy : List Char → List Char
  | '?' :: r => r
  | r => r

def counts? (f : Flags) (r : List Char) : Option ((Nat × Option Nat) × List Char) := do
  let (least, r) ← count? f (f.skip r)
  match r with
  | '\x7d' :: s => some ((least, some least), dropLazy (f.skip s))
  | ',' :: s =>
    match f.skip s with
    | '\x7d' :: t => some ((least, none), dropLazy (f.skip t))
    | t => do
      let (most, t) ← count? f t
      match t with
      | '\x7d' :: u => if least ≤ most then some ((least, some most), dropLazy (f.skip u)) else none
      | _ => none
  | _ => none

def flagsFrom? (f : Flags) (on : Bool) (seen : List Char) : List Char →
    Option (Flags × Bool × Char × List Char)
  | [] => none
  | c :: r =>
    if c = ':' ∨ c = ')' then
      if seen.head? = some '-' then none else some (f, !seen.isEmpty, c, r)
    else if seen.contains c then none
    else match c with
      | '-' => flagsFrom? f false (c :: seen) r
      | 'i' => flagsFrom? { f with ignoreCase := on } on (c :: seen) r
      | 'm' => flagsFrom? { f with lines := on } on (c :: seen) r
      | 's' => flagsFrom? { f with dotAll := on } on (c :: seen) r
      | 'u' => flagsFrom? { f with unicode := on } on (c :: seen) r
      | 'x' => flagsFrom? { f with verbose := on } on (c :: seen) r
      | 'R' => flagsFrom? { f with returns := on } on (c :: seen) r
      | 'U' => flagsFrom? f on (c :: seen) r
      | _ => none

def isNameStart (c : Char) : Bool := c == '_' || alphabeticRanges.contains c

def isNameChar (c : Char) : Bool :=
  c == '_' || c == '.' || c == '[' || c == ']' || alphabeticRanges.contains c ||
    isCategory 8 c || isCategory 9 c || isCategory 10 c

def groupName? (names : List String) (r : List Char) : Option (List String × List Char) :=
  match r.span (· ≠ '>') with
  | (c :: cs, _ :: rest) =>
    let name := String.ofList (c :: cs)
    if isNameStart c && cs.all isNameChar && !names.contains name then some (name :: names, rest)
    else none
  | _ => none

inductive Opening
  | setFlags (f : Flags)
  | group (f : Flags) (captures : Bool)

def flagOpening? (f : Flags) (names : List String) (r : List Char) : Option (Read Opening) := do
  let (g, some?, last, rest) ← flagsFrom? f true [] r
  if last = ':' then some ⟨.group g false, names, rest⟩
  else if some? then some ⟨.setFlags g, names, rest⟩
  else none

def opening? (f : Flags) (names : List String) (r : List Char) : Option (Read Opening) :=
  let named := fun (s : List Char) ↦
    (groupName? names s).map fun (names, rest) ↦ ⟨.group f true, names, rest⟩
  match f.skip r with
  | '?' :: '=' :: _ | '?' :: '!' :: _ | '?' :: '<' :: '=' :: _ | '?' :: '<' :: '!' :: _ => none
  | '?' :: 'P' :: '<' :: s => named s
  | '?' :: '<' :: s => named s
  | '?' :: s => flagOpening? f names s
  | s => some ⟨.group f true, names, s⟩

def closeLevel (items branches : List Pattern) : Pattern :=
  ofChoice (ofSequence items.reverse :: branches).reverse

def repeatLast? (items : List Pattern) (least : Nat) (most : Option Nat) : Option (List Pattern) :=
  match items with
  | p :: ps => if isRepeatable p then some (.repeated p least most :: ps) else none
  | [] => none

def level? : (fuel : Nat) → Flags → List String → (items branches : List Pattern) → List Char →
    Option (Read Pattern)
  | 0, _, _, _, _, _ => none
  | fuel + 1, f, names, items, branches, r =>
    let push := fun (p : Pattern) (rest : List Char) ↦
      level? fuel f names (p :: items) branches rest
    let repeated := fun (least : Nat) (most : Option Nat) (rest : List Char) ↦ do
      level? fuel f names (← repeatLast? items least most) branches rest
    match f.skip r with
    | [] => some ⟨closeLevel items branches, names, []⟩
    | ')' :: s => some ⟨closeLevel items branches, names, ')' :: s⟩
    | '|' :: s => level? fuel f names [] (ofSequence items.reverse :: branches) s
    | '(' :: s => do
      let o ← opening? f names s
      match o.value with
      | .setFlags g => level? fuel g o.names (.flags :: items) branches o.rest
      | .group g captures => do
        let inner ← level? fuel g o.names [] [] o.rest
        match inner.rest with
        | ')' :: t => level? fuel f inner.names (.group captures inner.value :: items) branches t
        | _ => none
    | '[' :: s => do
      let (c, rest) ← class? f s
      push (← oneOf? f c) rest
    | '?' :: s => repeated 0 (some 1) (dropLazy s)
    | '*' :: s => repeated 0 none (dropLazy s)
    | '+' :: s => repeated 1 none (dropLazy s)
    | '\x7b' :: s => do
      let ((least, most), rest) ← counts? f s
      repeated least most rest
    | '\\' :: s => do
      let (p, rest) ← escaped? f s
      push p rest
    | '.' :: s => do push (← anyChar? f) s
    | '^' :: s => push (caret f) s
    | '$' :: s => push (dollar f) s
    | c :: s => push (literal f c) s

def maxNesting : Nat := 250

def read? (text : List Char) : Option Pattern := do
  let r ← level? (text.length + 1) {} [] [] [] text
  if r.rest.isEmpty && r.value.nesting ≤ maxNesting then some r.value else none

end Rulebook.Pattern
