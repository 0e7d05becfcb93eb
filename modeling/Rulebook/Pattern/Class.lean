import Rulebook.Pattern.Escape

namespace Rulebook.Pattern

open Text

def classOfItems : List CharClass → CharClass
  | [] => .none
  | [c] => c
  | cs => .union cs.reverse

def combinePending (pending : Option (ClassOp × CharClass)) (right : CharClass) : CharClass :=
  match pending with
  | some (op, left) => .combine op left right
  | none => right

def Flags.widenIn (f : Flags) (holds : Char → Bool) : Char → Bool :=
  fun c ↦ (f.caseRule.variants c).any holds

def asciiItem? (f : Flags) : List Char → Option (CharClass × List Char)
  | ':' :: r =>
    let (negated, r) := match r with
      | '^' :: s => (true, s)
      | s => (false, s)
    match r.span (· ≠ ':') with
    | (name, ':' :: ']' :: rest) =>
      (asciiClass? (String.ofList name)).map fun holds ↦
        (.property (negateIf negated (f.widenIn holds)), rest)
    | _ => none
  | _ => none

def classEscape? (f : Flags) : List Char → Option (Escape × List Char)
  | [] => none
  | '\\' :: r => escape? f r
  | c :: r => some (.literal c, r)

def classLiteral? (f : Flags) : Escape → Option Char
  | .literal c => if !f.unicode && 0x80 ≤ c.toNat then none else some c
  | _ => none

def classItem? (f : Flags) : Escape → Option CharClass
  | .property holds => some (.property holds)
  | .look _ => none
  | .literal c => (classLiteral? f (.literal c)).map fun c ↦ .range c c

def classRange? (f : Flags) (r : List Char) : Option (CharClass × List Char) := do
  let (first, r) ← classEscape? f r
  let alone := fun (rest : List Char) ↦ (classItem? f first).map ((·, rest))
  match f.skip r with
  | [] => none
  | '-' :: s =>
    match f.skip s with
    | [] => none
    | ']' :: _ => alone ('-' :: s)
    | '-' :: _ => alone ('-' :: s)
    | t => do
      let (last, rest) ← classEscape? f t
      let lo ← classLiteral? f first
      let hi ← classLiteral? f last
      if lo ≤ hi then some (.range lo hi, rest) else none
  | rest => alone rest

def leadingHyphens (f : Flags) (items : List CharClass) : (fuel : Nat) → List Char →
    List CharClass × List Char
  | fuel + 1, '-' :: r => leadingHyphens f (.range '-' '-' :: items) fuel (f.skip r)
  | _, r => (items, r)

def classStart (f : Flags) (r : List Char) : Bool × List CharClass × List Char :=
  let r := f.skip r
  let (negated, r) := match r with
    | '^' :: s => (true, f.skip s)
    | s => (false, s)
  match leadingHyphens f [] (r.length + 1) r with
  | ([], ']' :: s) => (negated, [.range ']' ']'], f.skip s)
  | (items, s) => (negated, items, s)

def classRest? (f : Flags) : (fuel : Nat) → Option (ClassOp × CharClass) → List CharClass →
    List Char → Option (CharClass × List Char)
  | 0, _, _, _ => none
  | fuel + 1, pending, items, r =>
    let operate := fun (op : ClassOp) (rest : List Char) ↦
      classRest? f fuel (some (op, combinePending pending (classOfItems items))) [] rest
    match f.skip r with
    | [] => none
    | ']' :: s => some (combinePending pending (classOfItems items), s)
    | '[' :: s =>
      match asciiItem? f s with
      | some (c, rest) => classRest? f fuel pending (c :: items) rest
      | none => do
        let (negated, first, t) := classStart f s
        let (inner, rest) ← classRest? f fuel none first t
        classRest? f fuel pending (.bracket negated inner :: items) rest
    | '&' :: '&' :: s => operate .intersection s
    | '-' :: '-' :: s => operate .difference s
    | '~' :: '~' :: s => operate .symmetricDifference s
    | s => do
      let (c, rest) ← classRange? f s
      classRest? f fuel pending (c :: items) rest

def class? (f : Flags) (r : List Char) : Option (CharClass × List Char) := do
  let (negated, first, s) := classStart f r
  let (inner, rest) ← classRest? f (s.length + 1) none first s
  some (.bracket negated inner, rest)

end Rulebook.Pattern
