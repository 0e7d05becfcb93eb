import Rulebook.Pattern.CaseFolding
import Rulebook.Pattern.Property

namespace Rulebook

namespace Pattern

inductive ClassOp
  | intersection
  | difference
  | symmetricDifference
deriving DecidableEq, Repr

/-- A class of characters. Brackets inside brackets stay visible. -/
inductive CharClass
  | none
  | range (lo hi : Char)
  | property (holds : Char → Bool)
  | union (items : List CharClass)
  | bracket (negated : Bool) (inner : CharClass)
  | combine (op : ClassOp) (left right : CharClass)

inductive CaseRule
  | exact
  | ascii
  | unicode
deriving DecidableEq, Repr

def CaseRule.variants : CaseRule → Char → List Char
  | .exact, c => [c]
  | .ascii, c => asciiVariants c
  | .unicode, c => caseVariants c

def ClassOp.apply : ClassOp → Bool → Bool → Bool
  | .intersection, a, b => a && b
  | .difference, a, b => a && !b
  | .symmetricDifference, a, b => a != b

mutual

/-- Whether a character is in a class. Case is dealt with before a class is negated or combined. -/
def CharClass.has (rule : CaseRule) : CharClass → Char → Bool
  | .none, _ => false
  | .range lo hi, c => lo ≤ c && c ≤ hi
  | .property holds, c => holds c
  | .union items, c => anyHas rule items c
  | .bracket negated inner, c => negated != (rule.variants c).any (inner.has rule)
  | .combine op left right, c =>
    op.apply ((rule.variants c).any (left.has rule)) ((rule.variants c).any (right.has rule))

def anyHas (rule : CaseRule) : List CharClass → Char → Bool
  | [], _ => false
  | s :: ss, c => s.has rule c || anyHas rule ss c

end

mutual

def CharClass.nesting : CharClass → Nat
  | .union items => 1 + nestingOf items
  | .bracket _ inner => 1 + inner.nesting
  | .combine _ left right => 1 + max left.nesting right.nesting
  | _ => 0

def nestingOf : List CharClass → Nat
  | [] => 0
  | s :: ss => max s.nesting (nestingOf ss)

end

inductive Look
  | textStart
  | textEnd
  | lineStart (returns : Bool)
  | lineEnd (returns : Bool)
  | boundary (isLetter : Char → Bool)
  | noBoundary (isLetter : Char → Bool)
  | wordStart (isLetter : Char → Bool)
  | wordEnd (isLetter : Char → Bool)
  | wordStartHalf (isLetter : Char → Bool)
  | wordEndHalf (isLetter : Char → Bool)

/-- Whether a condition holds between two characters, if there are any. With `returns`, a carriage
return ends a line too, but a position inside a pair of return and feed does not. -/
def Look.holds (before after : Option Char) : Look → Bool
  | .textStart => before.isNone
  | .textEnd => after.isNone
  | .lineStart returns =>
    before.isNone || before == some '\n' || (returns && before == some '\r' && after != some '\n')
  | .lineEnd returns =>
    after.isNone ||
      (if returns then after == some '\r' || (after == some '\n' && before != some '\r')
      else after == some '\n')
  | .boundary l => before.any l != after.any l
  | .noBoundary l => before.any l == after.any l
  | .wordStart l => !before.any l && after.any l
  | .wordEnd l => before.any l && !after.any l
  | .wordStartHalf l => !before.any l
  | .wordEndHalf l => !after.any l

end Pattern

open Pattern in
inductive Pattern
  | empty
  /-- Where flags are set, nothing is matched. -/
  | flags
  | one (rule : CaseRule) (c : CharClass)
  | look (l : Look)
  | group (captures : Bool) (p : Pattern)
  | repeated (p : Pattern) (least : Nat) (most : Option Nat)
  | sequence (ps : List Pattern)
  | choice (ps : List Pattern)

namespace Pattern

mutual

def nesting : Pattern → Nat
  | .one _ c => c.nesting
  | .group _ p => 1 + p.nesting
  | .repeated p _ _ => 1 + p.nesting
  | .sequence ps => 1 + nestingOfAll ps
  | .choice ps => 1 + nestingOfAll ps
  | _ => 0

def nestingOfAll : List Pattern → Nat
  | [] => 0
  | p :: ps => max p.nesting (nestingOfAll ps)

end

def ofSequence : List Pattern → Pattern
  | [] => .empty
  | [p] => p
  | ps => .sequence ps

def ofChoice : List Pattern → Pattern
  | [p] => p
  | ps => .choice ps

end Pattern

end Rulebook
