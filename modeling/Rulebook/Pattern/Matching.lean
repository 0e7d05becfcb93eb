import Rulebook.Pattern.Library
import Rulebook.Pattern.Size
import Rulebook.Pattern.Reading

namespace Rulebook.Pattern

def bitsWhere (p : Nat → Bool) : Nat → Nat
  | 0 => 0
  | n + 1 => (if p n then 1 <<< n else 0) ||| bitsWhere p n

/-- A pattern for one text: single characters and conditions are sets of positions. -/
inductive Steps
  /-- Keeps the positions in a set. -/
  | keep (at_ : Nat)
  /-- Moves one character on from the positions in a set. -/
  | advance (from_ : Nat)
  | repeated (s : Steps) (least : Nat) (most : Option Nat)
  | sequence (ss : List Steps)
  | choice (ss : List Steps)

/-- Unbounded repetitions of unbounded repetitions are a single one. -/
def Steps.repeat (s : Steps) (least : Nat) (most : Option Nat) : Steps :=
  match s, most with
  | .repeated t inner none, none =>
    if inner ≤ 1 ∧ least ≤ 1 then .repeated t (inner * least) none else .repeated s least most
  | _, _ => .repeated s least most

def charAt? (text : Array Char) (i : Nat) : Option Char := text[i]?

def charBefore? (text : Array Char) (i : Nat) : Option Char :=
  if i = 0 then none else text[i - 1]?

mutual

def steps (text : Array Char) : Pattern → Steps
  | .empty => .sequence []
  | .flags => .sequence []
  | .one rule c =>
    .advance (bitsWhere (fun i ↦ (charAt? text i).any (c.has rule)) text.size)
  | .look l =>
    .keep (bitsWhere (fun i ↦ l.holds (charBefore? text i) (charAt? text i)) (text.size + 1))
  | .group _ p => steps text p
  | .repeated p least most => (steps text p).repeat least most
  | .sequence ps => .sequence (stepsOfAll text ps)
  | .choice ps => .choice (stepsOfAll text ps)

def stepsOfAll (text : Array Char) : List Pattern → List Steps
  | [] => []
  | p :: ps => steps text p :: stepsOfAll text ps

end

def iterate (f : Nat → Nat) : (count : Nat) → Nat → Nat
  | 0, s => s
  | count + 1, s =>
    let t := f s
    if t = s then s else iterate f count t

def closure (f : Nat → Nat) : (rounds : Nat) → (reached new : Nat) → Nat
  | 0, reached, _ => reached
  | rounds + 1, reached, new =>
    let next := f new
    let fresh := next ^^^ (next &&& reached)
    if fresh = 0 then reached else closure f rounds (reached ||| fresh) fresh

mutual

/-- The positions reached from a set of positions. No repetition needs more rounds than `limit`,
which is more than there are positions. -/
def Steps.run (limit : Nat) : Steps → Nat → Nat
  | .keep at_, s => s &&& at_
  | .advance from_, s => (s &&& from_) <<< 1
  | .sequence ss, s => runAll limit ss s
  | .choice ss, s => runAny limit ss s
  | .repeated t least most, s =>
    let start := iterate (t.run limit) (min least limit) s
    match most with
    | none => closure (t.run limit) limit start start
    | some m => closure (t.run limit) (min (m - least) limit) start start

def runAll (limit : Nat) : List Steps → Nat → Nat
  | [], s => s
  | t :: ts, s => runAll limit ts (t.run limit s)

def runAny (limit : Nat) : List Steps → Nat → Nat
  | [], _ => 0
  | t :: ts, s => t.run limit s ||| runAny limit ts s

end

def isFoundIn (p : Pattern) (text : String) : Bool :=
  let cs := text.toList.toArray
  (steps cs p).run (cs.size + 2) (1 <<< (cs.size + 1) - 1) != 0

instance : PatternLibrary where
  compile pattern :=
    match read? pattern.toList with
    | none => .error "regex parse error:"
    | some p =>
      if p.isTooLarge then
        .error ("Compiled regex exceeds size limit of " ++ toString maxSize ++ " bytes.")
      else .ok p.isFoundIn

end Rulebook.Pattern
