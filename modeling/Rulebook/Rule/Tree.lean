namespace Rulebook

inductive Connective
  | and
  | or
deriving DecidableEq, Repr

namespace Connective

def token : Connective → String
  | .and => "&&"
  | .or => "||"

def word : Connective → String
  | .and => "and"
  | .or => "or"

end Connective

inductive Group
  | solo (leaf : Nat)
  | combine (connective : Connective) (first second : Nat)
deriving DecidableEq, Repr

namespace Group

def leaves : Group → List Nat
  | .solo i => [i]
  | .combine _ i j => [i, j]

def connective? : Group → Option Connective
  | .solo _ => none
  | .combine c _ _ => some c

end Group

mutual

inductive Leaf
  | check (text : String)
  | nested (rule : Rule)

inductive Rule
  | mk (leaves : List Leaf) (groups : List Group) (capture : Option Nat)

end

namespace Rule

def leaves : Rule → List Leaf
  | ⟨leaves, _, _⟩ => leaves

def groups : Rule → List Group
  | ⟨_, groups, _⟩ => groups

def capture : Rule → Option Nat
  | ⟨_, _, capture⟩ => capture

def connectives (r : Rule) : List Connective := r.groups.filterMap Group.connective?

/-- Both connectives stand at this level, where they group strictly from left to right. -/
def mixes (r : Rule) : Bool := r.connectives.contains .and && r.connectives.contains .or

end Rule

mutual

def Leaf.anyMixed : Leaf → Bool
  | .check _ => false
  | .nested r => r.anyMixed

def Rule.anyMixed : Rule → Bool
  | ⟨leaves, groups, capture⟩ => Rule.mixes ⟨leaves, groups, capture⟩ || anyMixedIn leaves

def anyMixedIn : List Leaf → Bool
  | [] => false
  | l :: ls => l.anyMixed || anyMixedIn ls

end

mutual

def Leaf.checkCount : Leaf → Nat
  | .check _ => 1
  | .nested r => r.checkCount

def Rule.checkCount : Rule → Nat
  | ⟨leaves, _, _⟩ => checkCountIn leaves

def checkCountIn : List Leaf → Nat
  | [] => 0
  | l :: ls => l.checkCount + checkCountIn ls

end

mutual

def Leaf.checks : Leaf → List String
  | .check t => [t]
  | .nested r => r.checks

def Rule.checks : Rule → List String
  | ⟨leaves, _, _⟩ => checksIn leaves

def checksIn : List Leaf → List String
  | [] => []
  | l :: ls => l.checks ++ checksIn ls

end

mutual

/-- Nesting depth: one for a rule without nested rules. -/
def Rule.depth : Rule → Nat
  | ⟨leaves, _, _⟩ => 1 + depthIn leaves

def Leaf.depth : Leaf → Nat
  | .check _ => 0
  | .nested r => r.depth

def depthIn : List Leaf → Nat
  | [] => 0
  | l :: ls => max l.depth (depthIn ls)

end

mutual

protected def Leaf.beq : Leaf → Leaf → Bool
  | .check s, .check t => s == t
  | .nested r, .nested s => r.beq s
  | _, _ => false

protected def Rule.beq : Rule → Rule → Bool
  | ⟨ls, gs, c⟩, ⟨ls', gs', c'⟩ => beqLeaves ls ls' && gs == gs' && c == c'

def beqLeaves : List Leaf → List Leaf → Bool
  | [], [] => true
  | l :: ls, m :: ms => l.beq m && beqLeaves ls ms
  | _, _ => false

end

instance : BEq Leaf := ⟨Leaf.beq⟩

instance : BEq Rule := ⟨Rule.beq⟩

end Rulebook
