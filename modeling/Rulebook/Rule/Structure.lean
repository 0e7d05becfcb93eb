import Rulebook.Rule.Tree

namespace Rulebook

inductive Defect
  | noGroups
  | groupLeaf (index : Nat)
  | captureLeaf (index : Nat)
deriving DecidableEq, Repr

def Defect.message : Defect → String
  | .noGroups => "compiled rule has no groups"
  | .groupLeaf i => "group references missing leaf " ++ toString i
  | .captureLeaf i => "capture references missing leaf " ++ toString i

def levelDefect? (leafCount : Nat) (groups : List Group) (capture : Option Nat) : Option Defect :=
  if groups.isEmpty then some .noGroups
  else match (groups.flatMap Group.leaves).find? (leafCount ≤ ·) with
    | some i => some (.groupLeaf i)
    | none =>
      match capture with
      | some i => if leafCount ≤ i then some (.captureLeaf i) else none
      | none => none

mutual

def Rule.defect? : Rule → Option Defect
  | ⟨leaves, groups, capture⟩ =>
    (levelDefect? leaves.length groups capture).or (defectIn? leaves)

def Leaf.defect? : Leaf → Option Defect
  | .check _ => none
  | .nested r => r.defect?

def defectIn? : List Leaf → Option Defect
  | [] => none
  | l :: ls => l.defect?.or (defectIn? ls)

end

end Rulebook
