import Rulebook.Rule.Tree
import Rulebook.Value

namespace Rulebook

def Group.toValue : Group → Value
  | .solo i => .object [("type", .string "solo"), ("leaf", .integer i)]
  | .combine c i j =>
    .object [("type", .string "combine"), ("connective", .string c.word),
      ("leaves", .array [.integer i, .integer j])]

def captureValue (capture : Option Nat) : Value := capture.elim .null fun i ↦ .integer i

mutual

def Leaf.toValue : Leaf → Value
  | .check t => .object [("check", .string t)]
  | .nested r => .object [("nested", r.toValue)]

def Rule.toValue : Rule → Value
  | ⟨leaves, groups, capture⟩ =>
    .object [("leaves", .array (leafValues leaves)), ("groups", .array (groups.map Group.toValue)),
      ("capture", captureValue capture)]

def leafValues : List Leaf → List Value
  | [] => []
  | l :: ls => l.toValue :: leafValues ls

end

def index? : Value → Option Nat
  | .integer n => if 0 ≤ n then some n.toNat else none
  | _ => none

def Connective.ofWord? (w : String) : Option Connective :=
  if w = "and" then some .and else if w = "or" then some .or else none

/-- A connective is a word, or an object whose only key is that word with nothing under it. -/
def Connective.ofValue? : Value → Option Connective
  | .string w => ofWord? w
  | .object [(w, .null)] => ofWord? w
  | .object [(w, .object [])] => ofWord? w
  | _ => none

def leafPair? : Value → Option (Nat × Nat)
  | .array [i, j] => do
    let i ← index? i
    let j ← index? j
    some (i, j)
  | _ => none

def Group.combine? (connective leaves : Value) : Option Group := do
  let c ← Connective.ofValue? connective
  let (i, j) ← leafPair? leaves
  some (.combine c i j)

def Group.ofValue? : Value → Option Group
  | .object fs =>
    match Fields.get? fs "type" with
    | some (.string "solo") => (Fields.get? fs "leaf").bind index? |>.map .solo
    | some (.string "combine") => do
      let c ← Fields.get? fs "connective"
      let ls ← Fields.get? fs "leaves"
      Group.combine? c ls
    | _ => none
  | .array [.string "solo", i] => (index? i).map .solo
  | .array [.string "combine", c, ls] => Group.combine? c ls
  | _ => none

def groupsOfValue? : Value → Option (List Group)
  | .array vs => vs.mapM Group.ofValue?
  | _ => none

def captureOfValue? : Value → Option (Option Nat)
  | .null => some none
  | v => (index? v).map some

def captureField? (fs : Fields) : Option (Option Nat) :=
  (Fields.get? fs "capture").elim (some none) captureOfValue?

mutual

def Rule.ofValue? : Value → Option Rule
  | .object fs => do
    let leaves ← leavesField? fs
    let groups ← (Fields.get? fs "groups").bind groupsOfValue?
    let capture ← captureField? fs
    some ⟨leaves, groups, capture⟩
  | .array [ls, gs, c] => do
    let leaves ← leavesOfValue? ls
    let groups ← groupsOfValue? gs
    let capture ← captureOfValue? c
    some ⟨leaves, groups, capture⟩
  | _ => none

def leavesField? : List (String × Value) → Option (List Leaf)
  | [] => none
  | (k, v) :: fs => if k = "leaves" then leavesOfValue? v else leavesField? fs

def leavesOfValue? : Value → Option (List Leaf)
  | .array vs => leavesOf? vs
  | _ => none

def leavesOf? : List Value → Option (List Leaf)
  | [] => some []
  | v :: vs => do
    let l ← Leaf.ofValue? v
    let ls ← leavesOf? vs
    some (l :: ls)

def Leaf.ofValue? : Value → Option Leaf
  | .object [(k, v)] =>
    if k = "check" then v.string?.map .check
    else if k = "nested" then (Rule.ofValue? v).map .nested
    else none
  | _ => none

end

end Rulebook
