import Rulebook.Catalog.Types

namespace Rulebook

/-- How far a walk over the groups of a rule has come. -/
structure Walk where
  visited : List Nat
  captured : Option Value
  reasons : List Reason
  satisfied : Bool

namespace Walk

def start : Walk := ⟨[], none, [], true⟩

/-- A value is kept if its leaf is the captured one or if there is no value yet. -/
def record (w : Walk) (capture : Option Nat) (i : Nat) : Outcome → Walk
  | .valid v =>
    let captured := if capture = some i || w.captured.isNone then some v else w.captured
    { w with visited := i :: w.visited, captured }
  | .invalid rs => { w with visited := i :: w.visited, reasons := w.reasons ++ rs }

def outcome (w : Walk) : Outcome :=
  if w.satisfied then .valid (w.captured.getD .null) else .invalid w.reasons

end Walk

def Connective.holds : Connective → List Bool → Bool
  | .and, bs => bs.all id
  | .or, bs => bs.any id

def visitLeaves (leaves : List (Unit → Run Outcome)) (capture : Option Nat) (w : Walk) :
    List Nat → Run (Walk × List Bool)
  | [] => .pure (w, [])
  | i :: is =>
    if w.visited.contains i then visitLeaves leaves capture w is
    else
      match leaves[i]? with
      | none => .fail (.mistake (.defect (.groupLeaf i)))
      | some leaf => do
        let o ← leaf ()
        let (w, passed) ← visitLeaves leaves capture (w.record capture i o) is
        return (w, o.isValid :: passed)

/-- A group with no new leaf decides nothing. -/
def visitGroup (leaves : List (Unit → Run Outcome)) (capture : Option Nat) (w : Walk) (g : Group) :
    Run Walk := do
  let (w, passed) ← visitLeaves leaves capture w g.leaves
  let holds := passed.isEmpty || (g.connective?.getD .and).holds passed
  return { w with satisfied := w.satisfied && holds }

def visitGroups (leaves : List (Unit → Run Outcome)) (capture : Option Nat) (w : Walk) :
    List Group → Run Walk
  | [] => .pure w
  | g :: gs => do visitGroups leaves capture (← visitGroup leaves capture w g) gs

/-- An invalid input becomes an outcome; any other fault remains one. -/
def Run.settle (r : Run Value) : Run Outcome :=
  match r.result with
  | .ok v => ⟨r.trail, .ok (.valid v)⟩
  | .error (.invalid reason) => ⟨r.trail, .ok (.invalid [reason])⟩
  | .error f => ⟨r.trail, .error f⟩

mutual

/-- Applies a rule, given how a single check is evaluated. -/
def Rule.apply (check : String → Run Value) : Rule → Run Outcome
  | ⟨leaves, groups, capture⟩ => do
    return (← visitGroups (leafRuns check leaves) capture .start groups).outcome

def Leaf.apply (check : String → Run Value) : Leaf → Run Outcome
  | .check text => (check text).settle
  | .nested r => r.apply check

def leafRuns (check : String → Run Value) : List Leaf → List (Unit → Run Outcome)
  | [] => []
  | l :: ls => (fun _ ↦ l.apply check) :: leafRuns check ls

end

end Rulebook
