import Rulebook.Evaluation.Engine
import Rulebook.Proofs.Evaluation.Walk

namespace Rulebook

mutual

def Rule.uncaptured : Rule → Rule
  | ⟨leaves, groups, _⟩ => ⟨uncapturedIn leaves, groups, none⟩

def Leaf.uncaptured : Leaf → Leaf
  | .check t => .check t
  | .nested r => .nested r.uncaptured

def uncapturedIn : List Leaf → List Leaf
  | [] => []
  | l :: ls => l.uncaptured :: uncapturedIn ls

end

theorem uncapturedIn_eq_map (ls : List Leaf) : uncapturedIn ls = ls.map Leaf.uncaptured := by
  induction ls with
  | nil => rfl
  | cons l ls ih => rw [uncapturedIn, ih, List.map_cons]

inductive Outcome.SameVerdict : Outcome → Outcome → Prop
  | valid (v w : Value) : SameVerdict (.valid v) (.valid w)
  | invalid (reasons : List Reason) : SameVerdict (.invalid reasons) (.invalid reasons)

namespace Outcome.SameVerdict

theorem refl (o : Outcome) : SameVerdict o o := by
  cases o with
  | valid v => exact .valid v v
  | invalid reasons => exact .invalid reasons

theorem isValid_eq {o o' : Outcome} (h : SameVerdict o o') : o.isValid = o'.isValid := by
  cases h <;> rfl

theorem reasons_eq {o o' : Outcome} (h : SameVerdict o o') : o.reasons = o'.reasons := by
  cases h <;> rfl

end Outcome.SameVerdict

structure Walk.SameVerdict (w w' : Walk) : Prop where
  visited : w.visited = w'.visited
  reasons : w.reasons = w'.reasons
  satisfied : w.satisfied = w'.satisfied

namespace Walk.SameVerdict

variable {w w' : Walk}

theorem record (h : w.SameVerdict w') {o o' : Outcome} (ho : o.SameVerdict o')
    (capture capture' : Option Nat) (i : Nat) :
    (w.record capture i o).SameVerdict (w'.record capture' i o') where
  visited := by rw [record_visited, record_visited, h.visited]
  reasons := by rw [record_reasons, record_reasons, h.reasons, ho.reasons_eq]
  satisfied := by rw [record_satisfied, record_satisfied, h.satisfied]

theorem outcome (h : w.SameVerdict w') : w.outcome.SameVerdict w'.outcome := by
  rw [Walk.outcome, Walk.outcome, h.satisfied, h.reasons]
  cases w'.satisfied with
  | true => exact .valid _ _
  | false => exact .invalid _

end Walk.SameVerdict

section Groups

open Traced

variable {leaves leaves' : List (Unit → Run Outcome)}
  (h : ∀ i, Alike Outcome.SameVerdict (runLeaf leaves i) (runLeaf leaves' i))
  (capture capture' : Option Nat)

include h

theorem visitLeaves_sameVerdict {w w' : Walk} (hw : w.SameVerdict w') (is : List Nat) :
    Alike (fun p p' ↦ p.1.SameVerdict p'.1 ∧ p.2 = p'.2) (visitLeaves leaves capture w is)
      (visitLeaves leaves' capture' w' is) := by
  induction is generalizing w w' with
  | nil => exact .pure ⟨hw, rfl⟩
  | cons i is ih =>
    rw [visitLeaves_cons, visitLeaves_cons, hw.visited]
    split
    · exact ih hw
    · refine (h i).bind fun o o' ho ↦ ?_
      refine (ih (hw.record ho capture capture' i)).bind_pure fun p p' hp ↦ ⟨hp.1, ?_⟩
      rw [ho.isValid_eq, hp.2]

theorem visitGroup_sameVerdict {w w' : Walk} (hw : w.SameVerdict w') (g : Group) :
    Alike Walk.SameVerdict (visitGroup leaves capture w g) (visitGroup leaves' capture' w' g) := by
  refine (visitLeaves_sameVerdict h capture capture' hw g.leaves).bind_pure fun p p' hp ↦ ?_
  refine ⟨hp.1.visited, hp.1.reasons, ?_⟩
  rw [hp.1.satisfied, hp.2]

theorem visitGroups_sameVerdict {w w' : Walk} (hw : w.SameVerdict w') (gs : List Group) :
    Alike Walk.SameVerdict (visitGroups leaves capture w gs)
      (visitGroups leaves' capture' w' gs) := by
  induction gs generalizing w w' with
  | nil => exact .pure hw
  | cons g gs ih =>
    exact (visitGroup_sameVerdict h capture capture' hw g).bind fun v v' hv ↦ ih hv

end Groups

theorem Rule.apply_uncaptured (check : String → Run Value) (r : Rule) :
    Traced.Alike Outcome.SameVerdict (r.uncaptured.apply check) (r.apply check) := by
  induction r using rule_induction with
  | step r ih =>
    obtain ⟨leaves, groups, capture⟩ := r
    have hrun (i : Nat) : Traced.Alike Outcome.SameVerdict
        (runLeaf (leafRuns check (uncapturedIn leaves)) i) (runLeaf (leafRuns check leaves) i) := by
      rw [uncapturedIn_eq_map]
      cases hl : leaves[i]? with
      | none =>
        rw [runLeaf, runLeaf, leafRuns_eq_map, leafRuns_eq_map, List.getElem?_map,
          List.getElem?_map, List.getElem?_map, hl]
        exact .error _ _
      | some l =>
        have hl' : (leaves.map Leaf.uncaptured)[i]? = some l.uncaptured := by
          rw [List.getElem?_map, hl]
          rfl
        rw [runLeaf_leafRuns check hl', runLeaf_leafRuns check hl]
        cases l with
        | check t => exact .refl Outcome.SameVerdict.refl _
        | nested s => exact ih s (List.mem_of_getElem? hl)
    have hwalk := visitGroups_sameVerdict hrun none capture (w := .start) ⟨rfl, rfl, rfl⟩ groups
    exact hwalk.bind_pure fun w w' hw ↦ hw.outcome

namespace Engine

/-- Without any captured leaf a rule leaves the same events and runs into the same fault, or has the
same reasons against the input in the same order, or is satisfied as before. Only the value of a
satisfied rule may be another. -/
theorem applyIn_uncaptured (e : Engine) (scope : Scope) (r : Rule) (input : Input) :
    (e.applyIn scope r.uncaptured input).trail = (e.applyIn scope r input).trail ∧
    (∀ f, (e.applyIn scope r.uncaptured input).result = .error f ↔
      (e.applyIn scope r input).result = .error f) ∧
    (∀ reasons, (e.applyIn scope r.uncaptured input).result = .ok (.invalid reasons) ↔
      (e.applyIn scope r input).result = .ok (.invalid reasons)) ∧
    ((∃ v, (e.applyIn scope r.uncaptured input).result = .ok (.valid v)) ↔
      ∃ v, (e.applyIn scope r input).result = .ok (.valid v)) := by
  have h := r.apply_uncaptured (e.catalog.evaluate scope input)
  rw [applyIn, applyIn]
  generalize r.uncaptured.apply _ = run at h ⊢
  generalize r.apply _ = run' at h ⊢
  cases h with
  | error trail f => exact ⟨rfl, fun _ ↦ .rfl, fun _ ↦ .rfl, .rfl⟩
  | ok trail hverdict =>
    refine ⟨rfl, fun _ ↦ iff_of_false nofun nofun, ?_⟩
    cases hverdict with
    | invalid reasons => exact ⟨fun _ ↦ .rfl, .rfl⟩
    | valid v w => exact ⟨fun _ ↦ iff_of_false nofun nofun, iff_of_true ⟨v, rfl⟩ ⟨w, rfl⟩⟩

end Engine

end Rulebook
