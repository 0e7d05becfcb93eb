import Rulebook.Proofs.Evaluation.Walk

namespace Rulebook

/-- A relation between runs that is kept by everything that a rule makes of the runs of its checks.
Two runs go on together only where both give the same result. -/
structure Simulation (R : (α : Type) → Run α → Run α → Prop) : Prop where
  silent : ∀ {α : Type} (x : Except Fault α), R α (.ofExcept x) (.ofExcept x)
  bind : ∀ {α β : Type} {r r' : Run α} {f g : α → Run β}, R α r r' →
    (∀ a, r.result = .ok a → r'.result = .ok a → R β (f a) (g a)) → R β (r >>= f) (r' >>= g)
  settle : ∀ {r r' : Run Value}, R Value r r' → R Outcome r.settle r'.settle

theorem simulation_eq : Simulation fun _ r r' ↦ r = r' where
  silent _ := rfl
  bind h hfg := by
    subst h
    exact Traced.bind_congr fun a ha ↦ hfg a ha ha
  settle h := congrArg Run.settle h

theorem simulation_result : Simulation fun _ r r' ↦ r.result = r'.result where
  silent _ := rfl
  bind h hfg := Traced.result_bind_congr h fun a ha ↦ hfg a ha (h ▸ ha)
  settle {r r'} h := by
    rw [Run.settle, Run.settle, h]
    cases r'.result with
    | ok v => rfl
    | error f => cases f <;> rfl

namespace Simulation

variable {R : (α : Type) → Run α → Run α → Prop} (hR : Simulation R)

include hR

theorem pure {α : Type} (a : α) : R α (Pure.pure a) (Pure.pure a) := hR.silent (.ok a)

theorem bind_pure {α β : Type} {r r' : Run α} (h : R α r r') (f : α → β) :
    R β (r >>= fun a ↦ Pure.pure (f a)) (r' >>= fun a ↦ Pure.pure (f a)) :=
  hR.bind h fun a _ _ ↦ hR.pure (f a)

theorem mapM {α β : Type} {f g : α → Run β} {as : List α}
    (h : ∀ a ∈ Traced.reached f as, R β (f a) (g a)) : R (List β) (as.mapM f) (as.mapM g) := by
  induction as with
  | nil => exact hR.pure []
  | cons a as ih =>
    rw [List.mapM_cons, List.mapM_cons]
    have ha : a ∈ Traced.reached f (a :: as) := by
      rw [Traced.reached]
      split <;> exact List.mem_cons_self
    refine hR.bind (h a ha) fun b hb _ ↦ hR.bind_pure (ih fun a' ha' ↦ h a' ?_) _
    rw [Traced.reached_of_ok hb]
    exact List.mem_cons_of_mem a ha'

section Groups

variable {leaves leaves' : List (Unit → Run Outcome)}
  (h : ∀ i, R Outcome (runLeaf leaves i) (runLeaf leaves' i)) (capture : Option Nat)

include h

theorem visitLeaves (w : Walk) (is : List Nat) :
    R _ (visitLeaves leaves capture w is) (visitLeaves leaves' capture w is) := by
  induction is generalizing w with
  | nil => exact hR.pure (w, [])
  | cons i is ih =>
    rw [visitLeaves_cons, visitLeaves_cons]
    split
    · exact ih w
    · exact hR.bind (h i) fun o _ _ ↦ hR.bind_pure (ih (w.record capture i o)) _

theorem visitGroup (w : Walk) (g : Group) :
    R _ (visitGroup leaves capture w g) (visitGroup leaves' capture w g) :=
  hR.bind_pure (hR.visitLeaves h capture w g.leaves) _

theorem visitGroups (w : Walk) (gs : List Group) :
    R _ (visitGroups leaves capture w gs) (visitGroups leaves' capture w gs) := by
  induction gs generalizing w with
  | nil => exact hR.pure w
  | cons g gs ih => exact hR.bind (hR.visitGroup h capture w g) fun w' _ _ ↦ ih w'

end Groups

theorem apply {check check' : String → Run Value} {r : Rule}
    (h : ∀ t ∈ r.checks, R Value (check t) (check' t)) :
    R Outcome (r.apply check) (r.apply check') := by
  induction r using rule_induction with
  | step r ih =>
    have hrun (i : Nat) : R Outcome (runLeaf (leafRuns check r.leaves) i)
        (runLeaf (leafRuns check' r.leaves) i) := by
      cases hl : r.leaves[i]? with
      | none =>
        rw [runLeaf, runLeaf, leafRuns_eq_map, leafRuns_eq_map, List.getElem?_map,
          List.getElem?_map, hl]
        exact hR.silent (.error _)
      | some l =>
        rw [runLeaf_leafRuns check hl, runLeaf_leafRuns check' hl]
        have hmem := List.mem_of_getElem? hl
        cases l with
        | check t => exact hR.settle (h t (Rule.mem_checks.2 ⟨_, hmem, List.mem_singleton_self t⟩))
        | nested s => exact ih s hmem fun t ht ↦ h t (Rule.mem_checks.2 ⟨_, hmem, ht⟩)
    obtain ⟨leaves, groups, capture⟩ := r
    exact hR.bind_pure (hR.visitGroups hrun capture .start groups) Walk.outcome

end Simulation

namespace Rule

variable {check check' : String → Run Value} {r : Rule}

theorem apply_congr (h : ∀ t ∈ r.checks, check t = check' t) : r.apply check = r.apply check' :=
  simulation_eq.apply h

theorem apply_result_congr (h : ∀ t ∈ r.checks, (check t).result = (check' t).result) :
    (r.apply check).result = (r.apply check').result :=
  simulation_result.apply h

end Rule

end Rulebook
