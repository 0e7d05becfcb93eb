import Mathlib
import Rulebook.Proofs.Evaluation.Walk

namespace Rulebook

theorem nodup_eraseDups {α : Type} [BEq α] [LawfulBEq α] (as : List α) : as.eraseDups.Nodup := by
  match as with
  | [] => exact List.nodup_nil
  | a :: as =>
    rw [List.eraseDups_cons, List.nodup_cons]
    refine ⟨fun hmem ↦ ?_, nodup_eraseDups _⟩
    have hfilter := List.mem_filter.1 (List.mem_eraseDups.1 hmem)
    simp at hfilter
termination_by as.length
decreasing_by exact Nat.lt_succ_of_le (List.length_filter_le _ _)

theorem firstVisits_eq (visited is : List Nat) :
    firstVisits visited is = (is.removeAll visited).eraseDups := by
  induction is generalizing visited with
  | nil => rfl
  | cons i is ih =>
    rw [firstVisits, List.removeAll]
    by_cases hi : visited.contains i
    · rw [if_pos hi, ih, List.filter_cons_of_neg (by simpa using hi), List.removeAll]
    · rw [if_neg hi, ih, List.filter_cons_of_pos (by simpa using hi), List.eraseDups_cons,
        List.filter_filter, List.removeAll]
      refine congrArg (fun js : List Nat ↦ i :: js.eraseDups) (List.filter_congr fun j _ ↦ ?_)
      rw [List.elem_cons]
      cases j == i <;> rfl

theorem visitOrder_eq (visited : List Nat) (gs : List Group) :
    visitOrder visited gs = ((gs.flatMap Group.leaves).removeAll visited).eraseDups := by
  induction gs generalizing visited with
  | nil => rfl
  | cons g gs ih =>
    have hlater : (gs.flatMap Group.leaves).removeAll
        (visitedAfter visited (firstVisits visited g.leaves)) =
          ((gs.flatMap Group.leaves).removeAll visited).removeAll (g.leaves.removeAll visited) := by
      simp only [List.removeAll, List.filter_filter]
      refine List.filter_congr fun j _ ↦ ?_
      rw [Bool.eq_iff_iff]
      simp [visitedAfter, firstVisits_eq, List.removeAll]
    rw [visitOrder, ih, hlater, firstVisits_eq, List.flatMap_cons]
    simp only [List.removeAll, List.filter_append, List.eraseDups_append]

theorem Connective.mem_of_holds {c : Connective} {bs : List Bool} (hne : bs ≠ [])
    (h : c.holds bs = true) : true ∈ bs := by
  obtain ⟨b, bs, rfl⟩ := List.exists_cons_of_ne_nil hne
  cases c with
  | and =>
    have hb : b = true := List.all_eq_true.1 h b List.mem_cons_self
    exact hb ▸ List.mem_cons_self
  | or =>
    obtain ⟨b', hb', hid⟩ := List.any_eq_true.1 h
    obtain rfl : b' = true := hid
    exact hb'

theorem Connective.mem_of_not_holds {c : Connective} {bs : List Bool} (hne : bs ≠ [])
    (h : c.holds bs = false) : false ∈ bs := by
  obtain ⟨b, bs, rfl⟩ := List.exists_cons_of_ne_nil hne
  cases c with
  | and =>
    obtain ⟨b', hb', hid⟩ := List.all_eq_false.1 h
    obtain rfl : b' = false := Bool.eq_false_of_not_eq_true hid
    exact hb'
  | or =>
    have hb : b = false := Bool.eq_false_of_not_eq_true (List.any_eq_false.1 h b List.mem_cons_self)
    exact hb ▸ List.mem_cons_self

namespace Group

variable {g : Group} {passes : Nat → Bool} {new : List Nat}

theorem exists_passes (hne : new ≠ []) (h : g.holds passes new = true) :
    ∃ i ∈ new, passes i = true := by
  have hempty : new.isEmpty = false := by simpa using hne
  rw [holds, hempty, Bool.false_or] at h
  exact List.mem_map.1 (Connective.mem_of_holds (by simpa using hne) h)

theorem exists_fails (h : g.holds passes new = false) : ∃ i ∈ new, passes i = false := by
  obtain ⟨hempty, hfails⟩ := Bool.or_eq_false_iff.1 h
  have hne : new.map passes ≠ [] := by
    intro hnil
    rw [List.map_eq_nil_iff.1 hnil] at hempty
    cases hempty
  exact List.mem_map.1 (Connective.mem_of_not_holds hne hfails)

theorem firstVisits_ne_nil (g : Group) : firstVisits [] g.leaves ≠ [] := by
  cases g <;> simp [leaves, firstVisits]

end Group

theorem exists_passes_of_groupsHold {passes : Nat → Bool} {gs : List Group} (hne : gs ≠ [])
    (h : groupsHold passes [] gs = true) : ∃ i ∈ visitOrder [] gs, passes i = true := by
  obtain ⟨g, gs, rfl⟩ := List.exists_cons_of_ne_nil hne
  have hg := (Bool.and_eq_true_iff.1 h).1
  obtain ⟨i, hi, hpasses⟩ := Group.exists_passes g.firstVisits_ne_nil hg
  exact ⟨i, List.mem_append_left _ hi, hpasses⟩

theorem exists_fails_of_not_groupsHold {passes : Nat → Bool} {visited : List Nat} {gs : List Group}
    (h : groupsHold passes visited gs = false) : ∃ i ∈ visitOrder visited gs, passes i = false := by
  induction gs generalizing visited with
  | nil => cases h
  | cons g gs ih =>
    obtain hg | hgs := Bool.and_eq_false_iff.1 h
    · obtain ⟨i, hi, hfails⟩ := Group.exists_fails hg
      exact ⟨i, List.mem_append_left _ hi, hfails⟩
    · obtain ⟨i, hi, hfails⟩ := ih hgs
      exact ⟨i, List.mem_append_right _ hi, hfails⟩

namespace Rule

/-- The numbers of the leaves that the groups refer to, in the order in which they are first
mentioned. -/
def references (r : Rule) : List Nat := (r.groups.flatMap Group.leaves).eraseDups

def referenced (r : Rule) : List Leaf := r.references.filterMap (r.leaves[·]?)

variable {r : Rule}

theorem visitOrder_groups (r : Rule) : visitOrder [] r.groups = r.references := by
  rw [visitOrder_eq, references]
  simp [List.removeAll]

theorem mem_references {i : Nat} : i ∈ r.references ↔ ∃ g ∈ r.groups, i ∈ g.leaves := by
  rw [references, List.mem_eraseDups, List.mem_flatMap]

theorem nodup_references (r : Rule) : r.references.Nodup := nodup_eraseDups _

theorem leaf_mem_of_referenced {l : Leaf} (hl : l ∈ r.referenced) : l ∈ r.leaves := by
  obtain ⟨i, -, hi⟩ := List.mem_filterMap.1 hl
  exact List.mem_of_getElem? hi

end Rule

theorem map_filterMap_getElem? {ls : List Leaf} {is : List Nat} (h : ∀ i ∈ is, i < ls.length) :
    (is.filterMap (ls[·]?)).map some = is.map (ls[·]?) := by
  induction is with
  | nil => rfl
  | cons i is ih =>
    obtain ⟨l, hl⟩ : ∃ l, ls[i]? = some l := ⟨_, List.getElem?_eq_getElem (h i (by simp))⟩
    rw [List.filterMap_cons_some hl, List.map_cons, List.map_cons, hl,
      ih fun j hj ↦ h j (by simp [hj])]

namespace Rule

variable {r : Rule}

theorem references_lt (h : r.defect? = none) : ∀ i ∈ r.references, i < r.leaves.length := by
  intro i hi
  obtain ⟨g, hg, hig⟩ := mem_references.1 hi
  obtain ⟨-, hleaves, -⟩ := levelDefect?_eq_none_iff.1 (defect?_eq_none_iff.1 h).1
  exact hleaves g hg i hig

theorem map_referenced (h : r.defect? = none) :
    r.referenced.map some = r.references.map (r.leaves[·]?) :=
  map_filterMap_getElem? (references_lt h)

theorem referenced_subperm (h : r.defect? = none) : r.referenced.Subperm r.leaves := by
  have hrange : r.references ⊆ List.range r.leaves.length := fun i hi ↦
    List.mem_range.2 (references_lt h i hi)
  obtain ⟨is, hperm, hsub⟩ := r.nodup_references.subperm hrange
  have hall : (List.range r.leaves.length).filterMap (r.leaves[·]?) = r.leaves := by
    refine List.map_injective_iff.2 (Option.some_injective Leaf) ?_
    exact (map_filterMap_getElem? fun i hi ↦ List.mem_range.1 hi).trans (map_range_getElem? r.leaves)
  have hfilter := hsub.filterMap (r.leaves[·]?)
  rw [hall] at hfilter
  exact ⟨is.filterMap (r.leaves[·]?), hperm.filterMap _, hfilter⟩

theorem apply_eq_referenced (check : String → Run Value) (h : r.defect? = none) :
    r.apply check = do
      let os ← r.referenced.mapM (Leaf.apply check)
      return ((Walk.start.recordAll r.capture (r.references.zip os)).judge
        (groupsHold (passesLeaf (leafRuns check r.leaves)) [] r.groups)).outcome := by
  rw [apply_eq, visitOrder_groups, mapM_runLeaf check (map_referenced h)]

end Rule

theorem checkCountIn_eq (ls : List Leaf) : checkCountIn ls = (ls.map Leaf.checkCount).sum := by
  induction ls with
  | nil => rfl
  | cons l ls ih => rw [checkCountIn, ih, List.map_cons, List.sum_cons]

namespace Rule

theorem checkCount_eq (r : Rule) : r.checkCount = (r.leaves.map Leaf.checkCount).sum := by
  cases r
  rw [checkCount, checkCountIn_eq]
  rfl

theorem checkCount_referenced_le {r : Rule} (h : r.defect? = none) :
    (r.referenced.map Leaf.checkCount).sum ≤ r.checkCount := by
  obtain ⟨ls, hperm, hsub⟩ := referenced_subperm h
  rw [checkCount_eq, ← (hperm.map Leaf.checkCount).sum_eq]
  exact (hsub.map Leaf.checkCount).sum_le_sum fun n _ ↦ Nat.zero_le n

end Rule

end Rulebook
