import Rulebook.Rule.Structure

namespace Rulebook

mutual

def Rule.levels : Rule → List Rule
  | ⟨leaves, groups, capture⟩ => ⟨leaves, groups, capture⟩ :: levelsIn leaves

def Leaf.levels : Leaf → List Rule
  | .check _ => []
  | .nested r => r.levels

def levelsIn : List Leaf → List Rule
  | [] => []
  | l :: ls => l.levels ++ levelsIn ls

end

/-- The rules nested in a rule, to any depth, without the rule itself. -/
def Rule.inner (r : Rule) : List Rule := levelsIn r.leaves

theorem Rule.levels_eq (r : Rule) : r.levels = r :: r.inner := by
  cases r
  rw [levels]
  rfl

theorem rule_induction {P : Rule → Prop}
    (step : ∀ r : Rule, (∀ t, .nested t ∈ r.leaves → P t) → P r) (r : Rule) : P r := by
  refine Rule.rec (motive_1 := fun l ↦ ∀ t, l = .nested t → P t) (motive_2 := P)
    (motive_3 := fun ls ↦ ∀ t, .nested t ∈ ls → P t) ?_ ?_ ?_ ?_ ?_ r
  · exact fun _ _ h ↦ nomatch h
  · rintro r hr t h
    cases h
    exact hr
  · exact fun leaves groups capture ih ↦ step ⟨leaves, groups, capture⟩ ih
  · exact fun _ h ↦ nomatch h
  · intro l ls hl hls t ht
    obtain h | h := List.mem_cons.1 ht
    · exact hl t h.symm
    · exact hls t h

theorem mem_levelsIn {s : Rule} {ls : List Leaf} :
    s ∈ levelsIn ls ↔ ∃ t, .nested t ∈ ls ∧ s ∈ t.levels := by
  induction ls with
  | nil => simp [levelsIn]
  | cons l ls ih =>
    rw [levelsIn, List.mem_append, ih]
    cases l <;> simp [Leaf.levels]

namespace Rule

theorem mem_inner {s r : Rule} : s ∈ r.inner ↔ ∃ t, .nested t ∈ r.leaves ∧ s ∈ t.levels :=
  mem_levelsIn

theorem mem_levels {s r : Rule} : s ∈ r.levels ↔ s = r ∨ s ∈ r.inner := by
  rw [levels_eq, List.mem_cons]

theorem self_mem_levels (r : Rule) : r ∈ r.levels := mem_levels.2 (.inl rfl)

theorem leaf_mem_inner {t r : Rule} (h : .nested t ∈ r.leaves) : t ∈ r.inner :=
  mem_inner.2 ⟨t, h, t.self_mem_levels⟩

theorem levels_of_inner {s t r : Rule} (hs : s ∈ t.levels) (ht : t ∈ r.inner) : s ∈ r.inner := by
  induction r using rule_induction with
  | step r ih =>
    obtain ⟨u, hu, ht⟩ := mem_inner.1 ht
    refine mem_inner.2 ⟨u, hu, ?_⟩
    obtain rfl | ht := mem_levels.1 ht
    · exact hs
    · exact mem_levels.2 (.inr (ih u hu ht))

theorem exists_level_of_mem_inner {t r : Rule} (h : t ∈ r.inner) :
    ∃ s ∈ r.levels, .nested t ∈ s.leaves := by
  induction r using rule_induction with
  | step r ih =>
    obtain ⟨u, hu, ht⟩ := mem_inner.1 h
    obtain rfl | ht := mem_levels.1 ht
    · exact ⟨r, r.self_mem_levels, hu⟩
    · obtain ⟨s, hs, hleaf⟩ := ih u hu ht
      exact ⟨s, mem_levels.2 (.inr (mem_inner.2 ⟨u, hu, hs⟩)), hleaf⟩

end Rule

theorem depthIn_le_iff {ls : List Leaf} {n : Nat} :
    depthIn ls ≤ n ↔ ∀ t, .nested t ∈ ls → t.depth ≤ n := by
  induction ls with
  | nil => simp [depthIn]
  | cons l ls ih =>
    rw [depthIn, Nat.max_le, ih]
    cases l <;> simp [Leaf.depth]

theorem lt_depthIn_iff {ls : List Leaf} {n : Nat} : n < depthIn ls ↔ ∃ l ∈ ls, n < l.depth := by
  induction ls with
  | nil => simp [depthIn]
  | cons l ls ih =>
    have hmax : n < max l.depth (depthIn ls) ↔ n < l.depth ∨ n < depthIn ls := by omega
    rw [depthIn, hmax, ih]
    simp

theorem Rule.depth_eq (r : Rule) : r.depth = 1 + depthIn r.leaves := by
  cases r
  rw [depth]
  rfl

theorem mem_checksIn {ls : List Leaf} {t : String} :
    t ∈ checksIn ls ↔ ∃ l ∈ ls, t ∈ l.checks := by
  induction ls with
  | nil => simp [checksIn]
  | cons l ls ih => simp [checksIn, ih]

theorem Rule.checks_eq (r : Rule) : r.checks = checksIn r.leaves := by
  cases r
  rw [checks]
  rfl

theorem Rule.mem_checks {r : Rule} {t : String} : t ∈ r.checks ↔ ∃ l ∈ r.leaves, t ∈ l.checks := by
  rw [checks_eq, mem_checksIn]

theorem anyMixedIn_iff {ls : List Leaf} :
    anyMixedIn ls = true ↔ ∃ t, .nested t ∈ ls ∧ t.anyMixed = true := by
  induction ls with
  | nil => simp [anyMixedIn]
  | cons l ls ih =>
    rw [anyMixedIn, Bool.or_eq_true, ih]
    cases l <;> simp [Leaf.anyMixed]

theorem Rule.anyMixed_iff {r : Rule} : r.anyMixed = true ↔ ∃ s ∈ r.levels, s.mixes = true := by
  induction r using rule_induction with
  | step r ih =>
    have hr : r.anyMixed = (r.mixes || anyMixedIn r.leaves) := by
      cases r
      rw [anyMixed]
      rfl
    rw [hr, Bool.or_eq_true, anyMixedIn_iff]
    constructor
    · intro h
      obtain h | ⟨t, ht, h⟩ := h
      · exact ⟨r, r.self_mem_levels, h⟩
      · obtain ⟨s, hs, h⟩ := (ih t ht).1 h
        exact ⟨s, mem_levels.2 (.inr (mem_inner.2 ⟨t, ht, hs⟩)), h⟩
    · intro h
      obtain ⟨s, hs, h⟩ := h
      obtain rfl | hs := mem_levels.1 hs
      · exact .inl h
      · obtain ⟨t, ht, hs⟩ := mem_inner.1 hs
        exact .inr ⟨t, ht, (ih t ht).2 ⟨s, hs, h⟩⟩

theorem Rule.mixes_iff {r : Rule} :
    r.mixes = true ↔ .and ∈ r.connectives ∧ .or ∈ r.connectives := by
  rw [mixes, Bool.and_eq_true, List.contains_iff_mem, List.contains_iff_mem]

theorem defectIn?_eq_none_iff {ls : List Leaf} :
    defectIn? ls = none ↔ ∀ t, .nested t ∈ ls → t.defect? = none := by
  induction ls with
  | nil => simp [defectIn?]
  | cons l ls ih =>
    rw [defectIn?, Option.or_eq_none_iff, ih]
    cases l <;> simp [Leaf.defect?]

theorem levelDefect?_eq_none_iff {n : Nat} {groups : List Group} {capture : Option Nat} :
    levelDefect? n groups capture = none ↔
      groups ≠ [] ∧ (∀ g ∈ groups, ∀ i ∈ g.leaves, i < n) ∧ ∀ i ∈ capture, i < n := by
  unfold levelDefect?
  by_cases hg : groups = []
  · simp [hg]
  · rw [if_neg (by simpa using hg)]
    cases hf : (groups.flatMap Group.leaves).find? (n ≤ ·) with
    | some i =>
      have hi : n ≤ i := by simpa using List.find?_some hf
      obtain ⟨g, hg', hig⟩ := List.mem_flatMap.1 (List.mem_of_find?_eq_some hf)
      refine iff_of_false (fun h ↦ nomatch h) fun h ↦ ?_
      exact absurd (h.2.1 g hg' i hig) (by omega)
    | none =>
      have hall : ∀ g ∈ groups, ∀ i ∈ g.leaves, i < n := by
        intro g hg' i hi
        simpa using List.find?_eq_none.1 hf i (List.mem_flatMap.2 ⟨g, hg', hi⟩)
      cases capture with
      | none => simpa [hg] using hall
      | some i => simpa [hg] using fun _ ↦ hall

theorem Rule.defect?_eq_none_iff {r : Rule} :
    r.defect? = none ↔ levelDefect? r.leaves.length r.groups r.capture = none ∧
      ∀ t, .nested t ∈ r.leaves → t.defect? = none := by
  cases r
  rw [defect?, Option.or_eq_none_iff, defectIn?_eq_none_iff]
  rfl

theorem Rule.defect?_of_levels {r s : Rule} (h : r.defect? = none) (hs : s ∈ r.levels) :
    s.defect? = none := by
  induction r using rule_induction with
  | step r ih =>
    obtain rfl | hs := mem_levels.1 hs
    · exact h
    · obtain ⟨t, ht, hs⟩ := mem_inner.1 hs
      exact ih t ht ((defect?_eq_none_iff.1 h).2 t ht) hs

end Rulebook
