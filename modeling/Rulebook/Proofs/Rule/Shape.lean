import Mathlib.Data.List.Basic
import Rulebook.Proofs.Rule.Levels
import Rulebook.Proofs.Rule.Wrapping

namespace Rulebook

open Text

/-- The text of a check: trimmed, balanced, and neither a chain nor in parentheses as a whole. -/
structure CheckText (cs : List Char) : Prop where
  nonempty : cs ≠ []
  trimmed : trim cs = cs
  balanced : checkBalance (glyphs cs) = .ok ()
  single : hasConnective cs = false
  bare : ¬ Enclosed (glyphs cs)

/-- The groups of a chain of `n` leaves, each but the first joined to the one before it. -/
def IsChain (n : Nat) (groups : List Group) : Prop :=
  n = 1 ∧ groups = [.solo 0] ∨
  2 ≤ n ∧ groups.length + 1 = n ∧
    ∀ i < groups.length, ∃ c, groups[i]? = some (.combine c i (i + 1))

/-- One level of a canonical rule. A check begins with the capture marker only if it is captured,
and a rule nested in it is itself a chain. -/
structure Rule.CanonicalLevel (r : Rule) : Prop where
  leaves_ne_nil : r.leaves ≠ []
  chain : IsChain r.leaves.length r.groups
  capture_lt : ∀ i ∈ r.capture, i < r.leaves.length
  check : ∀ i t, r.leaves[i]? = some (.check t) →
    CheckText t.toList ∧ (t.toList.head? = some '@' → r.capture = some i)
  nested : ∀ t, .nested t ∈ r.leaves → 2 ≤ t.leaves.length
  lone : ∀ t, r.leaves = [.nested t] → r.capture = some 0

def Rule.Canonical (r : Rule) : Prop := ∀ s ∈ r.levels, s.CanonicalLevel

theorem getElem?_groupsOf_cons (c : Connective) (cs : List Connective) (i : Nat) :
    (groupsOf (c :: cs))[i]? = (c :: cs)[i]?.map fun c ↦ .combine c i (i + 1) := by
  rw [groupsOf, if_neg (by simp), List.getElem?_map, List.getElem?_zipIdx, Option.map_map,
    Nat.zero_add]
  rfl

theorem length_groupsOf_cons (c : Connective) (cs : List Connective) :
    (groupsOf (c :: cs)).length = (c :: cs).length := by
  simp [groupsOf]

theorem isChain_iff {n : Nat} {groups : List Group} :
    IsChain n groups ↔ ∃ cs : List Connective, cs.length + 1 = n ∧ groups = groupsOf cs := by
  constructor
  · rintro (⟨rfl, rfl⟩ | ⟨hn, hlen, hg⟩)
    · exact ⟨[], rfl, rfl⟩
    · let cs := groups.map fun g ↦ g.connective?.getD .and
      have hcs : cs.length = groups.length := List.length_map _
      refine ⟨cs, by omega, ?_⟩
      cases h : cs with
      | nil => rw [h] at hcs; simp only [List.length_nil] at hcs; omega
      | cons c cs' =>
        refine List.ext_getElem? fun i ↦ ?_
        rw [getElem?_groupsOf_cons, ← h, List.getElem?_map]
        by_cases hi : i < groups.length
        · obtain ⟨c, hc⟩ := hg i hi
          rw [hc]
          rfl
        · rw [List.getElem?_eq_none (by omega)]
          rfl
  · rintro ⟨_ | ⟨c, cs⟩, rfl, rfl⟩
    · exact .inl ⟨rfl, rfl⟩
    · have hlen := length_groupsOf_cons c cs
      refine .inr ⟨by simp, by rw [hlen], fun i hi ↦ ?_⟩
      rw [hlen] at hi
      exact ⟨(c :: cs)[i], by rw [getElem?_groupsOf_cons, List.getElem?_eq_getElem hi]; rfl⟩

theorem IsChain.lt_of_mem {n : Nat} {groups : List Group} (h : IsChain n groups) :
    ∀ g ∈ groups, ∀ i ∈ g.leaves, i < n := by
  intro g hg i hi
  obtain ⟨rfl, rfl⟩ | ⟨-, hlen, hgroups⟩ := h
  · obtain rfl := List.mem_singleton.1 hg
    simp only [Group.leaves, List.mem_singleton] at hi
    omega
  · obtain ⟨k, hk⟩ := List.mem_iff_getElem?.1 hg
    have hlt : k < groups.length := (List.getElem?_eq_some_iff.1 hk).1
    obtain ⟨c, hc⟩ := hgroups k hlt
    cases hk.symm.trans hc
    simp only [Group.leaves, List.mem_cons, List.not_mem_nil, or_false] at hi
    omega

theorem IsChain.ne_nil {n : Nat} {groups : List Group} (h : IsChain n groups) : groups ≠ [] := by
  rintro rfl
  obtain ⟨-, h⟩ | ⟨hn, hlen, -⟩ := h
  · cases h
  · simp only [List.length_nil] at hlen
    omega

namespace Rule

theorem CanonicalLevel.levelDefect?_eq_none {r : Rule} (h : r.CanonicalLevel) :
    levelDefect? r.leaves.length r.groups r.capture = none :=
  levelDefect?_eq_none_iff.2 ⟨h.chain.ne_nil, h.chain.lt_of_mem, h.capture_lt⟩

theorem canonical_iff {r : Rule} :
    r.Canonical ↔ r.CanonicalLevel ∧ ∀ t, .nested t ∈ r.leaves → t.Canonical := by
  constructor
  · exact fun h ↦ ⟨h r r.self_mem_levels, fun t ht s hs ↦
      h s (mem_levels.2 (.inr (mem_inner.2 ⟨t, ht, hs⟩)))⟩
  · rintro ⟨hr, ht⟩ s hs
    obtain rfl | hs := mem_levels.1 hs
    · exact hr
    · obtain ⟨t, htr, hs⟩ := mem_inner.1 hs
      exact ht t htr s hs

theorem Canonical.level {r : Rule} (h : r.Canonical) : r.CanonicalLevel := h r r.self_mem_levels

theorem Canonical.of_inner {r s : Rule} (h : r.Canonical) (hs : s ∈ r.inner) : s.Canonical :=
  fun t ht ↦ h t (mem_levels.2 (.inr (levels_of_inner ht hs)))

theorem Canonical.defect?_eq_none {r : Rule} (h : r.Canonical) : r.defect? = none := by
  induction r using rule_induction with
  | step r ih =>
    obtain ⟨hr, ht⟩ := canonical_iff.1 h
    exact defect?_eq_none_iff.2 ⟨hr.levelDefect?_eq_none, fun t htr ↦ ih t htr (ht t htr)⟩

end Rule

end Rulebook
