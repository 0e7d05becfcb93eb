import Mathlib
import Rulebook.Catalog.Builtin
import Rulebook.Pattern.Matching
import Rulebook.Proofs.Evaluation.Sound
import Rulebook.Proofs.Equality

namespace Rulebook

namespace Traced

variable {ε α β γ : Type}

theorem mapM_bind_pure (f : α → Traced ε β) (g : β → γ) (as : List α) :
    (as.mapM fun a ↦ do return g (← f a)) = do return (← as.mapM f).map g := by
  induction as with
  | nil => rfl
  | cons a as ih => simp only [List.mapM_cons, ih, bind_assoc, pure_bind, List.map_cons]

theorem mapM_flatMap (f : β → Traced ε γ) (g : α → List β) (as : List α) :
    (as.flatMap g).mapM f = do return (← as.mapM fun a ↦ (g a).mapM f).flatten := by
  induction as with
  | nil => rfl
  | cons a as ih =>
    simp only [List.flatMap_cons, List.mapM_append, List.mapM_cons, ih, bind_assoc, pure_bind,
      List.flatten_cons]

end Traced

/-- What is made of outcomes that must all be valid: the first of them, or all reasons together. -/
def conjoin (os : List Outcome) : Outcome :=
  if os.all Outcome.isValid then os.headD (.valid .null) else .invalid (os.flatMap Outcome.reasons)

theorem conjoin_of_valid {os : List Outcome} (h : os.all Outcome.isValid = true) :
    conjoin os = os.headD (.valid .null) := if_pos h

theorem conjoin_of_invalid {os : List Outcome} (h : os.all Outcome.isValid = false) :
    conjoin os = .invalid (os.flatMap Outcome.reasons) :=
  if_neg (by rw [h]; exact Bool.false_ne_true)

theorem conjoin_singleton (o : Outcome) : conjoin [o] = o := by
  cases o with
  | valid v => rfl
  | invalid reasons => exact congrArg Outcome.invalid (List.append_nil reasons)

theorem isValid_conjoin (os : List Outcome) : (conjoin os).isValid = os.all Outcome.isValid := by
  cases h : os.all Outcome.isValid with
  | false => rw [conjoin_of_invalid h]; rfl
  | true =>
    rw [conjoin_of_valid h]
    cases os with
    | nil => rfl
    | cons o os => exact (Bool.and_eq_true_iff.1 h).1

theorem Outcome.reasons_of_valid {o : Outcome} (h : o.isValid = true) : o.reasons = [] := by
  cases o with
  | valid v => rfl
  | invalid reasons => cases h

theorem reasons_conjoin (os : List Outcome) :
    (conjoin os).reasons = os.flatMap Outcome.reasons := by
  cases h : os.all Outcome.isValid with
  | false => rw [conjoin_of_invalid h]; rfl
  | true =>
    have hnone : os.flatMap Outcome.reasons = [] :=
      List.flatMap_eq_nil_iff.2 fun o ho ↦ Outcome.reasons_of_valid (List.all_eq_true.1 h o ho)
    rw [hnone, Outcome.reasons_of_valid ((isValid_conjoin os).trans h)]

theorem conjoin_flatten {oss : List (List Outcome)} (hne : ∀ os ∈ oss, os ≠ []) :
    conjoin (oss.map conjoin) = conjoin oss.flatten := by
  have hall : (oss.map conjoin).all Outcome.isValid = oss.flatten.all Outcome.isValid := by
    rw [List.all_map, List.all_flatten]
    exact congrArg oss.all (funext isValid_conjoin)
  cases h : oss.flatten.all Outcome.isValid with
  | false =>
    rw [conjoin_of_invalid (hall.trans h), conjoin_of_invalid h, List.flatMap_map,
      ← List.flatMap_id, List.flatMap_assoc]
    simp only [reasons_conjoin, id]
  | true =>
    rw [conjoin_of_valid (hall.trans h), conjoin_of_valid h]
    cases oss with
    | nil => rfl
    | cons os oss =>
      -- the first group has a first outcome, which is also the first of all
      obtain ⟨o, os, rfl⟩ := List.exists_cons_of_ne_nil (hne os List.mem_cons_self)
      have hfirst : (o :: os).all Outcome.isValid = true := by
        rw [List.flatten_cons, List.all_append] at h
        exact (Bool.and_eq_true_iff.1 h).1
      exact conjoin_of_valid hfirst

theorem chainHolds_and {cs : List Connective} (h : .or ∉ cs) (ps : List Bool) :
    chainHolds cs ps = ps.all id := by
  cases cs with
  | nil => rfl
  | cons c cs =>
    obtain rfl : c = .and := by
      cases c with
      | and => rfl
      | or => exact absurd List.mem_cons_self h
    obtain _ | ⟨p, _ | ⟨q, ps⟩⟩ := ps
    · rfl
    · rfl
    · simp [chainHolds, Connective.holds, Bool.and_assoc]

theorem Walk.recordAll_captured_of_some {w : Walk} {v : Value} (h : w.captured = some v)
    (visits : List (Nat × Outcome)) : (w.recordAll none visits).captured = some v := by
  induction visits generalizing w with
  | nil => exact h
  | cons visit visits ih =>
    refine ih (w := w.record none visit.1 visit.2) ?_
    rw [record_captured, h]
    rfl

theorem chainOutcome_and {cs : List Connective} (h : .or ∉ cs) (os : List Outcome) :
    chainOutcome cs none os = conjoin os := by
  have hall : (os.map Outcome.isValid).all id = os.all Outcome.isValid := by
    rw [List.all_map]
    rfl
  have hvalid : (chainOutcome cs none os).isValid = os.all Outcome.isValid := by
    rw [isValid_chainOutcome, chainHolds_and h, hall]
  cases hos : os.all Outcome.isValid with
  | false =>
    have hreasons := reasons_chainOutcome (hvalid.trans hos)
    rw [conjoin_of_invalid hos, ← hreasons]
    cases ho : chainOutcome cs none os with
    | valid v =>
      rw [ho, hos] at hvalid
      cases hvalid
    | invalid reasons => rfl
  | true =>
    rw [conjoin_of_valid hos, chainOutcome, chainHolds_and h, hall, hos, Walk.judge,
      Walk.outcome_of_satisfied (by rw [Walk.recordAll_satisfied]; rfl)]
    cases os with
    | nil => rfl
    | cons o os =>
      cases o with
      | invalid reasons => cases hos
      | valid v =>
        rw [List.length_cons, List.range_succ_eq_map, List.zip_cons_cons]
        exact congrArg (fun value : Option Value ↦ Outcome.valid (value.getD .null))
          (Walk.recordAll_captured_of_some (w := Walk.start.record none 0 (.valid v)) rfl _)

/-- A rule that says `&&` only, without a captured leaf, at every level. -/
def Rule.IsConjunction (r : Rule) : Prop := ∀ s ∈ r.levels, .or ∉ s.connectives ∧ s.capture = none

def Rule.conjunction (texts : List String) : Rule :=
  ⟨texts.map .check, groupsOf (List.replicate (texts.length - 1) .and), none⟩

namespace Rule

variable {check : String → Run Value}

theorem IsConjunction.nested {r t : Rule} (h : r.IsConjunction) (ht : .nested t ∈ r.leaves) :
    t.IsConjunction :=
  fun s hs ↦ h s (mem_levels.2 (.inr (mem_inner.2 ⟨t, ht, hs⟩)))

theorem apply_conjunction {texts : List String} (hne : texts ≠ []) :
    (conjunction texts).apply check = do
      return conjoin (← texts.mapM fun t ↦ (check t).settle) := by
  have hlen : (texts.map Leaf.check).length =
      (List.replicate (texts.length - 1) Connective.and).length + 1 := by
    have := List.length_pos_iff.2 hne
    rw [List.length_map, List.length_replicate]
    omega
  have hand : Connective.or ∉ List.replicate (texts.length - 1) Connective.and :=
    fun hmem ↦ nomatch (List.mem_replicate.1 hmem).2
  rw [conjunction, apply_groupsOf check hlen none, List.mapM_map]
  simp only [chainOutcome_and hand]
  rfl

theorem checks_ne_nil {r : Rule} (h : r.Canonical) : r.checks ≠ [] := by
  induction r using rule_induction with
  | step r ih =>
    obtain ⟨hr, hnested⟩ := canonical_iff.1 h
    obtain ⟨l, ls, hls⟩ := List.exists_cons_of_ne_nil hr.leaves_ne_nil
    have hl : l ∈ r.leaves := hls ▸ List.mem_cons_self
    rw [checks_eq, hls, checksIn]
    cases l with
    | check t => exact List.cons_ne_nil t _
    | nested t =>
      have ht : t.checks ≠ [] := ih t hl (hnested t hl)
      exact fun hnil ↦ ht (List.append_eq_nil_iff.1 hnil).1

theorem checksIn_eq_flatMap (ls : List Leaf) : checksIn ls = ls.flatMap Leaf.checks := by
  induction ls with
  | nil => rfl
  | cons l ls ih => rw [checksIn, ih, List.flatMap_cons]

/-- All checks are run from left to right, and their outcomes are joined without regard to the
levels that they stand at. -/
theorem Canonical.apply_of_isConjunction {r : Rule} (h : r.Canonical) (hand : r.IsConjunction) :
    r.apply check = do return conjoin (← r.checks.mapM fun t ↦ (check t).settle) := by
  induction r using rule_induction with
  | step r ih =>
    obtain ⟨hr, hnested⟩ := canonical_iff.1 h
    obtain ⟨cs, hlen, hgroups⟩ := isChain_iff.1 hr.chain
    obtain ⟨hor, hcapture⟩ := hand r r.self_mem_levels
    have hne : ∀ l ∈ r.leaves, l.checks ≠ [] := by
      intro l hl
      cases l with
      | check t => exact List.cons_ne_nil t []
      | nested t => exact checks_ne_nil (hnested t hl)
    have hleaf : ∀ l ∈ r.leaves, l.apply check = do
        return conjoin (← l.checks.mapM fun t ↦ (check t).settle) := by
      intro l hl
      cases l with
      | check t =>
        simp only [Leaf.apply, Leaf.checks, List.mapM_cons, List.mapM_nil, bind_assoc, pure_bind,
          conjoin_singleton, bind_pure]
      | nested t => exact ih t hl (hnested t hl) (hand.nested hl)
    obtain ⟨ls, gs, capture⟩ := r
    obtain rfl : gs = groupsOf cs := hgroups
    obtain rfl : capture = none := hcapture
    have hls : ls.length = cs.length + 1 := hlen.symm
    have hchecks : Rule.checks ⟨ls, groupsOf cs, none⟩ = ls.flatMap Leaf.checks :=
      (checks_eq _).trans (checksIn_eq_flatMap ls)
    have hruns : ls.mapM (Leaf.apply check) = _ := Traced.mapM_congr hleaf
    rw [connectives, groups, connectives_groupsOf] at hor
    rw [apply_groupsOf check hls none, hchecks, hruns, Traced.mapM_bind_pure, Traced.mapM_flatMap]
    simp only [bind_assoc, pure_bind, chainOutcome_and hor]
    refine Traced.bind_congr fun oss hoss ↦ ?_
    -- every leaf has checks, so every one of them contributes outcomes
    have hoss' : ∀ os ∈ oss, os ≠ [] := by
      intro os hos
      obtain ⟨l, hl, hrun⟩ := exists_mem_of_forall₂ (Traced.mapM_eq_ok_iff.1 hoss) hos
      have hlength := (Traced.mapM_eq_ok_iff.1 hrun).length_eq
      rintro rfl
      exact hne l hl (List.length_eq_zero_iff.1 hlength)
    rw [conjoin_flatten hoss']

end Rule

namespace Engine

/-- Parentheses do not matter in a conjunction: a rule that was read, without `||` and without a
captured leaf, does to any input what the flat conjunction of its checks does. The value, the
reasons in their order, the fault and the events are the same. -/
theorem applyIn_of_isConjunction {limits : Limits} {text : String} {r : Rule}
    (h : Rule.read limits text = .ok r) (hand : r.IsConjunction) (e : Engine) (scope : Scope)
    (input : Input) :
    e.applyIn scope r input = e.applyIn scope (Rule.conjunction r.checks) input := by
  obtain ⟨-, hb, hr⟩ := read_eq_ok_iff.1 h
  have hcanonical : r.Canonical := (readLevel_canonical hb hr).1
  rw [applyIn, applyIn, hcanonical.apply_of_isConjunction hand,
    Rule.apply_conjunction (Rule.checks_ne_nil hcanonical)]

theorem applyIn_of_isConjunction_nested :
    applyIn { catalog := .builtin } ⟨[], fun _ _ ↦ .fail exhausted⟩
        ⟨[.nested ⟨[.check "int", .check "str"], [.combine .and 0 1], none⟩,
          .nested ⟨[.check "bool", .nested ⟨[.check "dict", .check "int"],
            [.combine .and 0 1], none⟩], [.combine .and 0 1], none⟩],
          [.combine .and 0 1], none⟩ (.raw "x") =
      applyIn { catalog := .builtin } ⟨[], fun _ _ ↦ .fail exhausted⟩
        ⟨[.check "int", .check "str", .check "bool", .check "dict", .check "int"],
          [.combine .and 0 1, .combine .and 1 2, .combine .and 2 3, .combine .and 3 4], none⟩
        (.raw "x") := by
  have hread : Rule.read {} "(int && str) && (bool && ((dict) && int))" =
      .ok ⟨[.nested ⟨[.check "int", .check "str"], [.combine .and 0 1], none⟩,
        .nested ⟨[.check "bool", .nested ⟨[.check "dict", .check "int"],
          [.combine .and 0 1], none⟩], [.combine .and 0 1], none⟩],
        [.combine .and 0 1], none⟩ := by
    decide +kernel
  refine applyIn_of_isConjunction hread (fun s hs ↦ ?_) { catalog := .builtin } _ _
  simp only [Rule.levels, levelsIn, Leaf.levels, List.append_nil, List.nil_append, List.cons_append,
    List.mem_cons, List.not_mem_nil, or_false] at hs
  obtain rfl | rfl | rfl | rfl := hs
  all_goals exact ⟨by decide, rfl⟩

end Engine

end Rulebook
