import Mathlib
import Rulebook.Catalog.Builtin
import Rulebook.Pattern.Matching
import Rulebook.Proofs.Evaluation.Chain
import Rulebook.Proofs.Evaluation.Order
import Rulebook.Proofs.Equality

namespace Rulebook

def Outcome.value? : Outcome → Option Value
  | .valid v => some v
  | .invalid _ => none

/-- The value of the captured leaf if it passed, and of the first leaf that passed otherwise. -/
def chosen? (capture : Option Nat) (visits : List (Nat × Outcome)) : Option Value :=
  (visits.findSome? fun v ↦ if capture = some v.1 then v.2.value? else none).or
    (visits.findSome? fun v ↦ v.2.value?)

theorem exists_chosen (capture : Option Nat) {is : List Nat} {os : List Outcome}
    (hlen : is.length = os.length) (h : ∃ o ∈ os, o.isValid = true) :
    ∃ v, chosen? capture (is.zip os) = some v := by
  obtain ⟨o, ho, hvalid⟩ := h
  have hsnd : (is.zip os).map Prod.snd = os := List.map_snd_zip (Nat.le_of_eq hlen.symm)
  rw [← hsnd] at ho
  obtain ⟨v, hv, rfl⟩ := List.mem_map.1 ho
  refine Option.ne_none_iff_exists'.1 fun hnone ↦ ?_
  have hvalue : v.2.value? = none :=
    List.findSome?_eq_none_iff.1 (Option.or_eq_none_iff.1 hnone).2 v hv
  cases hv2 : v.2 with
  | valid x =>
    rw [hv2] at hvalue
    cases hvalue
  | invalid rs =>
    rw [hv2] at hvalid
    cases hvalid

namespace Walk

theorem record_captured (w : Walk) (capture : Option Nat) (i : Nat) (o : Outcome) :
    (w.record capture i o).captured =
      (if capture = some i then o.value? else none).or (w.captured.or o.value?) := by
  cases o with
  | valid v =>
    by_cases hi : capture = some i
    · simp [record, Outcome.value?, hi]
    · cases hw : w.captured <;> simp [record, Outcome.value?, hi, hw]
  | invalid rs => simp [record, Outcome.value?]

theorem recordAll_captured {capture : Option Nat} {visits : List (Nat × Outcome)}
    (h : (visits.map Prod.fst).Nodup) :
    (start.recordAll capture visits).captured = chosen? capture visits := by
  induction visits using List.reverseRecOn with
  | nil => rfl
  | append_singleton visits v ih =>
    obtain ⟨i, o⟩ := v
    rw [List.map_append, List.nodup_append] at h
    obtain ⟨hvisits, -, hnew⟩ := h
    have hstep := record_captured (start.recordAll capture visits) capture i o
    rw [ih hvisits] at hstep
    rw [recordAll_append]
    refine hstep.trans ?_
    simp only [chosen?, List.findSome?_append, List.findSome?_singleton]
    by_cases hi : capture = some i
    · -- the captured leaf comes last, so it was not among the earlier ones
      have hnone : visits.findSome? (fun v ↦ if capture = some v.1 then v.2.value? else none) =
          none := by
        refine List.findSome?_eq_none_iff.2 fun v hv ↦ if_neg fun hcap ↦ ?_
        have hvi : v.1 = i := Option.some.inj (hcap.symm.trans hi)
        exact hnew v.1 (List.mem_map_of_mem hv) i (by simp) hvi
      rw [hnone, Option.none_or, Option.none_or]
    · rw [if_neg hi, Option.none_or, Option.or_none, Option.or_assoc]

theorem outcome_of_satisfied {w : Walk} (h : w.satisfied = true) :
    w.outcome = .valid (w.captured.getD .null) := by
  rw [outcome, h]
  rfl

end Walk

theorem length_flatMap_reasons_le {ls : List Leaf} {os : List Outcome}
    (h : List.Forall₂ (fun l o ↦ o.reasons.length ≤ l.checkCount) ls os) :
    (os.flatMap Outcome.reasons).length ≤ (ls.map Leaf.checkCount).sum := by
  induction h with
  | nil => exact le_rfl
  | cons hlo _ ih =>
    rw [List.flatMap_cons, List.length_append, List.map_cons, List.sum_cons]
    exact Nat.add_le_add hlo ih

namespace Rule

variable {check : String → Run Value} {r : Rule}

theorem exists_outcomes (h : r.defect? = none) {o : Outcome}
    (ho : (r.apply check).result = .ok o) :
    ∃ os, List.Forall₂ (fun l o ↦ (l.apply check).result = .ok o) r.referenced os := by
  rw [apply_eq_referenced check h] at ho
  cases hos : (r.referenced.mapM (Leaf.apply check)).result with
  | ok os => exact ⟨os, Traced.mapM_eq_ok_iff.1 hos⟩
  | error f =>
    rw [Traced.bind_of_error hos] at ho
    cases ho

/-- If every leaf that the groups refer to has an outcome, then so has the rule. -/
theorem apply_of_outcomes (h : r.defect? = none) {os : List Outcome}
    (hos : List.Forall₂ (fun l o ↦ (l.apply check).result = .ok o) r.referenced os) :
    ∃ o, r.apply check = ⟨r.referenced.flatMap fun l ↦ (l.apply check).trail, .ok o⟩ ∧
      (∀ v, o = .valid v → chosen? r.capture (r.references.zip os) = some v) ∧
      (o.isValid = false →
        o.reasons = os.flatMap Outcome.reasons ∧ ∃ o' ∈ os, o'.isValid = false) := by
  let passes := passesLeaf (leafRuns check r.leaves)
  let walk := Walk.start.recordAll r.capture (r.references.zip os)
  have happly : r.apply check = ⟨r.referenced.flatMap fun l ↦ (l.apply check).trail,
      .ok (walk.judge (groupsHold passes [] r.groups)).outcome⟩ := by
    rw [apply_eq_referenced check h, Traced.mapM_of_ok hos]
    refine (Traced.bind_of_ok rfl _).trans ?_
    show (⟨_ ++ [], _⟩ : Run Outcome) = _
    rw [List.append_nil]
    rfl
  have hpasses : os.map Outcome.isValid = r.references.map passes := by
    refine map_isValid_of_mapM _ ?_
    rw [mapM_runLeaf check (map_referenced h), Traced.mapM_of_ok hos]
  have hlen : r.references.length = os.length := by
    simpa using (congrArg List.length hpasses).symm
  have hmem (b : Bool) (hb : ∃ i ∈ visitOrder [] r.groups, passes i = b) :
      ∃ o ∈ os, o.isValid = b := by
    rw [visitOrder_groups] at hb
    rwa [← List.mem_map, hpasses, List.mem_map]
  have hsatisfied : (walk.judge (groupsHold passes [] r.groups)).satisfied =
      groupsHold passes [] r.groups := by
    rw [Walk.judge, Walk.recordAll_satisfied]
    rfl
  refine ⟨_, happly, fun v hv ↦ ?_, fun hfails ↦ ?_⟩
  · have hholds : groupsHold passes [] r.groups = true := by
      rw [← hsatisfied, ← Walk.isValid_outcome, hv]
      rfl
    obtain ⟨hne, -⟩ := levelDefect?_eq_none_iff.1 (defect?_eq_none_iff.1 h).1
    obtain ⟨v', hv'⟩ := exists_chosen r.capture hlen
      (hmem true (exists_passes_of_groupsHold hne hholds))
    have hcaptured : walk.captured = chosen? r.capture (r.references.zip os) := by
      refine Walk.recordAll_captured ?_
      rw [List.map_fst_zip (Nat.le_of_eq hlen)]
      exact r.nodup_references
    have houtcome : (walk.judge (groupsHold passes [] r.groups)).outcome =
        .valid (walk.captured.getD .null) :=
      Walk.outcome_of_satisfied (hsatisfied.trans hholds)
    rw [houtcome, hcaptured, hv'] at hv
    rw [hv']
    exact congrArg Outcome.value? hv
  · rw [Walk.isValid_outcome] at hfails
    rw [Walk.reasons_outcome hfails]
    exact ⟨Walk.recordAll_zip_reasons _ _ hlen,
      hmem false (exists_fails_of_not_groupsHold (hsatisfied.symm.trans hfails))⟩

/-- The first leaf that fails ends the rule, whatever the outcomes of the leaves before it. -/
theorem apply_of_fault (h : r.defect? = none) {before after : List Leaf} {l : Leaf}
    {os : List Outcome} {f : Fault} (hsplit : r.referenced = before ++ l :: after)
    (hos : List.Forall₂ (fun l o ↦ (l.apply check).result = .ok o) before os)
    (hf : (l.apply check).result = .error f) :
    r.apply check = ⟨(before ++ [l]).flatMap fun l ↦ (l.apply check).trail, .error f⟩ := by
  rw [apply_eq_referenced check h, hsplit, Traced.mapM_of_error hos hf]
  exact Traced.bind_of_error rfl _

theorem exists_check_of_fault (h : r.defect? = none) {f : Fault}
    (hf : (r.apply check).result = .error f) : ∃ t ∈ r.checks, (check t).result = .error f := by
  induction r using rule_induction with
  | step r ih =>
    rw [apply_eq_referenced check h] at hf
    obtain ⟨l, hl, hlf⟩ := Traced.exists_of_mapM_eq_error (Traced.result_of_bind_pure hf)
    have hleaf := leaf_mem_of_referenced hl
    cases l with
    | check t =>
      obtain ⟨htf, -⟩ := settle_eq_error_iff.1 hlf
      exact ⟨t, mem_checks.2 ⟨_, hleaf, List.mem_singleton_self t⟩, htf⟩
    | nested s =>
      obtain ⟨t, ht, htf⟩ := ih s hleaf ((defect?_eq_none_iff.1 h).2 s hleaf) hlf
      exact ⟨t, mem_checks.2 ⟨_, hleaf, ht⟩, htf⟩

theorem length_reasons (h : r.defect? = none) {o : Outcome} (ho : (r.apply check).result = .ok o) :
    o.reasons.length ≤ r.checkCount ∧ (o.isValid = false → 1 ≤ o.reasons.length) := by
  induction r using rule_induction generalizing o with
  | step r ih =>
    have hleaf : ∀ l ∈ r.leaves, ∀ o, (l.apply check).result = .ok o →
        o.reasons.length ≤ l.checkCount ∧ (o.isValid = false → 1 ≤ o.reasons.length) := by
      intro l hl o ho
      cases l with
      | check t =>
        cases o with
        | valid v => exact ⟨Nat.zero_le _, nofun⟩
        | invalid rs =>
          obtain ⟨reason, -, rfl⟩ := settle_eq_invalid ho
          exact ⟨le_rfl, fun _ ↦ le_rfl⟩
      | nested t => exact ih t hl ((defect?_eq_none_iff.1 h).2 t hl) ho
    obtain ⟨os, hos⟩ := exists_outcomes h ho
    obtain ⟨o', ho', -, hfails⟩ := apply_of_outcomes h hos
    obtain rfl : o = o' := Except.ok.inj (ho.symm.trans (congrArg Traced.result ho'))
    have hbounds : List.Forall₂ (fun l o ↦ o.reasons.length ≤ l.checkCount ∧
        (o.isValid = false → 1 ≤ o.reasons.length)) r.referenced os :=
      ((List.forall₂_and_left _ _).2 ⟨fun l ↦ leaf_mem_of_referenced, hos⟩).imp
        fun l o hlo ↦ hleaf l hlo.1 o hlo.2
    cases hvalid : o.isValid with
    | true =>
      cases o with
      | valid v => exact ⟨Nat.zero_le _, nofun⟩
      | invalid rs => cases hvalid
    | false =>
      obtain ⟨hreasons, o', ho', hfails⟩ := hfails hvalid
      rw [hreasons]
      constructor
      · exact (length_flatMap_reasons_le (hbounds.imp fun _ _ hlo ↦ hlo.1)).trans
          (checkCount_referenced_le h)
      · intro _
        have hlen := forall_mem_of_forall₂ (hbounds.imp fun _ _ hlo ↦ hlo.2) o' ho' hfails
        obtain ⟨reason, hreason⟩ := List.exists_mem_of_length_pos hlen
        exact List.length_pos_of_mem (List.mem_flatMap.2 ⟨o', ho', hreason⟩)

end Rule

namespace Engine

variable (e : Engine) (scope : Scope) (input : Input)

/-- Applying any level of a structurally sound rule evaluates the leaves that its groups refer to,
each of them once, in the order in which they are first mentioned, up to the first that fails. Every
fault is that of a check, so no group ever meets a missing leaf. The value of a valid outcome is that
of a leaf that passed: of the captured one if it did, else of the first. -/
theorem applyIn_of_sound {r s : Rule} (h : r.defect? = none) (hs : s ∈ r.levels) :
    s.references.Nodup ∧ (∀ i, i ∈ s.references ↔ ∃ g ∈ s.groups, i ∈ g.leaves) ∧
    s.referenced.map some = s.references.map (s.leaves[·]?) ∧
    (∀ os, List.Forall₂ (fun l o ↦ (e.applyLeaf scope input l).result = .ok o) s.referenced os →
      ∃ o, e.applyIn scope s input =
          ⟨s.referenced.flatMap fun l ↦ (e.applyLeaf scope input l).trail, .ok o⟩ ∧
        (∀ v, o = .valid v → chosen? s.capture (s.references.zip os) = some v) ∧
        ∀ reasons, o = .invalid reasons → 1 ≤ reasons.length ∧ reasons.length ≤ s.checkCount) ∧
    (∀ (before after : List Leaf) (l : Leaf) (f : Fault), s.referenced = before ++ l :: after →
      (∀ l' ∈ before, ∃ o, (e.applyLeaf scope input l').result = .ok o) →
      (e.applyLeaf scope input l).result = .error f →
      e.applyIn scope s input =
        ⟨(before ++ [l]).flatMap fun l ↦ (e.applyLeaf scope input l).trail, .error f⟩) ∧
    ∀ f, (e.applyIn scope s input).result = .error f →
      ∃ t ∈ s.checks, (e.catalog.evaluate scope input t).result = .error f := by
  have hsound := Rule.defect?_of_levels h hs
  rw [applyLeaf_eq_apply]
  refine ⟨s.nodup_references, fun i ↦ Rule.mem_references, Rule.map_referenced hsound,
    fun os hos ↦ ?_, fun before after l f hsplit hbefore hf ↦ ?_,
    fun f hf ↦ Rule.exists_check_of_fault hsound hf⟩
  · obtain ⟨o, ho, hvalid, -⟩ := Rule.apply_of_outcomes hsound hos
    refine ⟨o, ho, hvalid, fun reasons hreasons ↦ ?_⟩
    obtain ⟨hle, hpos⟩ := Rule.length_reasons hsound (congrArg Traced.result ho)
    rw [hreasons] at hle hpos
    exact ⟨hpos rfl, hle⟩
  · obtain ⟨os, hos⟩ := Traced.exists_forall₂_ok hbefore
    exact Rule.apply_of_fault hsound hsplit hos hf

/-- The groups of the nested rule begin with its second leaf, name the third one twice and the last
one never. The captured third leaf prevails over the second, which passes first. -/
theorem applyIn_of_sound_reordered :
    ∃ o, (applyIn { catalog := .builtin } ⟨[], fun _ _ ↦ .fail exhausted⟩
        ⟨[.check "int", .check "str", .check "dict", .check "?["],
          [.combine .or 1 0, .combine .and 2 2], some 2⟩ (.raw "a==b")).result = .ok o ∧
      (∀ v, o = .valid v → v = .object [("a", .string "b")]) ∧ ∀ reasons, o = .invalid reasons → reasons ≠ [] := by
  let e : Engine := { catalog := .builtin }
  let scope : Scope := ⟨[], fun _ _ ↦ .fail exhausted⟩
  let s : Rule := ⟨[.check "int", .check "str", .check "dict", .check "?["],
    [.combine .or 1 0, .combine .and 2 2], some 2⟩
  have hsound : Rule.defect? ⟨[.check "str", .nested s], [.solo 1, .solo 1, .solo 0], none⟩ =
      none := rfl
  have hstr : (e.applyLeaf scope (.raw "a==b") (.check "str")).result =
      .ok (.valid (.string "a==b")) := by
    decide +kernel
  have hint : (e.applyLeaf scope (.raw "a==b") (.check "int")).result =
      .ok (.invalid [.unreadableInteger]) := by
    decide +kernel
  have hdict : (e.applyLeaf scope (.raw "a==b") (.check "dict")).result =
      .ok (.valid (.object [("a", .string "b")])) := by
    decide +kernel
  obtain ⟨-, -, -, hok, -, -⟩ := e.applyIn_of_sound scope (.raw "a==b") (s := s) hsound
    (List.mem_cons_of_mem _ List.mem_cons_self)
  obtain ⟨o, ho, hvalid, hinvalid⟩ := hok _ (.cons hstr (.cons hint (.cons hdict .nil)))
  refine ⟨o, congrArg Traced.result ho, fun v hv ↦ ?_, fun reasons hreasons ↦ ?_⟩
  · exact (Option.some.inj (hvalid v hv)).symm
  · exact List.ne_nil_of_length_pos (hinvalid reasons hreasons).1

end Engine

end Rulebook
