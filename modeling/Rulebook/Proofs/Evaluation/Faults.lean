import Mathlib
import Rulebook.Catalog.Builtin
import Rulebook.Pattern.Matching
import Rulebook.Proofs.Evaluation.Checks
import Rulebook.Proofs.Evaluation.Sound
import Rulebook.Proofs.Evaluation.Sources
import Rulebook.Proofs.Equality

namespace Rulebook

mutual

/-- The texts of the checks that are evaluated, in order, as long as none of them ends the rule. -/
def Rule.evaluated : Rule → List String
  | ⟨leaves, groups, capture⟩ =>
    (Rule.references ⟨leaves, groups, capture⟩).flatMap fun i ↦ ((evaluatedIn leaves)[i]?).getD []

def Leaf.evaluated : Leaf → List String
  | .check t => [t]
  | .nested r => r.evaluated

def evaluatedIn : List Leaf → List (List String)
  | [] => []
  | l :: ls => l.evaluated :: evaluatedIn ls

end

def Run.Settles (r : Run Value) : Prop :=
  (∃ v, r.result = .ok v) ∨ ∃ reason, r.result = .error (.invalid reason)

/-- The first of some checks that neither passes nor finds the input invalid fails with `f`. -/
def FirstFault (check : String → Run Value) (ts : List String) (f : Fault) : Prop :=
  ∃ before t after, ts = before ++ t :: after ∧ (∀ s ∈ before, (check s).Settles) ∧
    (check t).result = .error f ∧ ∀ reason, f ≠ .invalid reason

theorem evaluatedIn_eq_map (ls : List Leaf) : evaluatedIn ls = ls.map Leaf.evaluated := by
  induction ls with
  | nil => rfl
  | cons l ls ih => rw [evaluatedIn, ih, List.map_cons]

theorem exists_settle_iff {r : Run Value} : (∃ o, r.settle.result = .ok o) ↔ r.Settles := by
  rw [Run.settle, Run.Settles]
  obtain ⟨trail, result⟩ := r
  cases result with
  | ok v => simp
  | error f => cases f <;> simp

namespace Rule

variable {r : Rule}

theorem evaluated_eq (r : Rule) : r.evaluated = r.referenced.flatMap Leaf.evaluated := by
  obtain ⟨ls, gs, capture⟩ := r
  rw [evaluated, evaluatedIn_eq_map, referenced]
  show _ = ((references ⟨ls, gs, capture⟩).filterMap (ls[·]?)).flatMap Leaf.evaluated
  induction references ⟨ls, gs, capture⟩ with
  | nil => rfl
  | cons i is ih =>
    rw [List.flatMap_cons, ih, List.getElem?_map]
    cases hl : ls[i]? with
    | none => rw [List.filterMap_cons_none hl]; rfl
    | some l => rw [List.filterMap_cons_some hl]; rfl

theorem mem_checks_of_evaluated {t : String} (h : t ∈ r.evaluated) : t ∈ r.checks := by
  induction r using rule_induction with
  | step r ih =>
    rw [evaluated_eq] at h
    obtain ⟨l, hl, ht⟩ := List.mem_flatMap.1 h
    have hleaf := leaf_mem_of_referenced hl
    refine mem_checks.2 ⟨l, hleaf, ?_⟩
    cases l with
    | check t' => exact ht
    | nested s => exact ih s hleaf ht

theorem forget_apply (check : String → Run Value) (h : r.defect? = none) :
    (r.apply check).forget = (r.evaluated.mapM fun t ↦ (check t).settle).forget := by
  induction r using rule_induction with
  | step r ih =>
    -- judging the groups, which comes last, adds no event and no fault
    rw [apply_eq_referenced check h, Traced.forget_bind_pure, evaluated_eq]
    refine Traced.forget_mapM_flatMap fun l hl ↦ ?_
    cases l with
    | check t =>
      rw [Leaf.evaluated, List.mapM_cons, List.mapM_nil]
      exact (Traced.forget_bind_pure _ _).symm
    | nested s =>
      have hs := leaf_mem_of_referenced hl
      exact ih s hs ((defect?_eq_none_iff.1 h).2 s hs)

theorem apply_eq_error_iff {check : String → Run Value} (h : r.defect? = none) {f : Fault} :
    (r.apply check).result = .error f ↔ FirstFault check r.evaluated f := by
  rw [← Traced.forget_result_eq_error_iff, forget_apply check h, Traced.forget_result_eq_error_iff,
    Traced.mapM_eq_error_iff, FirstFault]
  simp only [exists_settle_iff, settle_eq_error_iff]

theorem Canonical.evaluated_eq_checks (h : r.Canonical) : r.evaluated = r.checks := by
  induction r using rule_induction with
  | step r ih =>
    obtain ⟨hlevel, hnested⟩ := canonical_iff.1 h
    obtain ⟨cs, hlen, hgroups⟩ := isChain_iff.1 hlevel.chain
    have hall : r.referenced = r.leaves := by
      refine List.map_injective_iff.2 (Option.some_injective Leaf) ?_
      rw [map_referenced h.defect?_eq_none, ← visitOrder_groups, hgroups, visitOrder_groupsOf, hlen,
        map_range_getElem?]
    have hleaves : ∀ ls : List Leaf, ls ⊆ r.leaves → ls.flatMap Leaf.evaluated = checksIn ls := by
      intro ls hls
      induction ls with
      | nil => rfl
      | cons l ls ihls =>
        obtain ⟨hl, hls⟩ := List.cons_subset.1 hls
        rw [List.flatMap_cons, checksIn, ihls hls]
        cases l with
        | check t => rfl
        | nested s => rw [Leaf.evaluated, Leaf.checks, ih s hl (hnested s hl)]
    rw [evaluated_eq, hall, checks_eq]
    exact hleaves r.leaves (List.Subset.refl _)

end Rule

namespace Engine

/-- What becomes of the faults that are met when a rule is applied. -/
structure FaultLaw (e : Engine) (scope : Scope) (r : Rule) (input : Input) : Prop where
  first_fault : ∀ f, (e.applyIn scope r input).result = .error f ↔
    FirstFault (e.catalog.evaluate scope input) r.evaluated f
  becomes_reason : ∀ t reason,
    (e.applyLeaf scope input (.check t)).result = .ok (.invalid [reason]) ↔
      ∃ check type, Check.read t = .ok check ∧ e.catalog.find? check.typeName = some type ∧
        checkContext scope.context type.requires = .ok () ∧
        type.Raises scope input check.calls (.invalid reason)
  spares_siblings : ∀ s ∈ r.levels, ∀ os,
    List.Forall₂ (fun l o ↦ (e.applyLeaf scope input l).result = .ok o) s.referenced os →
      ∃ o, e.applyIn scope s input =
          ⟨s.referenced.flatMap fun l ↦ (e.applyLeaf scope input l).trail, .ok o⟩ ∧
        (o.isValid = false → o.reasons = os.flatMap Outcome.reasons)

variable {e : Engine} {source : Source} {r : Rule}

theorem obtain_ne_invalid (e : Engine) (source : Source) (reason : Reason) :
    (e.obtain source).result ≠ .error (.invalid reason) := by
  cases source with
  | text text =>
    intro h
    obtain h | ⟨rule, -, h⟩ := Traced.bind_eq_error_iff.1 h
    · exact ofMistake_ne_invalid _ reason h
    obtain h | ⟨_, -, h⟩ := Traced.bind_eq_error_iff.1 h
    · rw [admitMixed] at h
      split at h
      · split at h <;> cases h
      · cases h
    obtain h | ⟨_, -, h⟩ := Traced.bind_eq_error_iff.1 h
    · exact ofMistake_ne_invalid _ reason h
    cases h
  | tree r =>
    rw [obtain]
    split <;> rintro ⟨⟩

theorem applyWith_result_of_obtain (h : (e.obtain source).result = .ok r) (scopes : Rule → Scope)
    (input : Input) :
    (e.applyWith scopes source input).result = (e.applyIn (scopes r) r input).result := by
  rw [applyWith, Traced.bind_of_ok h]
  show (e.applyIn (scopes r) r input >>= _).result = _
  cases ho : (e.applyIn (scopes r) r input).result with
  | ok o => rw [Traced.bind_of_ok ho]; rfl
  | error f => rw [Traced.bind_of_error ho]

theorem apply_result_of_compile {text : String} (h : (e.compile text).result = .ok r)
    (context : Context) (input : Input) : (e.apply context (.text text) input).result =
      (e.applyIn (e.scopeFor context r.checks) r input).result := by
  have hobtain : (e.obtain (.text text)).result = .ok r := h
  exact applyWith_result_of_obtain hobtain _ input

theorem applyWith_ne_invalid (scopes : Rule → Scope) (source : Source) (input : Input)
    (reason : Reason) : (e.applyWith scopes source input).result ≠ .error (.invalid reason) := by
  cases hr : (e.obtain source).result with
  | ok r =>
    rw [applyWith_result_of_obtain hr]
    exact r.apply_ne_invalid _ reason
  | error f =>
    rw [applyWith, Traced.bind_of_error hr]
    rintro ⟨⟩
    exact obtain_ne_invalid e source reason hr

theorem faultLaw (e : Engine) (scope : Scope) (h : r.defect? = none) (input : Input) :
    e.FaultLaw scope r input where
  first_fault _ := Rule.apply_eq_error_iff h
  becomes_reason t reason := by
    rw [← Catalog.evaluate_eq_invalid_iff]
    constructor
    · intro ht
      obtain ⟨reason', hreason, hreasons⟩ := settle_eq_invalid ht
      obtain rfl : reason = reason' := by simpa using hreasons
      exact hreason
    · intro ht
      rw [applyLeaf, Run.settle, ht]
  spares_siblings s hs os hos := by
    rw [applyLeaf_eq_apply] at hos ⊢
    obtain ⟨o, ho, -, hreasons⟩ := Rule.apply_of_outcomes (Rule.defect?_of_levels h hs) hos
    exact ⟨o, ho, fun hfails ↦ (hreasons hfails).1⟩

/-- Applying a rule never fails because the input is invalid, and neither do the rules that its
converters and functions apply. A rule that cannot be obtained fails as obtaining it does. Any other
fails with its first fault, in the order of its checks, that is not about the input. -/
theorem apply_faults (e : Engine) (context : Context) (source : Source) (input : Input) :
    (∀ reason, (e.apply context source input).result ≠ .error (.invalid reason)) ∧
    (∀ depth reason,
      (e.applyWithin depth context source input).result ≠ .error (.invalid reason)) ∧
    (∀ f, (e.obtain source).result = .error f →
      (e.apply context source input).result = .error f ∧
      ∀ depth, (e.applyWithin (depth + 1) context source input).result = .error f) ∧
    ∀ r, (e.obtain source).result = .ok r →
      (∀ text, source = .text text → r.evaluated = r.checks) ∧
      (e.apply context source input).result =
        (e.applyIn (e.scopeFor context r.checks) r input).result ∧
      (∀ depth, (e.applyWithin (depth + 1) context source input).result =
        (e.applyIn ⟨context, e.applyWithin depth context⟩ r input).result) ∧
      ∀ scope, e.FaultLaw scope r input := by
  refine ⟨applyWith_ne_invalid _ source input, fun depth ↦ ?_, fun f hf ↦ ?_, fun r hr ↦ ?_⟩
  · cases depth with
    | zero =>
      -- out of depth, the fault is that data is absent
      rintro reason ⟨⟩
    | succ depth => exact applyWith_ne_invalid _ source input
  · have hfault (scopes : Rule → Scope) : (e.applyWith scopes source input).result = .error f :=
      congrArg Traced.result (Traced.bind_of_error hf _)
    exact ⟨hfault _, fun _ ↦ hfault _⟩
  · refine ⟨?_, applyWith_result_of_obtain hr _ input,
      fun _ ↦ applyWith_result_of_obtain hr _ input,
      fun scope ↦ e.faultLaw scope (defect?_of_obtain hr) input⟩
    rintro text rfl
    exact (canonical_of_compile hr).evaluated_eq_checks

theorem apply_faults_nested :
    (apply { catalog := .builtin } [] (.text "int[less(5)] && (str || int[less(x)])")
      (.raw "7")).result = .error (.absence (.argument "less" 0)) := by
  let e : Engine := { catalog := .builtin }
  let r : Rule := ⟨[.check "int[less(5)]", .nested ⟨[.check "str", .check "int[less(x)]"],
    [.combine .or 0 1], none⟩], [.combine .and 0 1], none⟩
  have hcompile : (e.obtain (.text "int[less(5)] && (str || int[less(x)])")).result = .ok r := by
    decide +kernel
  let evaluate (t : String) := Catalog.builtin.evaluate (e.scopeFor [] r.checks) (.raw "7") t
  have hless : (evaluate "int[less(5)]").result = .error (.invalid (.notLess 5)) := by
    decide +kernel
  have hstr : (evaluate "str").result = .ok (.string "7") := by decide +kernel
  have hfault : (evaluate "int[less(x)]").result = .error (.absence (.argument "less" 0)) := by
    decide +kernel
  obtain ⟨-, -, -, hok⟩ := apply_faults e []
    (.text "int[less(5)] && (str || int[less(x)])") (.raw "7")
  obtain ⟨horder, hresult, -, hlaw⟩ := hok _ hcompile
  rw [hresult, (hlaw _).first_fault, horder _ rfl]
  refine ⟨["int[less(5)]", "str"], "int[less(x)]", [], rfl, ?_, hfault, by simp⟩
  exact List.forall_mem_cons.2 ⟨.inr ⟨_, hless⟩, List.forall_mem_singleton.2 (.inl ⟨_, hstr⟩)⟩

end Engine

end Rulebook
