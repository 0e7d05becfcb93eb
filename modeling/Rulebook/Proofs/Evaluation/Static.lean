import Mathlib
import Rulebook.Proofs.Catalog.Builtin
import Rulebook.Proofs.Evaluation.Faults
import Rulebook.Proofs.Equality

namespace Rulebook

namespace RuleType

variable {type : RuleType} {scope : Scope} {input : Input}

/-- The function of a call exists and takes as many arguments. -/
def Answers (type : RuleType) (call : Call) : Prop :=
  ∃ function, type.function? call.name = some function ∧
    function.signature.checkCount function.name call.arguments.length = .ok ()

/-- The calls before it lead up to a call with an argument that cannot be read. -/
def Misreads (type : RuleType) (scope : Scope) (input : Input) (calls : List Call) (f : Fault) :
    Prop :=
  ∃ before call after function v w, calls = before ++ call :: after ∧
    (type.receive scope input).result = .ok v ∧ (type.applyCalls scope v before).result = .ok w ∧
    type.function? call.name = some function ∧
    function.signature.readAll function.name call.arguments = .error f

theorem checkCall_eq_ok_iff {call : Call} : type.checkCall call = .ok () ↔ type.Answers call := by
  rw [checkCall, bind_eq_ok_iff, Answers]
  simp only [resolve_eq_ok_iff]

theorem applyCall_eq_error_iff {v : Value} {call : Call} {f : Fault} (h : type.Answers call) :
    (type.applyCall scope v call).result = .error f ↔
      (∃ function, type.function? call.name = some function ∧
        function.signature.readAll function.name call.arguments = .error f) ∨
      type.CallFails scope v call f := by
  obtain ⟨function, hfunction, -⟩ := h
  constructor
  · intro hf
    rw [applyCall, bind_ofMistake_ok (resolve_eq_ok_iff.2 hfunction)] at hf
    obtain hread | ⟨arguments, hread, hf⟩ := Traced.bind_eq_error_iff.1 hf
    · exact .inl ⟨function, hfunction, hread⟩
    · exact .inr ⟨function, arguments, hfunction, hread, Traced.result_of_bind_pure hf⟩
  · intro hf
    obtain ⟨called, hcalled, hread⟩ | hf := hf
    · rw [applyCall, bind_ofMistake_ok (resolve_eq_ok_iff.2 hcalled), hread]
      rfl
    · exact hf.applyCall

theorem run_eq_error_iff {calls : List Call} {f : Fault} (h : ∀ call ∈ calls, type.Answers call) :
    (type.receive scope input >>= fun v ↦ type.applyCalls scope v calls).result = .error f ↔
      type.Misreads scope input calls f ∨ type.Raises scope input calls f := by
  constructor
  · intro hf
    obtain hf | ⟨v, hv, hf⟩ := Traced.bind_eq_error_iff.1 hf
    · exact .inr (raises_of_receive hf)
    · obtain ⟨before, call, after, w, rfl, hw, hf⟩ := applyCalls_eq_error_iff.1 hf
      obtain ⟨function, hfunction, hread⟩ | hf := (applyCall_eq_error_iff (h call (by simp))).1 hf
      · exact .inl ⟨before, call, after, function, v, w, rfl, hv, hw, hfunction, hread⟩
      · exact .inr (.function hv hw hf)
  · intro hf
    obtain ⟨before, call, after, function, v, w, rfl, hv, hw, hfunction, hread⟩ | hf := hf
    · have hcall : (type.applyCall scope w call).result = .error f :=
        (applyCall_eq_error_iff (h call (by simp))).2 (.inl ⟨function, hfunction, hread⟩)
      exact Traced.bind_eq_error_iff.2
        (.inr ⟨v, hv, applyCalls_eq_error_iff.2 ⟨before, call, after, w, rfl, hw, hcall⟩⟩)
    · exact hf.run

theorem Misreads.exists_absence {calls : List Call} {f : Fault}
    (hcalls : ∀ call ∈ calls, type.Answers call) (h : type.Misreads scope input calls f) :
    ∃ a, f = .absence a := by
  obtain ⟨before, call, after, function, v, w, rfl, -, -, hfunction, hread⟩ := h
  obtain ⟨answer, hanswer, hcount⟩ := hcalls call (by simp)
  obtain rfl : answer = function := Option.some.inj (hanswer.symm.trans hfunction)
  rw [Signature.readAll_of_count hcount] at hread
  obtain ⟨j, hj⟩ := Signature.readFrom_eq_error hread
  exact ⟨_, hj⟩

theorem NeverBlames.not_raises {calls : List Call} {m : Mistake} (h : type.NeverBlames scope) :
    ¬ type.Raises scope input calls (.mistake m) := by
  intro hm
  cases hm with
  | converter hm => exact h.converter _ m hm
  | function hv hw hm =>
    obtain ⟨f, arguments, hf, -, hm⟩ := hm
    exact h.function _ f hf _ arguments m hm

/-- What can go wrong with a check of a type if its calls have answers. -/
inductive Fails (type : RuleType) (scope : Scope) (input : Input) (calls : List Call) (f : Fault) :
    Prop
  | context (h : checkContext scope.context type.requires = .error f)
  | argument (hcontext : checkContext scope.context type.requires = .ok ())
      (h : type.Misreads scope input calls f)
  | closure (hcontext : checkContext scope.context type.requires = .ok ())
      (h : type.Raises scope input calls f)

theorem fails_iff {calls : List Call} {f : Fault} (h : ∀ call ∈ calls, type.Answers call) :
    (Traced.ofExcept (checkContext scope.context type.requires) >>= fun _ ↦
      type.receive scope input >>= fun v ↦ type.applyCalls scope v calls).result = .error f ↔
        type.Fails scope input calls f := by
  rw [Traced.bind_eq_error_iff]
  constructor
  · intro hf
    obtain hcontext | ⟨u, hcontext, hf⟩ := hf
    · exact .context hcontext
    · obtain hf | hf := (run_eq_error_iff h).1 hf
      · exact .argument hcontext hf
      · exact .closure hcontext hf
  · intro hf
    cases hf with
    | context hcontext => exact .inl hcontext
    | argument hcontext hf => exact .inr ⟨(), hcontext, (run_eq_error_iff h).2 (.inl hf)⟩
    | closure hcontext hf => exact .inr ⟨(), hcontext, hf.run⟩

theorem Fails.exists_absence {calls : List Call} {f : Fault}
    (hcalls : ∀ call ∈ calls, type.Answers call) (hblames : type.NeverBlames scope)
    (hinvalid : ∀ reason, f ≠ .invalid reason) (h : type.Fails scope input calls f) :
    ∃ a, f = .absence a := by
  cases h with
  | context h =>
    obtain ⟨key, -, rfl | rfl⟩ := checkContext_eq_error h
    · exact ⟨_, rfl⟩
    · exact ⟨_, rfl⟩
  | argument hcontext h => exact h.exists_absence hcalls
  | closure hcontext h =>
    cases f with
    | mistake m => exact absurd h hblames.not_raises
    | absence a => exact ⟨a, rfl⟩
    | invalid reason => exact absurd rfl (hinvalid reason)

end RuleType

namespace Catalog

variable {catalog : Catalog} {scope : Scope} {input : Input} {t : String} {f : Fault}

def Knows (catalog : Catalog) (t : String) : Prop :=
  ∃ check type, Check.read t = .ok check ∧ catalog.find? check.typeName = some type ∧
    ∀ call ∈ check.calls, type.Answers call

def NeverBlames (catalog : Catalog) (scope : Scope) : Prop :=
  ∀ name type, catalog.find? name = some type → type.NeverBlames scope

def Fails (catalog : Catalog) (scope : Scope) (input : Input) (t : String) (f : Fault) : Prop :=
  ∃ check type, Check.read t = .ok check ∧ catalog.find? check.typeName = some type ∧
    type.Fails scope input check.calls f

theorem check_eq_ok_iff : catalog.check t = .ok () ↔ catalog.Knows t := by
  rw [check, bind_eq_ok_iff]
  simp only [bind_eq_ok_iff, forM_eq_ok_iff, resolve_eq_ok_iff, RuleType.checkCall_eq_ok_iff]
  constructor
  · intro h
    obtain ⟨check, hread, type, htype, hcalls⟩ := h
    exact ⟨check, type, hread, htype, hcalls⟩
  · intro h
    obtain ⟨check, type, hread, htype, hcalls⟩ := h
    exact ⟨check, hread, type, htype, hcalls⟩

theorem Knows.answers (h : catalog.Knows t) {check : Check} {type : RuleType}
    (hread : Check.read t = .ok check) (htype : catalog.find? check.typeName = some type) :
    ∀ call ∈ check.calls, type.Answers call := by
  obtain ⟨check', type', hread', htype', hcalls⟩ := h
  obtain rfl := Except.ok.inj (hread.symm.trans hread')
  obtain rfl := Option.some.inj (htype.symm.trans htype')
  exact hcalls

theorem evaluate_eq_error_iff (h : catalog.Knows t) :
    (catalog.evaluate scope input t).result = .error f ↔ catalog.Fails scope input t f := by
  constructor
  · intro hf
    obtain ⟨check, type, hread, htype, hcalls⟩ := h
    rw [evaluate_eq hread htype] at hf
    exact ⟨check, type, hread, htype, (RuleType.fails_iff hcalls).1 hf⟩
  · intro hf
    obtain ⟨check, type, hread, htype, hf⟩ := hf
    rw [evaluate_eq hread htype]
    exact (RuleType.fails_iff (h.answers hread htype)).2 hf

end Catalog

namespace Engine

variable {e : Engine} {text : String} {r : Rule}

theorem knows_of_compile (h : (e.compile text).result = .ok r) :
    ∀ t ∈ r.checks, e.catalog.Knows t := by
  obtain ⟨-, -, hchecks⟩ := compile_eq_ok_iff.1 h
  intro t ht
  exact Catalog.check_eq_ok_iff.1 (hchecks t ht)

theorem fails_of_compile (h : (e.compile text).result = .ok r) {scope : Scope} {input : Input}
    {f : Fault} (hf : (e.applyIn scope r input).result = .error f) :
    ∃ t ∈ r.checks, e.catalog.Fails scope input t f := by
  have hsound := (canonical_of_compile h).defect?_eq_none
  obtain ⟨t, ht, htf⟩ := Rule.exists_check_of_fault hsound hf
  exact ⟨t, ht, (Catalog.evaluate_eq_error_iff (knows_of_compile h t ht)).1 htf⟩

theorem absent_of_compile (h : (e.compile text).result = .ok r) {scope : Scope} {input : Input}
    (hblames : e.catalog.NeverBlames scope) {f : Fault}
    (hf : (e.applyIn scope r input).result = .error f) :
    ∃ a, f = .absence a ∧ ∃ t ∈ r.checks, e.catalog.Fails scope input t (.absence a) := by
  obtain ⟨t, ht, htf⟩ := fails_of_compile h hf
  have hinvalid : ∀ reason, f ≠ .invalid reason := by
    rintro reason rfl
    exact r.apply_ne_invalid _ reason hf
  obtain ⟨check, type, hread, htype, hfails⟩ := htf
  have hcalls := (knows_of_compile h t ht).answers hread htype
  obtain ⟨a, rfl⟩ := hfails.exists_absence hcalls (hblames _ _ htype) hinvalid
  exact ⟨a, rfl, t, ht, check, type, hread, htype, hfails⟩

/-- Applying a compiled rule never finds fault with the rule if no converter and no function does:
its checks are known, its groups refer to leaves that exist, and all that can be wrong is that the
context, an argument, or a converter or function lacks data. -/
theorem apply_of_known (h : (e.compile text).result = .ok r) (context : Context) (input : Input) :
    (∀ t ∈ r.checks, e.catalog.Knows t) ∧ r.defect? = none ∧
    (e.catalog.NeverBlames (e.scopeFor context r.checks) →
      ∀ f, (e.apply context (.tree r) input).result = .error f → ∃ a, f = .absence a ∧
        ∃ t ∈ r.checks, e.catalog.Fails (e.scopeFor context r.checks) input t (.absence a)) ∧
    ∀ depth, e.catalog.NeverBlames ⟨context, e.applyWithin depth context⟩ →
      ∀ f, (e.applyWithin (depth + 1) context (.tree r) input).result = .error f →
        ∃ a, f = .absence a ∧ ∃ t ∈ r.checks,
          e.catalog.Fails ⟨context, e.applyWithin depth context⟩ input t (.absence a) := by
  have hsound := (canonical_of_compile h).defect?_eq_none
  have hobtain := obtain_tree_of_compile h
  refine ⟨knows_of_compile h, hsound, fun hblames f hf ↦ ?_, fun depth hblames f hf ↦ ?_⟩
  · rw [apply, applyWith_result_of_obtain hobtain] at hf
    exact absent_of_compile h hblames hf
  · rw [applyWithin, applyWith_result_of_obtain hobtain] at hf
    exact absent_of_compile h hblames hf

theorem apply_of_known_integers :
    ∃ f, (apply { catalog := Catalog.register [] Integer.type } []
        (.tree ⟨[.check "int[between(1,9)]", .nested ⟨[.check "int", .check "int[less(x)]"],
          [.combine .or 0 1], none⟩], [.combine .and 0 1], none⟩) (.raw "7")).result = .error f ∧
      ∃ a, f = .absence a := by
  let e : Engine := { catalog := Catalog.register [] Integer.type }
  have hcompile : (e.compile "int[between(1,9)] && (int || int[less(x)])").result =
      .ok ⟨[.check "int[between(1,9)]", .nested ⟨[.check "int", .check "int[less(x)]"],
        [.combine .or 0 1], none⟩], [.combine .and 0 1], none⟩ := by
    decide +kernel
  have hblames (scope : Scope) : e.catalog.NeverBlames scope := by
    intro name type htype
    rw [Catalog.find?_register, Catalog.find?_nil] at htype
    split at htype
    · cases htype
      exact Integer.neverBlames scope
    · cases htype
  obtain ⟨-, -, hfault, -⟩ := apply_of_known hcompile [] (.raw "7")
  have hf : (e.apply [] (.tree ⟨[.check "int[between(1,9)]", .nested ⟨[.check "int",
      .check "int[less(x)]"], [.combine .or 0 1], none⟩], [.combine .and 0 1], none⟩)
      (.raw "7")).result = .error (.absence (.argument "less" 0)) := by
    decide +kernel
  obtain ⟨a, ha, -⟩ := hfault (hblames _) _ hf
  exact ⟨_, hf, a, ha⟩

end Engine

end Rulebook
