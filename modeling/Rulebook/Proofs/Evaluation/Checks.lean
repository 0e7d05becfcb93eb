import Rulebook.Evaluation.Leaf
import Rulebook.Proofs.Evaluation.Runs
import Rulebook.Proofs.Results

namespace Rulebook

theorem Call.read_ne_unreadable (text : List Char) (e : ReadError) :
    Call.read text ≠ .error (.unreadable e) := by
  simp only [Call.read]
  split
  · exact nofun
  · split
    · exact nofun
    · split <;> exact nofun

theorem readTypeName_ne_unreadable (text : List Char) (e : ReadError) :
    readTypeName text ≠ .error (.unreadable e) := by
  simp only [readTypeName]
  split <;> exact nofun

theorem Check.read_ne_unreadable (t : String) (e : ReadError) :
    Check.read t ≠ .error (.unreadable e) := by
  intro h
  simp only [Check.read] at h
  split at h
  · obtain h | ⟨_, -, h⟩ := bind_eq_error_iff.1 h
    · exact readTypeName_ne_unreadable _ _ h
    · cases h
  · split at h
    · cases h
    · obtain h | ⟨_, -, h⟩ := bind_eq_error_iff.1 h
      · obtain ⟨part, -, h⟩ := exists_of_mapM_eq_error h
        exact Call.read_ne_unreadable _ _ h
      obtain h | ⟨_, -, h⟩ := bind_eq_error_iff.1 h
      · exact readTypeName_ne_unreadable _ _ h
      · cases h

theorem RuleType.checkCall_ne_unreadable (type : RuleType) (call : Call) (e : ReadError) :
    type.checkCall call ≠ .error (.unreadable e) := by
  intro h
  obtain h | ⟨f, -, h⟩ := bind_eq_error_iff.1 h
  · rw [RuleType.resolve] at h
    split at h <;> cases h
  · rw [Signature.checkCount.eq_def] at h
    split at h
    · split at h <;> cases h
    · cases h

namespace Catalog

variable {catalog : Catalog} {scope : Scope} {type : RuleType}

theorem check_ne_unreadable (catalog : Catalog) (t : String) (e : ReadError) :
    catalog.check t ≠ .error (.unreadable e) := by
  intro h
  obtain h | ⟨check, -, h⟩ := bind_eq_error_iff.1 h
  · exact Check.read_ne_unreadable t e h
  obtain h | ⟨type, -, h⟩ := bind_eq_error_iff.1 h
  · rw [resolve] at h
    split at h <;> cases h
  · obtain ⟨call, -, h⟩ := exists_of_forM_eq_error h
    exact type.checkCall_ne_unreadable call e h

theorem resolve_eq_ok_iff {name : String} :
    catalog.resolve name = .ok type ↔ catalog.find? name = some type := by
  rw [resolve]
  cases catalog.find? name <;> simp

theorem evaluate_eq {t : String} {check : Check} (hread : Check.read t = .ok check)
    (htype : catalog.find? check.typeName = some type) (input : Input) :
    catalog.evaluate scope input t = (do
      Traced.ofExcept (checkContext scope.context type.requires)
      let v ← type.receive scope input
      type.applyCalls scope v check.calls) := by
  rw [evaluate, bind_ofMistake_ok hread, bind_ofMistake_ok (resolve_eq_ok_iff.2 htype)]

end Catalog

namespace RuleType

def CallFails (type : RuleType) (scope : Scope) (v : Value) (call : Call) (f : Fault) : Prop :=
  ∃ function arguments, type.function? call.name = some function ∧
    function.signature.readAll function.name call.arguments = .ok arguments ∧
    (function.apply scope v arguments).result = .error f

/-- The converter fails, or the input is of a wrong kind, or a function fails on what the calls
before it made of the input. -/
inductive Raises (type : RuleType) (scope : Scope) : Input → List Call → Fault → Prop
  | converter {text : String} {calls : List Call} {f : Fault}
      (h : (type.convert scope text).result = .error f) : Raises type scope (.raw text) calls f
  | kind {v : Value} {calls : List Call} (h : v.kind ∉ type.accepts) :
      Raises type scope (.typed v) calls (.invalid (.wrongKind type.name))
  | function {input : Input} {before after : List Call} {call : Call} {v w : Value} {f : Fault}
      (hv : (type.receive scope input).result = .ok v)
      (hw : (type.applyCalls scope v before).result = .ok w) (h : type.CallFails scope w call f) :
      Raises type scope input (before ++ call :: after) f

end RuleType

theorem Signature.readFrom_eq_error {s : Signature} {function : String} {i : Nat}
    {arguments : List String} {f : Fault} (h : s.readFrom function i arguments = .error f) :
    ∃ j, f = .absence (.argument function j) := by
  induction arguments generalizing i with
  | nil => cases h
  | cons a as ih =>
    rw [readFrom] at h
    cases hv : (s.kindsAt i).findSome? (·.read? a) with
    | none =>
      rw [hv] at h
      cases h
      exact ⟨i, rfl⟩
    | some v =>
      rw [hv] at h
      cases hr : s.readFrom function (i + 1) as with
      | ok vs =>
        rw [hr] at h
        cases h
      | error f =>
        rw [hr] at h
        cases h
        exact ih hr

theorem Signature.readAll_of_count {s : Signature} {function : String} {arguments : List String}
    (h : s.checkCount function arguments.length = .ok ()) :
    s.readAll function arguments = s.readFrom function 0 arguments := by
  rw [readAll, h]

theorem Signature.readAll_ne_invalid (s : Signature) (function : String) (arguments : List String)
    (reason : Reason) : s.readAll function arguments ≠ .error (.invalid reason) := by
  cases hc : s.checkCount function arguments.length with
  | error m =>
    rw [readAll, hc]
    exact nofun
  | ok u =>
    rw [readAll_of_count hc]
    intro h
    obtain ⟨j, hj⟩ := readFrom_eq_error h
    cases hj

theorem checkContext_eq_error {context : Context} {requires : Directory (List Kind)} {f : Fault}
    (h : checkContext context requires = .error f) :
    ∃ key ∈ requires.keys, f = .absence (.contextKey key) ∨ f = .absence (.contextKind key) := by
  obtain ⟨⟨key, kinds⟩, hmem, hkey⟩ := exists_of_forM_eq_error h
  refine ⟨key, List.mem_map_of_mem hmem, ?_⟩
  change checkContextKey context key kinds = _ at hkey
  rw [checkContextKey] at hkey
  split at hkey
  · cases hkey
    exact .inl rfl
  · split at hkey
    · cases hkey
    · cases hkey
      exact .inr rfl

theorem checkContext_ne_invalid (context : Context) (requires : Directory (List Kind))
    (reason : Reason) : checkContext context requires ≠ .error (.invalid reason) := by
  intro h
  obtain ⟨key, -, h | h⟩ := checkContext_eq_error h
  · cases h
  · cases h

namespace RuleType

variable {type : RuleType} {scope : Scope}

theorem resolve_eq_ok_iff {name : String} {function : Function} :
    type.resolve name = .ok function ↔ type.function? name = some function := by
  rw [resolve]
  cases type.function? name <;> simp

theorem applyCall_of_function {v : Value} {c : Call} {f : Function} {arguments : List Value}
    (hf : type.function? c.name = some f)
    (hread : f.signature.readAll f.name c.arguments = .ok arguments) :
    type.applyCall scope v c = (do
      return (← f.apply scope v arguments).getD v) := by
  rw [applyCall, bind_ofMistake_ok (resolve_eq_ok_iff.2 hf), hread]
  exact Traced.bind_of_ok rfl _

theorem applyCalls_singleton (v : Value) (call : Call) :
    type.applyCalls scope v [call] = type.applyCall scope v call := bind_pure _

theorem CallFails.applyCall {v : Value} {call : Call} {f : Fault}
    (h : type.CallFails scope v call f) : (type.applyCall scope v call).result = .error f := by
  obtain ⟨function, arguments, hfunction, hread, hf⟩ := h
  rw [applyCall_of_function hfunction hread]
  exact Traced.bind_eq_error_iff.2 (.inl hf)

theorem applyCall_eq_invalid_iff {v : Value} {call : Call} {reason : Reason} :
    (type.applyCall scope v call).result = .error (.invalid reason) ↔
      type.CallFails scope v call (.invalid reason) := by
  refine ⟨fun h ↦ ?_, CallFails.applyCall⟩
  rw [applyCall] at h
  obtain h | ⟨function, hfunction, h⟩ := Traced.bind_eq_error_iff.1 h
  · exact absurd h (ofMistake_ne_invalid _ reason)
  obtain h | ⟨arguments, hread, h⟩ := Traced.bind_eq_error_iff.1 h
  · exact absurd h (Signature.readAll_ne_invalid _ _ _ reason)
  refine ⟨function, arguments, ?_, hread, Traced.result_of_bind_pure h⟩
  exact resolve_eq_ok_iff.1 (ofMistake_eq_ok_iff.1 hfunction)

theorem applyCalls_eq_error_iff {v : Value} {calls : List Call} {f : Fault} :
    (type.applyCalls scope v calls).result = .error f ↔
      ∃ before call after w, calls = before ++ call :: after ∧
        (type.applyCalls scope v before).result = .ok w ∧
        (type.applyCall scope w call).result = .error f := by
  constructor
  · intro h
    induction calls generalizing v with
    | nil => cases h
    | cons call calls ih =>
      obtain h | ⟨v', hv', h⟩ := Traced.bind_eq_error_iff.1 h
      · exact ⟨[], call, calls, v, rfl, rfl, h⟩
      · obtain ⟨before, call', after, w, rfl, hw, hf⟩ := ih h
        exact ⟨call :: before, call', after, w, rfl, Traced.bind_eq_ok_iff.2 ⟨v', hv', hw⟩, hf⟩
  · rintro ⟨before, call, after, w, rfl, hw, hf⟩
    induction before generalizing v with
    | nil =>
      cases hw
      exact Traced.bind_eq_error_iff.2 (.inl hf)
    | cons call' before ih =>
      obtain ⟨v', hv', hw⟩ := Traced.bind_eq_ok_iff.1 hw
      exact Traced.bind_eq_error_iff.2 (.inr ⟨v', hv', ih hw⟩)

theorem raises_of_receive {input : Input} {calls : List Call} {f : Fault}
    (h : (type.receive scope input).result = .error f) : type.Raises scope input calls f := by
  cases input with
  | raw text => exact .converter h
  | typed v =>
    rw [RuleType.receive] at h
    split at h
    · cases h
    · rename_i hkind
      cases h
      exact .kind (by simpa using hkind)

theorem Raises.run {input : Input} {calls : List Call} {f : Fault}
    (h : type.Raises scope input calls f) :
    (type.receive scope input >>= fun v ↦ type.applyCalls scope v calls).result = .error f := by
  refine Traced.bind_eq_error_iff.2 ?_
  cases h with
  | converter h => exact .inl h
  | @kind v _ h =>
    refine .inl ?_
    rw [RuleType.receive, if_neg (by simpa using h)]
    rfl
  | function hv hw h =>
    exact .inr ⟨_, hv, applyCalls_eq_error_iff.2 ⟨_, _, _, _, rfl, hw, h.applyCall⟩⟩

theorem raises_invalid_iff {input : Input} {calls : List Call} {reason : Reason} :
    (type.receive scope input >>= fun v ↦ type.applyCalls scope v calls).result =
      .error (.invalid reason) ↔ type.Raises scope input calls (.invalid reason) := by
  refine ⟨fun h ↦ ?_, Raises.run⟩
  obtain h | ⟨v, hv, h⟩ := Traced.bind_eq_error_iff.1 h
  · exact raises_of_receive h
  · obtain ⟨before, call, after, w, rfl, hw, hf⟩ := applyCalls_eq_error_iff.1 h
    exact .function hv hw (applyCall_eq_invalid_iff.1 hf)

end RuleType

theorem Catalog.evaluate_eq_invalid_iff {catalog : Catalog} {scope : Scope} {input : Input}
    {t : String} {reason : Reason} :
    (catalog.evaluate scope input t).result = .error (.invalid reason) ↔
      ∃ check type, Check.read t = .ok check ∧ catalog.find? check.typeName = some type ∧
        checkContext scope.context type.requires = .ok () ∧
        type.Raises scope input check.calls (.invalid reason) := by
  constructor
  · intro h
    rw [evaluate] at h
    obtain h | ⟨check, hread, h⟩ := Traced.bind_eq_error_iff.1 h
    · exact absurd h (ofMistake_ne_invalid _ reason)
    obtain h | ⟨type, htype, h⟩ := Traced.bind_eq_error_iff.1 h
    · exact absurd h (ofMistake_ne_invalid _ reason)
    obtain h | ⟨u, hcontext, h⟩ := Traced.bind_eq_error_iff.1 h
    · exact absurd h (checkContext_ne_invalid _ _ reason)
    refine ⟨check, type, ofMistake_eq_ok_iff.1 hread, ?_, hcontext, RuleType.raises_invalid_iff.1 h⟩
    exact resolve_eq_ok_iff.1 (ofMistake_eq_ok_iff.1 htype)
  · rintro ⟨check, type, hread, htype, hcontext, h⟩
    rw [evaluate_eq hread htype, hcontext]
    exact Traced.bind_eq_error_iff.2 (.inr ⟨(), rfl, RuleType.raises_invalid_iff.2 h⟩)

end Rulebook
