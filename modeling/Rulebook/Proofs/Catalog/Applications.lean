import Rulebook.Proofs.Catalog.Builtin
import Rulebook.Proofs.Check.Carrying
import Rulebook.Proofs.Evaluation.Simulation

namespace Rulebook

open Text

structure Application where
  rule : String
  input : Input

def Application.run (a : Application) (scope : Scope) : Run Outcome :=
  scope.apply (.text a.rule) a.input

namespace Run.Isolated

variable {α β : Type} {run : Scope → Run α} {next : α → Scope → Run β}

theorem bind (h : Run.Isolated run) (hnext : ∀ a, Run.Isolated (next a)) :
    Run.Isolated fun scope ↦ run scope >>= fun a ↦ next a scope where
  silent scope := Traced.trail_bind_of_silent (h.silent scope) fun a ↦ (hnext a).silent scope
  same scope scope' := by
    rw [h.same scope scope']
    exact Traced.bind_congr fun a _ ↦ (hnext a).same scope scope'

theorem of_silent {r : Run α} (h : r.trail = []) : Run.Isolated fun _ ↦ r :=
  ⟨fun _ ↦ h, fun _ _ ↦ rfl⟩

end Run.Isolated

theorem Simulation.isolated {R : (α : Type) → Run α → Run α → Prop} (hR : Simulation R) {α : Type}
    {run : Scope → Run α} (h : Run.Isolated run) (scope scope' : Scope) :
    R α (run scope) (run scope') := by
  have hrun : run scope = .ofExcept (run scope).result := by
    rw [Traced.ofExcept, ← h.silent scope]
  rw [← h.same scope scope', hrun]
  exact hR.silent _

namespace RuleType

variable {type : RuleType}

theorem receive_isolated (h : ∀ text, Run.Isolated fun scope ↦ type.convert scope text)
    (input : Input) : Run.Isolated fun scope ↦ type.receive scope input := by
  cases input with
  | raw text => exact h text
  | typed v =>
    refine .of_silent ?_
    show (if type.accepts.contains v.kind then Traced.pure v
      else Run.reject (.wrongKind type.name)).trail = []
    split <;> rfl

namespace Isolated

theorem applyCall (h : type.Isolated) (v : Value) (call : Call) :
    Run.Isolated fun scope ↦ type.applyCall scope v call := by
  cases hf : type.resolve call.name with
  | error m =>
    simp only [RuleType.applyCall, hf]
    exact .of_silent rfl
  | ok f =>
    simp only [RuleType.applyCall, bind_ofMistake_ok hf]
    refine .bind (.of_silent rfl) fun arguments ↦ ?_
    exact .bind (h.function _ f (resolve_eq_ok_iff.1 hf) v arguments) fun next ↦ .of_silent rfl

theorem applyCalls (h : type.Isolated) (v : Value) (calls : List Call) :
    Run.Isolated fun scope ↦ type.applyCalls scope v calls := by
  induction calls generalizing v with
  | nil => exact .of_silent rfl
  | cons call calls ih => exact .bind (h.applyCall v call) ih

end Isolated

end RuleType

namespace Dict

variable {R : (α : Type) → Run α → Run α → Prop} {p : Part} {run run' : Input → Run Outcome}
  {scope scope' : Scope} {v : Value} {call : Call} {calls : List Call} {a : Application}

namespace Part

def inputs (p : Part) (run : Input → Run Outcome) : Value → List Input
  | .object entries =>
    (Traced.reached (p.pass run) entries).map fun entry ↦ .ofValue (p.subject entry)
  | _ => []

theorem simulate (hR : Simulation R)
    (h : ∀ input ∈ p.inputs run v, R Outcome (run input) (run' input)) :
    R Value (p.apply run v) (p.apply run' v) := by
  cases v with
  | object entries =>
    rw [apply_object, apply_object]
    refine hR.bind_pure (hR.mapM fun entry hentry ↦ ?_) _
    refine hR.bind (h _ (List.mem_map_of_mem hentry)) fun o _ _ ↦ ?_
    cases o with
    | valid w => exact hR.silent (.ok _)
    | invalid reasons => exact hR.silent (.error _)
  | _ => exact hR.silent (.error (.invalid .notDict))

theorem trail_apply (p : Part) (run : Input → Run Outcome) (v : Value) :
    (p.apply run v).trail = (p.inputs run v).flatMap fun input ↦ (run input).trail := by
  cases v with
  | object entries =>
    have htrail := congrArg Traced.trail (Traced.forget_bind_pure (entries.mapM (p.pass run))
      fun passed ↦ Value.object (Fields.ofList passed))
    rw [apply_object, inputs, List.flatMap_map]
    refine Eq.trans htrail ((Traced.trail_mapM _ _).trans ?_)
    simp only [trail_pass]
  | _ => rfl

def ofName? (name : String) : Option Part :=
  if lower name = "value" then some .value else if lower name = "key" then some .key else none

end Part

theorem applyCall_eq (scope : Scope) (v : Value) (call : Call) : type.applyCall scope v call =
    match Part.ofName? call.name with
    | some p => p.apply (scope.apply (.text (",".intercalate call.arguments))) v
    | none => .fail (.mistake (.unknownFunction call.name "dict")) := by
  have hrule : ruleOf (call.arguments.map .string) = ",".intercalate call.arguments := by
    rw [ruleOf, filterMap_string]
  have hcall {f : Function} (hf : type.function? call.name = some f)
      (hs : f.signature = .variadic .string) : type.applyCall scope v call = (do
        let next ← f.apply scope v (call.arguments.map .string)
        return next.getD v) :=
    RuleType.applyCall_of_function hf (by rw [hs, Signature.readAll_strings])
  have hresult (r : Run Value) : (some <$> r >>= fun next ↦ Pure.pure (next.getD v)) = r := by
    rw [bind_map_left]
    exact bind_pure r
  by_cases hvalue : lower call.name = "value"
  · have hf := (function?_eq call.name).trans (if_pos hvalue)
    rw [hcall hf rfl, Part.ofName?, if_pos hvalue]
    show (value scope v _ >>= _) = _
    rw [value_eq, hrule, hresult]
  · by_cases hkey : lower call.name = "key"
    · have hf := (function?_eq call.name).trans ((if_neg hvalue).trans (if_pos hkey))
      rw [hcall hf rfl, Part.ofName?, if_neg hvalue, if_pos hkey]
      show (key scope v _ >>= _) = _
      rw [key_eq, hrule, hresult]
    · have hf := (function?_eq call.name).trans ((if_neg hvalue).trans (if_neg hkey))
      rw [RuleType.applyCall, RuleType.resolve, hf, Part.ofName?, if_neg hvalue, if_neg hkey]
      rfl

def applicationsOf (scope : Scope) (v : Value) (call : Call) : List Application :=
  match Part.ofName? call.name with
  | some p =>
    let rule := ",".intercalate call.arguments
    (p.inputs (scope.apply (.text rule)) v).map (Application.mk rule)
  | none => []

/-- The rules that calls apply, one call after another, as long as none fails. -/
def applicationsFrom (scope : Scope) (v : Value) : List Call → List Application
  | [] => []
  | call :: calls => applicationsOf scope v call ++
    match (type.applyCall scope v call).result with
    | .ok w => applicationsFrom scope w calls
    | .error _ => []

theorem applicationsFrom_of_ok {w : Value} (h : (type.applyCall scope v call).result = .ok w) :
    applicationsFrom scope v (call :: calls) =
      applicationsOf scope v call ++ applicationsFrom scope w calls := by
  rw [applicationsFrom, h]

theorem applicationsFrom_of_error {f : Fault}
    (h : (type.applyCall scope v call).result = .error f) :
    applicationsFrom scope v (call :: calls) = applicationsOf scope v call := by
  rw [applicationsFrom, h]
  exact List.append_nil _

theorem simulate_call (hR : Simulation R)
    (h : ∀ a ∈ applicationsOf scope v call, R Outcome (a.run scope) (a.run scope')) :
    R Value (type.applyCall scope v call) (type.applyCall scope' v call) := by
  rw [applyCall_eq, applyCall_eq]
  rw [applicationsOf] at h
  cases hp : Part.ofName? call.name with
  | none => exact hR.silent (.error _)
  | some p =>
    rw [hp] at h
    exact Part.simulate hR fun input hinput ↦ h _ (List.mem_map_of_mem hinput)

theorem simulate_calls (hR : Simulation R)
    (h : ∀ a ∈ applicationsFrom scope v calls, R Outcome (a.run scope) (a.run scope')) :
    R Value (type.applyCalls scope v calls) (type.applyCalls scope' v calls) := by
  induction calls generalizing v with
  | nil => exact hR.pure v
  | cons call calls ih =>
    refine hR.bind (simulate_call hR fun a ha ↦ h a (List.mem_append_left _ ha)) fun w hw _ ↦ ?_
    refine ih fun a ha ↦ h a ?_
    rw [applicationsFrom_of_ok hw]
    exact List.mem_append_right _ ha

theorem trail_applyCall (scope : Scope) (v : Value) (call : Call) :
    (type.applyCall scope v call).trail =
      (applicationsOf scope v call).flatMap fun a ↦ (a.run scope).trail := by
  rw [applyCall_eq, applicationsOf]
  cases Part.ofName? call.name with
  | none => rfl
  | some p =>
    refine (Part.trail_apply ..).trans ?_
    rw [List.flatMap_map]
    rfl

theorem trail_applyCalls (scope : Scope) (v : Value) (calls : List Call) :
    (type.applyCalls scope v calls).trail =
      (applicationsFrom scope v calls).flatMap fun a ↦ (a.run scope).trail := by
  induction calls generalizing v with
  | nil => rfl
  | cons call calls ih =>
    rw [RuleType.applyCalls]
    cases hw : (type.applyCall scope v call).result with
    | ok w =>
      rw [Traced.bind_of_ok hw, applicationsFrom_of_ok hw, List.flatMap_append, trail_applyCall,
        ih w]
    | error f =>
      rw [Traced.bind_of_error hw, applicationsFrom_of_error hw, trail_applyCall]

theorem exists_call_of_mem (h : a ∈ applicationsFrom scope v calls) :
    ∃ call ∈ calls, a.rule = ",".intercalate call.arguments := by
  induction calls generalizing v with
  | nil => cases h
  | cons call calls ih =>
    obtain h | h := List.mem_append.1 h
    · refine ⟨call, List.mem_cons_self, ?_⟩
      rw [applicationsOf] at h
      split at h
      · obtain ⟨input, -, rfl⟩ := List.mem_map.1 h
        rfl
      · cases h
    · split at h
      · obtain ⟨call', hcall, hrule⟩ := ih h
        exact ⟨call', List.mem_cons_of_mem call hcall, hrule⟩
      · cases h

theorem convert_isolated (text : String) : Run.Isolated fun scope ↦ type.convert scope text :=
  .of_plain (fun scope ↦ convert_plain scope text) fun _ _ ↦ rfl

end Dict

/-- The rules that a check applies when it is evaluated, in order. -/
def applications (scope : Scope) (input : Input) (text : String) : List Application :=
  match Check.read text with
  | .error _ => []
  | .ok check =>
    if lower check.typeName = "dict" then
      match (Dict.type.receive scope input).result with
      | .ok v => Dict.applicationsFrom scope v check.calls
      | .error _ => []
    else []

/-- Dictionaries are there as they are built in, and every other type is isolated. -/
structure Catalog.Closed (catalog : Catalog) : Prop where
  dict : ∀ name, lower name = "dict" → catalog.find? name = some Dict.type
  isolated : ∀ name type, lower name ≠ "dict" → catalog.find? name = some type → type.Isolated

theorem Catalog.closed_builtin [PatternLibrary] : builtin.Closed where
  dict _ h := find?_builtin.2 (.inr (.inr (.inr (.inr ⟨h, rfl⟩))))
  isolated name type hname h := by
    obtain ⟨-, rfl⟩ | ⟨-, rfl⟩ | ⟨-, rfl⟩ | ⟨-, rfl⟩ | ⟨hdict, -⟩ := find?_builtin.1 h
    · exact Str.isolated
    · exact Integer.isolated
    · exact Truth.isolated
    · exact Url.isolated
    · exact absurd hdict hname

section Evaluation

variable {catalog : Catalog} {scope scope' : Scope} {input : Input} {t : String} {check : Check}
  {a : Application}

theorem applications_of_error {m : Mistake} (hread : Check.read t = .error m) :
    applications scope input t = [] := by
  rw [applications, hread]

theorem applications_of_ne_dict (hread : Check.read t = .ok check)
    (hname : lower check.typeName ≠ "dict") : applications scope input t = [] := by
  rw [applications, hread]
  exact if_neg hname

theorem applications_of_dict (hread : Check.read t = .ok check)
    (hname : lower check.typeName = "dict") : applications scope input t =
      match (Dict.type.receive scope input).result with
      | .ok v => Dict.applicationsFrom scope v check.calls
      | .error _ => [] := by
  rw [applications, hread]
  exact if_pos hname

theorem exists_call_of_applications (h : a ∈ applications scope input t) :
    ∃ check, Check.read t = .ok check ∧
      ∃ call ∈ check.calls, a.rule = ",".intercalate call.arguments := by
  rw [applications] at h
  split at h
  · cases h
  · next check hread =>
    split at h
    · split at h
      · exact ⟨check, hread, Dict.exists_call_of_mem h⟩
      · cases h
    · cases h

theorem utf8ByteSize_application_lt (h : a ∈ applications scope input t) :
    a.rule.utf8ByteSize < t.utf8ByteSize := by
  obtain ⟨check, hread, call, hcall, hrule⟩ := exists_call_of_applications h
  rw [hrule]
  exact utf8ByteSize_arguments_lt hread hcall

namespace Catalog

theorem evaluate_of_requires {type : RuleType} (hread : Check.read t = .ok check)
    (htype : catalog.find? check.typeName = some type) (hrequires : type.requires = []) :
    catalog.evaluate scope input t =
      type.receive scope input >>= fun v ↦ type.applyCalls scope v check.calls := by
  rw [evaluate_eq hread htype, hrequires]
  exact Traced.bind_of_ok rfl _

theorem isolated_evaluate {type : RuleType} (h : type.Isolated)
    (hread : Check.read t = .ok check) (htype : catalog.find? check.typeName = some type) :
    Run.Isolated fun scope ↦ catalog.evaluate scope input t := by
  simp only [evaluate_of_requires hread htype h.requires]
  exact .bind (RuleType.receive_isolated h.converter input) fun v ↦ h.applyCalls v check.calls

namespace Closed

variable (hc : catalog.Closed)

include hc

theorem evaluate_cases (input : Input) (t : String) :
    (Run.Isolated (fun scope ↦ catalog.evaluate scope input t) ∧
      ∀ scope, applications scope input t = []) ∨
    ∃ check, Check.read t = .ok check ∧ lower check.typeName = "dict" ∧
      ∀ scope, catalog.evaluate scope input t =
        Dict.type.receive scope input >>= fun v ↦ Dict.type.applyCalls scope v check.calls := by
  cases hread : Check.read t with
  | error m =>
    refine .inl ⟨?_, fun scope ↦ applications_of_error hread⟩
    simp only [evaluate, hread]
    exact .of_silent rfl
  | ok check =>
    by_cases hname : lower check.typeName = "dict"
    · exact .inr ⟨check, rfl, hname, fun scope ↦
        evaluate_of_requires hread (hc.dict _ hname) rfl⟩
    · refine .inl ⟨?_, fun scope ↦ applications_of_ne_dict hread hname⟩
      cases htype : catalog.find? check.typeName with
      | none =>
        simp only [evaluate, bind_ofMistake_ok hread, resolve, htype]
        exact .of_silent rfl
      | some type => exact isolated_evaluate (hc.isolated _ type hname htype) hread htype

theorem simulate {R : (α : Type) → Run α → Run α → Prop} (hR : Simulation R)
    (h : ∀ a ∈ applications scope input t, R Outcome (a.run scope) (a.run scope')) :
    R Value (catalog.evaluate scope input t) (catalog.evaluate scope' input t) := by
  obtain ⟨hisolated, -⟩ | ⟨check, hread, hname, hdict⟩ := hc.evaluate_cases input t
  · exact hR.isolated hisolated scope scope'
  · rw [applications_of_dict hread hname] at h
    rw [hdict, hdict]
    refine hR.bind (hR.isolated (RuleType.receive_isolated Dict.convert_isolated input) ..)
      fun v hv _ ↦ Dict.simulate_calls hR ?_
    rwa [hv] at h

theorem trail_evaluate (scope : Scope) (input : Input) (t : String) :
    (catalog.evaluate scope input t).trail =
      (applications scope input t).flatMap fun a ↦ (a.run scope).trail := by
  obtain ⟨hisolated, hnone⟩ | ⟨check, hread, hname, hdict⟩ := hc.evaluate_cases input t
  · rw [hnone, hisolated.silent]
    rfl
  · have hsilent := (RuleType.receive_isolated Dict.convert_isolated input).silent scope
    rw [hdict, applications_of_dict hread hname]
    cases hv : (Dict.type.receive scope input).result with
    | ok v =>
      rw [Traced.bind_of_ok hv, hsilent]
      exact Dict.trail_applyCalls scope v check.calls
    | error f =>
      rw [Traced.bind_of_error hv]
      exact hsilent

end Closed

end Catalog

end Evaluation

end Rulebook
