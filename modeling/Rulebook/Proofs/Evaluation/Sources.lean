import Mathlib
import Rulebook.Catalog.Builtin
import Rulebook.Evaluation.Description
import Rulebook.Pattern.Matching
import Rulebook.Proofs.Evaluation.Runs
import Rulebook.Proofs.Results
import Rulebook.Proofs.Rule.Encoding
import Rulebook.Proofs.Rule.Reading
import Rulebook.Proofs.Equality

namespace Rulebook.Engine

variable {e : Engine} {text : String} {r : Rule}

theorem admitMixed_eq_ok_iff :
    (e.admitMixed r).result = .ok () ↔ (r.anyMixed = true → e.policy ≠ .deny) := by
  rw [admitMixed]
  cases r.anyMixed with
  | false => exact iff_of_true rfl nofun
  | true => cases e.policy <;> simp [Traced.pure, Traced.record, Traced.fail]

theorem compile_eq_ok_iff : (e.compile text).result = .ok r ↔
    Rule.read e.limits text = .ok r ∧ (r.anyMixed = true → e.policy ≠ .deny) ∧
      ∀ t ∈ r.checks, e.catalog.check t = .ok () := by
  rw [← admitMixed_eq_ok_iff, ← forM_eq_ok_iff]
  constructor
  · intro h
    obtain ⟨r', hread, h⟩ := Traced.bind_eq_ok_iff.1 h
    obtain ⟨_, hmixed, h⟩ := Traced.bind_eq_ok_iff.1 h
    obtain ⟨_, hchecks, h⟩ := Traced.bind_eq_ok_iff.1 h
    obtain ⟨_, -, h⟩ := Traced.bind_eq_ok_iff.1 h
    cases h
    exact ⟨mapError_eq_ok_iff.1 (ofMistake_eq_ok_iff.1 hread), hmixed,
      ofMistake_eq_ok_iff.1 hchecks⟩
  · intro h
    obtain ⟨hread, hmixed, hchecks⟩ := h
    refine Traced.bind_eq_ok_iff.2 ⟨r, ofMistake_eq_ok_iff.2 (mapError_eq_ok_iff.2 hread), ?_⟩
    refine Traced.bind_eq_ok_iff.2 ⟨(), hmixed, ?_⟩
    refine Traced.bind_eq_ok_iff.2 ⟨(), ofMistake_eq_ok_iff.2 hchecks, ?_⟩
    exact Traced.bind_eq_ok_iff.2 ⟨(), rfl, rfl⟩

theorem read_of_compile (h : (e.compile text).result = .ok r) : Rule.read e.limits text = .ok r :=
  (compile_eq_ok_iff.1 h).1

theorem canonical_of_compile (h : (e.compile text).result = .ok r) : r.Canonical := by
  obtain ⟨-, hb, hr⟩ := read_eq_ok_iff.1 (read_of_compile h)
  exact (readLevel_canonical hb hr).1

theorem obtain_of_sound (h : r.defect? = none) : e.obtain (.tree r) = .pure r := by
  rw [obtain, h]

theorem obtain_of_compile (h : (e.compile text).result = .ok r) :
    (e.obtain (.tree r)).result = (e.obtain (.text text)).result := by
  rw [obtain_of_sound (canonical_of_compile h).defect?_eq_none]
  exact h.symm

theorem obtain_tree_of_compile (h : (e.compile text).result = .ok r) :
    (e.obtain (.tree r)).result = .ok r :=
  (obtain_of_compile h).trans h

theorem defect?_of_obtain {source : Source} (h : (e.obtain source).result = .ok r) :
    r.defect? = none := by
  cases source with
  | text text => exact (canonical_of_compile h).defect?_eq_none
  | tree r' =>
    rw [obtain] at h
    split at h
    · cases h
    · rename_i hsound
      cases h
      exact hsound

theorem applyWith_result_congr {source source' : Source}
    (h : (e.obtain source).result = (e.obtain source').result) (scopes : Rule → Scope)
    (input : Input) :
    (e.applyWith scopes source input).result = (e.applyWith scopes source' input).result :=
  Traced.result_bind_congr h fun _ _ ↦ rfl

theorem describe_result_congr {source source' : Source}
    (h : (e.obtain source).result = (e.obtain source').result) :
    (e.describe source).result = (e.describe source').result :=
  Traced.result_bind_congr h fun _ _ ↦ rfl

/-- A text that does not compile is refused with the same fault wherever it is used. The tree that a
text compiles to, and the tree decoded from its JSON value, give the results that the text gives. -/
theorem apply_of_compile (e : Engine) (context : Context) (text : String) :
    (∀ f, (e.compile text).result = .error f →
      (∀ input, (e.apply context (.text text) input).result = .error f) ∧
      (e.describe (.text text)).result = .error f) ∧
    ∀ r, (e.compile text).result = .ok r → ∃ s, Rule.ofValue? r.toValue = some s ∧
      ∀ q ∈ [r, s],
        (∀ input, (e.apply context (.tree q) input).result =
          (e.apply context (.text text) input).result) ∧
        (e.describe (.tree q)).result = (e.describe (.text text)).result := by
  constructor
  · intro f hf
    refine ⟨fun input ↦ ?_, ?_⟩
    · exact congrArg Traced.result (Traced.bind_of_error hf _)
    · exact congrArg Traced.result (Traced.bind_of_error hf _)
  · intro r hr
    have hobtain := obtain_of_compile hr
    refine ⟨r, r.ofValue?_toValue, fun q hq ↦ ?_⟩
    obtain rfl : q = r := by simpa using hq
    exact ⟨applyWith_result_congr hobtain _, describe_result_congr hobtain⟩

theorem apply_of_compile_nested :
    (apply { catalog := .builtin } [] (.tree ⟨[.nested ⟨[.check "int[less(5)]", .check "str"],
        [.combine .or 0 1], none⟩, .check "dict"], [.combine .and 0 1], some 1⟩) (.raw "7")).result =
      (apply { catalog := .builtin } [] (.text "(int[less(5)]||str) && @ dict") (.raw "7")).result ∧
    (apply { catalog := .builtin } [] (.text "str && int[size(5)]") (.raw "7")).result =
      .error (.mistake (.unknownFunction "size" "int")) := by
  have hcompile : (compile { catalog := .builtin } "(int[less(5)]||str) && @ dict").result =
      .ok ⟨[.nested ⟨[.check "int[less(5)]", .check "str"], [.combine .or 0 1], none⟩,
        .check "dict"], [.combine .and 0 1], some 1⟩ := by
    decide +kernel
  have hrefused : (compile { catalog := .builtin } "str && int[size(5)]").result =
      .error (.mistake (.unknownFunction "size" "int")) := by
    decide +kernel
  obtain ⟨-, hok⟩ := apply_of_compile { catalog := .builtin } [] "(int[less(5)]||str) && @ dict"
  obtain ⟨herror, -⟩ := apply_of_compile { catalog := .builtin } [] "str && int[size(5)]"
  obtain ⟨s, -, hs⟩ := hok _ hcompile
  exact ⟨(hs _ List.mem_cons_self).1 _, (herror _ hrefused).1 _⟩

end Rulebook.Engine
