import Mathlib
import Rulebook.Catalog.Builtin
import Rulebook.Evaluation.Engine
import Rulebook.Pattern.Matching
import Rulebook.Proofs.Evaluation.Checks
import Rulebook.Proofs.Evaluation.Simulation
import Rulebook.Proofs.Equality

namespace Rulebook

variable {scope : Scope} {type : RuleType}

theorem RuleType.receive_raw_result {text : String} {v : Value}
    (hconvert : (type.convert scope text).result = .ok v) (haccepts : v.kind ∈ type.accepts) :
    (type.receive scope (.raw text)).result = (type.receive scope (.typed v)).result := by
  have hcontains : type.accepts.contains v.kind = true := List.contains_iff_mem.2 haccepts
  rw [RuleType.receive, RuleType.receive, hconvert, if_pos hcontains]
  rfl

namespace Engine

/-- A rule whose checks are all of one type has the same result, an outcome or a fault, for a text
that the type converts and for the value that the text is converted to. -/
theorem applyIn_raw_eq_typed (e : Engine) {text : String} {v : Value} {r : Rule}
    (hconvert : (type.convert scope text).result = .ok v) (haccepts : v.kind ∈ type.accepts)
    (hchecks : ∀ t ∈ r.checks,
      ∃ check, Check.read t = .ok check ∧ e.catalog.find? check.typeName = some type) :
    (e.applyIn scope r (.raw text)).result = (e.applyIn scope r (.typed v)).result := by
  refine Rule.apply_result_congr fun t ht ↦ ?_
  obtain ⟨check, hread, htype⟩ := hchecks t ht
  rw [Catalog.evaluate_eq hread htype, Catalog.evaluate_eq hread htype]
  refine Traced.result_bind_congr rfl fun _ _ ↦ ?_
  exact Traced.result_bind_congr (RuleType.receive_raw_result hconvert haccepts) fun _ _ ↦ rfl

theorem applyIn_raw_eq_typed_nested :
    (applyIn { catalog := .builtin } ⟨[], fun _ _ ↦ .fail exhausted⟩
        ⟨[.check "int[between(1,50)]", .nested ⟨[.check "INT[less(3)]", .check "int"],
          [.combine .or 0 1], some 1⟩], [.combine .and 0 1], none⟩ (.raw " +42")).result =
      (applyIn { catalog := .builtin } ⟨[], fun _ _ ↦ .fail exhausted⟩
        ⟨[.check "int[between(1,50)]", .nested ⟨[.check "INT[less(3)]", .check "int"],
          [.combine .or 0 1], some 1⟩], [.combine .and 0 1], none⟩ (.typed (.integer 42))).result := by
  have hfind : Catalog.builtin.find? "int" = some Integer.type := by cbv
  have hconvert : (Integer.type.convert ⟨[], fun _ _ ↦ .fail exhausted⟩ " +42").result =
      .ok (.integer 42) := by
    decide +kernel
  refine applyIn_raw_eq_typed { catalog := .builtin } hconvert (by decide) fun t ht ↦ ?_
  obtain rfl | rfl | rfl : t = "int[between(1,50)]" ∨ t = "INT[less(3)]" ∨ t = "int" := by
    simpa [Rule.checks, checksIn, Leaf.checks] using ht
  · exact ⟨⟨"int", [⟨"between", ["1", "50"]⟩]⟩, by decide +kernel, hfind⟩
  · exact ⟨⟨"int", [⟨"less", ["3"]⟩]⟩, by decide +kernel, hfind⟩
  · exact ⟨⟨"int", []⟩, by decide +kernel, hfind⟩

end Engine

end Rulebook
