import Mathlib
import Rulebook.Pattern.Matching
import Rulebook.Proofs.Catalog.Builtin
import Rulebook.Proofs.Evaluation.Depth
import Rulebook.Proofs.Evaluation.Faults
import Rulebook.Proofs.Fields
import Rulebook.Proofs.Equality

namespace Rulebook

open Text

/-- A rule was applied to the values of a map one after another, and this came of it. -/
structure ReplacesValues (run : Value → Run Outcome) (m : Fields) (result : Run (Option Value)) :
    Prop where
  all_valid : ∀ vs, List.Forall₂ (fun entry v ↦ (run entry.2).result = .ok (.valid v)) m vs →
    result = ⟨m.flatMap fun entry ↦ (run entry.2).trail,
      .ok (some (.object (m.keys.zip vs)))⟩
  first_fault : ∀ before k v after f, m = before ++ (k, v) :: after →
    (∀ entry ∈ before, ∃ w, (run entry.2).result = .ok (.valid w)) → (run v).result = .error f →
    result = ⟨(before ++ [(k, v)]).flatMap fun entry ↦ (run entry.2).trail, .error f⟩
  first_invalid : ∀ before k v after reasons, m = before ++ (k, v) :: after →
    (∀ entry ∈ before, ∃ w, (run entry.2).result = .ok (.valid w)) →
    (run v).result = .ok (.invalid reasons) →
    result = ⟨(before ++ [(k, v)]).flatMap fun entry ↦ (run entry.2).trail,
      .error (.invalid (.badEntry k reasons))⟩

namespace Dict

variable {scope : Scope} {rule : String} {run : Value → Run Outcome} {m : Fields}

theorem ruleOf_string (rule : String) : ruleOf [.string rule] = rule := by
  simp [ruleOf, Value.string?]

theorem value_object : value scope (.object m) [.string rule] = (do
    let passed ← m.mapM (Part.value.pass (scope.apply (.text rule)))
    return some (.object (Fields.ofList passed))) := by
  rw [value_eq, ruleOf_string, Part.apply_object]
  simp only [map_bind, map_pure]

theorem ofList_zip (h : m.keys.Nodup) {vs : List Value} (hlen : m.length = vs.length) :
    Fields.ofList (m.keys.zip vs) = m.keys.zip vs := by
  refine Fields.ofList_of_nodup ?_
  rwa [Fields.keys, List.map_fst_zip (by rw [Fields.keys, List.length_map, hlen])]

section Runs

variable (hrun : ∀ v, applyTo scope rule v = run v)

include hrun

theorem trail_pass_value (entries : Fields) :
    (entries.flatMap fun entry ↦ (Part.value.pass (scope.apply (.text rule)) entry).trail) =
      entries.flatMap fun entry ↦ (run entry.2).trail := by
  simp only [Part.trail_pass, Part.value, ← applyTo_eq, hrun]

theorem forall₂_pass_value_iff {entries passed : Fields} :
    List.Forall₂ (fun entry b ↦
      (Part.value.pass (scope.apply (.text rule)) entry).result = .ok b) entries passed ↔
      ∃ vs, List.Forall₂ (fun entry v ↦ (run entry.2).result = .ok (.valid v)) entries vs ∧
        passed = entries.keys.zip vs := by
  have hput (vs : List Value) : entries.zipWith Part.value.put vs = entries.keys.zip vs := by
    rw [Fields.keys, List.zip_eq_zipWith, List.zipWith_map_left]
    rfl
  simp only [Part.forall₂_pass_iff, Part.value, ← applyTo_eq, hrun, ← hput]

theorem exists_pass_value {entries : Fields}
    (h : ∀ entry ∈ entries, ∃ w, (run entry.2).result = .ok (.valid w)) :
    ∃ passed, List.Forall₂ (fun entry b ↦
      (Part.value.pass (scope.apply (.text rule)) entry).result = .ok b) entries passed := by
  refine Traced.exists_forall₂_ok fun entry hentry ↦ ?_
  obtain ⟨w, hw⟩ := h entry hentry
  rw [← hrun, applyTo_eq] at hw
  exact ⟨_, Part.pass_eq_ok_iff.2 ⟨w, hw, rfl⟩⟩

theorem value_eq_ok_iff (hnodup : m.keys.Nodup) {o : Option Value} :
    (value scope (.object m) [.string rule]).result = .ok o ↔
      ∃ vs, List.Forall₂ (fun entry v ↦ (run entry.2).result = .ok (.valid v)) m vs ∧
        o = some (.object (m.keys.zip vs)) := by
  rw [value_object, Traced.bind_eq_ok_iff]
  simp only [Traced.mapM_eq_ok_iff, forall₂_pass_value_iff hrun]
  constructor
  · intro h
    obtain ⟨_, ⟨vs, hvs, rfl⟩, h⟩ := h
    cases h
    exact ⟨vs, hvs, by rw [ofList_zip hnodup hvs.length_eq]⟩
  · intro h
    obtain ⟨vs, hvs, rfl⟩ := h
    refine ⟨_, ⟨vs, hvs, rfl⟩, ?_⟩
    rw [ofList_zip hnodup hvs.length_eq]
    rfl

theorem value_replaces (hnodup : m.keys.Nodup) :
    ReplacesValues run m (value scope (.object m) [.string rule]) where
  all_valid vs h := by
    rw [value_object, Traced.mapM_of_ok ((forall₂_pass_value_iff hrun).2 ⟨vs, h, rfl⟩),
      Traced.bind_of_ok rfl, ofList_zip hnodup h.length_eq, trail_pass_value hrun]
    simp [Pure.pure, Traced.pure]
  first_fault before k v after f hm h hv := by
    obtain ⟨passed, hpassed⟩ := exists_pass_value hrun h
    rw [← hrun, applyTo_eq] at hv
    have hfault : (Part.value.pass (scope.apply (.text rule)) (k, v)).result = .error f :=
      Traced.bind_eq_error_iff.2 (.inl hv)
    rw [value_object, hm, Traced.mapM_of_error hpassed hfault, Traced.bind_of_error rfl,
      trail_pass_value hrun]
  first_invalid before k v after reasons hm h hv := by
    obtain ⟨passed, hpassed⟩ := exists_pass_value hrun h
    rw [← hrun, applyTo_eq] at hv
    have hfault : (Part.value.pass (scope.apply (.text rule)) (k, v)).result =
        .error (.invalid (.badEntry k reasons)) :=
      Traced.bind_eq_error_iff.2 (.inr ⟨_, hv, rfl⟩)
    rw [value_object, hm, Traced.mapM_of_error hpassed hfault, Traced.bind_of_error rfl,
      trail_pass_value hrun]

end Runs

end Dict

namespace Engine

variable {e : Engine} {rule : String}

theorem apply_strip (hb : Balanced (glyphs rule.toList))
    (hsize : rule.utf8ByteSize ≤ e.limits.bytes) (context : Context) (input : Input) :
    e.apply context (.text (strip rule)) input = e.apply context (.text rule) input := by
  have hcompile : e.compile (strip rule) = e.compile rule := by
    rw [compile, compile, Rule.read_strip hb hsize]
  rw [apply, apply, applyWith, applyWith, obtain, obtain, hcompile]

theorem applyTo_eq_apply (hc : e.catalog.Contained) {depth : Nat} (h : rule.length < depth)
    (context : Context) (v : Value) :
    Dict.applyTo ⟨context, e.applyWithin depth context⟩ rule v =
      e.apply context (.text rule) (.ofValue v) := by
  rw [Dict.applyTo_eq]
  exact applyWithin_eq_apply hc h context _

end Engine

/-- A balanced rule without separators outside its brackets reaches the values of a dictionary as
it is written, blanks around it aside, and is applied to them in order up to the first that does not
pass. -/
theorem Dict.value_of_unseparated [PatternLibrary] {rule : String} (hne : strip rule ≠ "")
    (hb : Balanced (glyphs rule.toList)) (hs : Unseparated 0 (glyphs rule.toList)) :
    Check.read (dictCheck rule) = .ok ⟨"dict", [⟨"value", [strip rule]⟩]⟩ ∧
    ∀ (e : Engine) (context : Context) (depth : Nat), e.catalog.ExtendsBuiltin →
      (strip rule).length < depth →
      (rule.utf8ByteSize ≤ e.limits.bytes → ∀ input,
        e.apply context (.text (strip rule)) input = e.apply context (.text rule) input) ∧
      ∀ m : Fields, m.keys.Nodup →
        ReplacesValues (fun v ↦ e.apply context (.text (strip rule)) (.ofValue v)) m
          (value ⟨context, e.applyWithin depth context⟩ (.object m) [.string (strip rule)]) := by
  have htrim : trim rule.toList ≠ [] := by
    intro h
    rw [strip, h] at hne
    exact hne rfl
  refine ⟨Check.read_dictCheck hb hs rfl htrim, fun e context depth he hdepth ↦ ⟨?_, ?_⟩⟩
  · intro hsize input
    exact Engine.apply_strip hb hsize context input
  · intro m hm
    exact value_replaces (Engine.applyTo_eq_apply he.contained hdepth context) hm

namespace Engine

theorem compile_wordOrNumber :
    (compile { catalog := .builtin } "str[in(a\\,b,c)] || (int && int[less(5)])").result =
      .ok ⟨[.check "str[in(a\\,b,c)]", .nested ⟨[.check "int", .check "int[less(5)]"],
        [.combine .and 0 1], none⟩], [.combine .or 0 1], none⟩ := by
  decide +kernel

theorem apply_wordOrNumber_word :
    (apply { catalog := .builtin } [] (.text "str[in(a\\,b,c)] || (int && int[less(5)])")
      (.raw "A,b")).result = .ok (.valid (.string "A,b")) := by
  rw [apply_result_of_compile compile_wordOrNumber]
  decide +kernel

theorem apply_wordOrNumber_small :
    (apply { catalog := .builtin } [] (.text "str[in(a\\,b,c)] || (int && int[less(5)])")
      (.typed (.integer 3))).result = .ok (.valid (.integer 3)) := by
  rw [apply_result_of_compile compile_wordOrNumber]
  decide +kernel

end Engine

theorem Dict.value_of_unseparated_nested :
    Check.read (dictCheck " str[in(a\\,b,c)] || (int && int[less(5)])") =
      .ok ⟨"dict", [⟨"value", ["str[in(a\\,b,c)] || (int && int[less(5)])"]⟩]⟩ ∧
    (value ⟨[], Engine.applyWithin { catalog := .builtin } 50 []⟩
      (.object [("a", .string "A,b"), ("b", .integer 3), ("c", .integer 7), ("d", .null)])
      [.string "str[in(a\\,b,c)] || (int && int[less(5)])"]).result =
        .error (.invalid (.badEntry "c" [.wrongKind "str", .notLess 5])) := by
  let e : Engine := { catalog := .builtin }
  have hb : Balanced (glyphs " str[in(a\\,b,c)] || (int && int[less(5)])".toList) := by
    show openBrackets [] _ = some []
    decide +kernel
  have hs : Unseparated 0 (glyphs " str[in(a\\,b,c)] || (int && int[less(5)])".toList) := by
    refine isUnseparated_iff.1 ?_
    decide +kernel
  have hstrip : strip " str[in(a\\,b,c)] || (int && int[less(5)])" =
      "str[in(a\\,b,c)] || (int && int[less(5)])" := by
    decide +kernel
  have hgreat : (e.apply [] (.text "str[in(a\\,b,c)] || (int && int[less(5)])")
      (.typed (.integer 7))).result = .ok (.invalid [.wrongKind "str", .notLess 5]) := by
    rw [Engine.apply_result_of_compile Engine.compile_wordOrNumber]
    decide +kernel
  obtain ⟨hread, hvalue⟩ := value_of_unseparated (by rw [hstrip]; decide) hb hs
  rw [hstrip] at hread hvalue
  obtain ⟨-, hreplaces⟩ := hvalue e [] 50 Catalog.extendsBuiltin_builtin (by decide)
  have hstop := (hreplaces
    [("a", .string "A,b"), ("b", .integer 3), ("c", .integer 7), ("d", .null)]
    (by decide)).first_invalid [("a", .string "A,b"), ("b", .integer 3)] "c" (.integer 7)
    [("d", .null)] [.wrongKind "str", .notLess 5] rfl
  refine ⟨hread, congrArg Traced.result (hstop ?_ hgreat)⟩
  exact List.forall_mem_cons.2 ⟨⟨.string "A,b", Engine.apply_wordOrNumber_word⟩,
    List.forall_mem_singleton.2 ⟨.integer 3, Engine.apply_wordOrNumber_small⟩⟩

end Rulebook
