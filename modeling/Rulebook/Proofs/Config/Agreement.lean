import Mathlib
import Rulebook.Pattern.Matching
import Rulebook.Proofs.Config.Validation
import Rulebook.Proofs.Evaluation.Static
import Rulebook.Proofs.Rule.RoundTrip

namespace Rulebook

open Text

theorem evaluate_dictCheck [PatternLibrary] {rule : String} (hb : Balanced (glyphs rule.toList))
    (hs : Unseparated 0 (glyphs rule.toList)) (hne : trim rule.toList ≠ []) {catalog : Catalog}
    (hc : catalog.ExtendsBuiltin) (scope : Scope) (m : Fields) :
    catalog.evaluate scope (.typed (.object m)) (dictCheck rule) = (do
      return (← Dict.value scope (.object m) [.string (strip rule)]).getD (.object m)) := by
  have hread := Check.read_dictCheck hb hs rfl hne
  have hreceive : Dict.type.receive scope (.typed (.object m)) = Traced.pure (.object m) := rfl
  have hcontext : checkContext scope.context Dict.type.requires = .ok () := rfl
  have hargument : (Signature.variadic .string).readAll "value" [strip rule] =
      .ok [.string (strip rule)] :=
    Signature.readAll_strings "value" [strip rule]
  have hcall : Dict.type.applyCall scope (.object m) ⟨"value", [strip rule]⟩ = (do
      return (← Dict.value scope (.object m) [.string (strip rule)]).getD (.object m)) := by
    rw [RuleType.applyCall_of_function (c := ⟨"value", [strip rule]⟩) Dict.function?_value hargument]
  rw [Catalog.evaluate_eq hread (hc.builtin _ _ Catalog.find?_dict), hcontext, hreceive]
  show (Pure.pure () >>= fun _ ↦ Pure.pure (Value.object m) >>= fun v ↦
    Dict.type.applyCall scope v ⟨"value", [strip rule]⟩ >>= Pure.pure) = _
  rw [pure_bind, pure_bind, bind_pure, hcall]

theorem Catalog.check_dictCheck [PatternLibrary] {rule : String} (hb : Balanced (glyphs rule.toList))
    (hs : Unseparated 0 (glyphs rule.toList)) (hne : trim rule.toList ≠ []) {catalog : Catalog}
    (hc : catalog.ExtendsBuiltin) : catalog.check (dictCheck rule) = .ok () := by
  have hread := Check.read_dictCheck hb hs rfl hne
  refine check_eq_ok_iff.2 ⟨_, Dict.type, hread, hc.builtin _ _ find?_dict, ?_⟩
  exact List.forall_mem_singleton.2 ⟨_, Dict.function?_value, rfl⟩

namespace Engine

variable {e : Engine} {rule : String} {r : Rule}

theorem compile_dictCheck [PatternLibrary] (he : e.catalog.ExtendsBuiltin) (h : (e.compile rule).result = .ok r)
    (hs : Unseparated 0 (glyphs rule.toList))
    (hbytes : (dictCheck rule).utf8ByteSize ≤ e.limits.bytes) :
    (e.compile (dictCheck rule)).result = .ok ⟨[.check (dictCheck rule)], [.solo 0], none⟩ := by
  obtain ⟨-, hb, hr⟩ := read_eq_ok_iff.1 (read_of_compile h)
  have hat : (dictCheck rule).toList.head? ≠ some '@' := by
    rw [dictCheck_eq]
    exact head?_checkOf_ne (by decide)
  have hread := Rule.read_check (checkText_dictCheck hb hs rfl) hat hbytes
    (levels_pos_of_readLevel hr)
  refine compile_eq_ok_iff.2 ⟨hread, nofun, ?_⟩
  intro t ht
  obtain rfl := List.mem_singleton.1 ht
  exact Catalog.check_dictCheck hb hs (trim_ne_nil_of_readLevel hr) he

theorem apply_dictCheck_iff [PatternLibrary] (he : e.catalog.ExtendsBuiltin) (h : (e.compile rule).result = .ok r)
    (hs : Unseparated 0 (glyphs rule.toList))
    (hbytes : (dictCheck rule).utf8ByteSize ≤ e.limits.bytes) {m : Fields} (hm : m.keys.Nodup)
    {context : Context} {v : Value} :
    (e.apply context (.text (dictCheck rule)) (.typed (.object m))).result = .ok (.valid v) ↔
      ∃ vs, List.Forall₂ (fun entry w ↦
        (e.apply context (.text rule) (.ofValue entry.2)).result = .ok (.valid w)) m vs ∧
        v = .object (m.keys.zip vs) := by
  obtain ⟨hsize, hb, hr⟩ := read_eq_ok_iff.1 (read_of_compile h)
  have hne := trim_ne_nil_of_readLevel hr
  have hobtain : (e.obtain (.text (dictCheck rule))).result = _ := compile_dictCheck he h hs hbytes
  have hrun (w : Value) : Dict.applyTo (e.scopeFor context [dictCheck rule]) (strip rule) w =
      e.apply context (.text rule) (.ofValue w) := by
    have hshort : (strip rule).length < (dictCheck rule).length := by
      have htrim := length_trim_le rule.toList
      rw [strip, String.length_ofList, ← String.length_toList, toList_dictCheck]
      simp only [bracketed, valueCall, List.length_append, List.length_cons]
      omega
    rw [Dict.applyTo_eq, ← apply_strip hb hsize]
    exact scopeFor_apply he.contained (List.mem_singleton_self _) hshort _ _
  have hchecks : Rule.checks ⟨[.check (dictCheck rule)], [.solo 0], none⟩ = [dictCheck rule] := rfl
  rw [apply, applyWith_result_of_obtain hobtain, applyIn, Rule.apply_check, settle_eq_valid_iff,
    evaluate_dictCheck hb hs hne he, hchecks, Traced.bind_eq_ok_iff]
  simp only [Dict.value_eq_ok_iff hrun hm]
  constructor
  · intro h
    obtain ⟨_, ⟨vs, hvs, rfl⟩, h⟩ := h
    cases h
    exact ⟨vs, hvs, rfl⟩
  · intro h
    obtain ⟨vs, hvs, rfl⟩ := h
    exact ⟨_, ⟨vs, hvs, rfl⟩, rfl⟩

theorem validate_uniform_iff (h : (e.compile rule).result = .ok r) {m m' : Fields}
    (hm : m.keys.Nodup) :
    (∃ report, (Schema.validate e (m.map fun entry ↦ ⟨⟨entry.1, rule, none⟩, r⟩) m).result =
        .ok report ∧ report.issues = [] ∧ m' = report.values) ↔
      ∃ vs, List.Forall₂ (fun entry w ↦
        (e.apply [] (.text rule) (.ofValue entry.2)).result = .ok (.valid w)) m vs ∧
        m' = m.keys.zip vs := by
  have hkeys : (m.map fun entry ↦ (⟨⟨entry.1, rule, none⟩, r⟩ : SchemaEntry)).map
      (fun entry ↦ entry.key) = m.keys := by
    rw [List.map_map]
    rfl
  rw [Schema.validate_no_issues_iff (hkeys ▸ hm), hkeys]
  refine exists_congr fun vs ↦ and_congr_left fun _ ↦ ?_
  rw [List.forall₂_map_left_iff]
  refine forall₂_congr_of_mem fun entry hmem w ↦ ?_
  have hget : m.get? (⟨⟨entry.1, rule, none⟩, r⟩ : SchemaEntry).key = some entry.2 :=
    Fields.get?_of_mem hm hmem
  rw [Schema.outcome_of_get? hget]
  exact iff_of_eq (congrArg (· = _) (applyWith_result_congr (obtain_of_compile h) _ _))

end Engine

/-- Checking the values of a dictionary by a rule and checking the dictionary as a document that
declares the rule for each of its keys accept the same dictionaries, with the same values. -/
theorem Schema.apply_dictCheck_iff_validate [PatternLibrary] {e : Engine} (he : e.catalog.ExtendsBuiltin)
    {rule : String} {r : Rule} (h : (e.compile rule).result = .ok r)
    (hs : Unseparated 0 (glyphs rule.toList))
    (hbytes : (dictCheck rule).utf8ByteSize ≤ e.limits.bytes) {document : Fields}
    (hdocument : document.keys.Nodup) :
    ∃ schema : Schema,
      (compile e (document.keys.map fun k ↦ ⟨k, rule, none⟩)).result = .ok schema ∧
      ∀ v, (e.apply [] (.text (dictCheck rule)) (.typed (.object document))).result =
          .ok (.valid v) ↔
        ∃ report, (validate e schema document).result = .ok report ∧ report.issues = [] ∧
          v = .object report.values := by
  refine ⟨document.map fun entry ↦ ⟨⟨entry.1, rule, none⟩, r⟩, ?_, fun v ↦ ?_⟩
  · rw [compile_eq_ok_iff, Fields.keys, List.map_map, List.forall₂_map_left_iff,
      List.forall₂_map_right_iff, List.forall₂_same]
    exact fun entry _ ↦ ⟨h, rfl⟩
  · rw [Engine.apply_dictCheck_iff he h hs hbytes hdocument]
    constructor
    · intro h
      obtain ⟨vs, hvs, hv⟩ := h
      obtain ⟨report, hreport, hissues, hvalues⟩ :=
        (Engine.validate_uniform_iff h hdocument).2 ⟨vs, hvs, rfl⟩
      exact ⟨report, hreport, hissues, hv.trans (congrArg Value.object hvalues)⟩
    · intro h
      obtain ⟨report, hreport, hissues, hv⟩ := h
      obtain ⟨vs, hvs, hvalues⟩ :=
        (Engine.validate_uniform_iff h hdocument).1 ⟨report, hreport, hissues, rfl⟩
      exact ⟨vs, hvs, hv.trans (congrArg Value.object hvalues)⟩

theorem Schema.apply_dictCheck_iff_validate_nested :
    ∃ schema : Schema, (compile { catalog := .builtin }
        [⟨"a", "str[in(a\\,b,c)] || (int && int[less(5)])", none⟩,
          ⟨"b", "str[in(a\\,b,c)] || (int && int[less(5)])", none⟩]).result = .ok schema ∧
      ∃ report, (validate { catalog := .builtin } schema
          [("a", .string "A,b"), ("b", .integer 3)]).result = .ok report ∧ report.issues = [] ∧
        .object [("a", .string "A,b"), ("b", .integer 3)] = Value.object report.values := by
  have hs : Unseparated 0 (glyphs "str[in(a\\,b,c)] || (int && int[less(5)])".toList) := by
    refine isUnseparated_iff.1 ?_
    cbv
  have hkeys : (Fields.keys [("a", .string "A,b"), ("b", .integer 3)]).Nodup := by decide
  have hcompile := Engine.compile_wordOrNumber
  have hvalid := (Engine.apply_dictCheck_iff Catalog.extendsBuiltin_builtin hcompile hs (by decide)
    hkeys).2 ⟨[.string "A,b", .integer 3], .cons Engine.apply_wordOrNumber_word
      (.cons Engine.apply_wordOrNumber_small .nil), rfl⟩
  obtain ⟨schema, hschema, hiff⟩ := apply_dictCheck_iff_validate Catalog.extendsBuiltin_builtin
    hcompile hs (by decide) hkeys
  exact ⟨schema, hschema, (hiff _).1 hvalid⟩

end Rulebook
