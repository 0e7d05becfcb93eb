import Mathlib
import Rulebook.Config.Schema
import Rulebook.Proofs.Catalog.Entries
import Rulebook.Proofs.Evaluation.Sources

namespace Rulebook

/-- What an entry of a schema adds to a report: a value under a key, or an issue. -/
abbrev Contribution := (String × Value) ⊕ Issue

def Report.extend (report : Report) (cs : List Contribution) : Report where
  values := (cs.filterMap Sum.getLeft?).foldl (fun fs (k, v) ↦ fs.insert k v) report.values
  issues := report.issues ++ cs.filterMap Sum.getRight?

theorem Report.extend_value (report : Report) (k : String) (v : Value) (cs : List Contribution) :
    report.extend (.inl (k, v) :: cs) =
      extend { report with values := report.values.insert k v } cs := rfl

theorem Report.extend_issue (report : Report) (i : Issue) (cs : List Contribution) :
    report.extend (.inr i :: cs) = extend { report with issues := report.issues ++ [i] } cs := by
  simp [extend, List.filterMap_cons]

def SchemaEntry.contribute (e : Engine) (entry : SchemaEntry) : Outcome → Contribution
  | .valid v => .inl (entry.key, v)
  | .invalid reasons =>
    .inr ⟨entry.key, reasons, Schema.expected e entry.rule, entry.sample?⟩

namespace Schema

variable {e : Engine} {schema : Schema} {document : Fields} {ds : List Declaration}

theorem compileEntry_eq_ok_iff {d : Declaration} {entry : SchemaEntry} :
    (compileEntry e d).result = .ok entry ↔
      (e.compile d.source).result = .ok entry.rule ∧ entry.toDeclaration = d := by
  rw [compileEntry, Traced.bind_eq_ok_iff]
  simp only [Traced.mapError_eq_ok_iff]
  constructor
  · intro h
    obtain ⟨r, hr, h⟩ := h
    cases h
    exact ⟨hr, rfl⟩
  · intro h
    obtain ⟨hr, hd⟩ := h
    exact ⟨entry.rule, hr, by rw [← hd]; rfl⟩

theorem compile_eq_ok_iff : (compile e ds).result = .ok schema ↔
    List.Forall₂ (fun d entry ↦ (e.compile d.source).result = .ok entry.rule ∧
      entry.toDeclaration = d) ds schema := by
  induction ds generalizing schema with
  | nil =>
    rw [List.forall₂_nil_left_iff]
    constructor
    · intro h
      cases h
      rfl
    · rintro rfl
      rfl
  | cons d ds ih =>
    rw [compile, Traced.bind_eq_ok_iff, List.forall₂_cons_left_iff]
    simp only [compileEntry_eq_ok_iff, Traced.bind_eq_ok_iff, ih]
    constructor
    · intro h
      obtain ⟨entry, hentry, rest, hrest, h⟩ := h
      cases h
      exact ⟨entry, rest, hentry, hrest, rfl⟩
    · intro h
      obtain ⟨entry, rest, hentry, hrest, h⟩ := h
      exact ⟨entry, hentry, rest, hrest, by rw [h]; rfl⟩

theorem outcome_of_get? {entry : SchemaEntry} {v : Value} (h : document.get? entry.key = some v) :
    outcome e document entry = e.apply [] (.tree entry.rule) (.ofValue v) := by
  rw [outcome, h]
  cases v <;> rfl

def contribution (e : Engine) (document : Fields) (entry : SchemaEntry) :
    Traced ConfigFault Contribution := do
  return entry.contribute e
    (← (outcome e document entry).mapError fun f ↦ .refused (.failedRule entry.key f))

theorem validateFrom_eq (report : Report) :
    validateFrom e document report schema =
      (do return report.extend (← schema.mapM (contribution e document))) := by
  induction schema generalizing report with
  | nil =>
    obtain ⟨values, issues⟩ := report
    simp only [List.mapM_nil, pure_bind, Report.extend, List.filterMap_nil, List.append_nil]
    rfl
  | cons entry schema ih =>
    simp only [validateFrom, List.mapM_cons, contribution, bind_assoc, pure_bind]
    refine Traced.bind_congr fun o _ ↦ ?_
    cases o with
    | valid v => simp only [ih, SchemaEntry.contribute, Report.extend_value]
    | invalid reasons => simp only [ih, SchemaEntry.contribute, Report.extend_issue]

theorem contribution_eq_ok_iff {entry : SchemaEntry} {c : Contribution} :
    (contribution e document entry).result = .ok c ↔
      ∃ o, (outcome e document entry).result = .ok o ∧ c = entry.contribute e o := by
  rw [contribution, Traced.bind_eq_ok_iff]
  simp only [Traced.mapError_eq_ok_iff]
  refine exists_congr fun o ↦ and_congr_right fun _ ↦ ?_
  exact ⟨fun h ↦ (Except.ok.inj h).symm, fun h ↦ congrArg Except.ok h.symm⟩

theorem contribution_eq_error_iff {entry : SchemaEntry} {f : ConfigFault} :
    (contribution e document entry).result = .error f ↔
      ∃ v fault, document.get? entry.key = some v ∧
        (e.apply [] (.tree entry.rule) (.ofValue v)).result = .error fault ∧
        f = .refused (.failedRule entry.key fault) := by
  constructor
  · intro h
    obtain ⟨fault, hfault, hf⟩ :=
      Traced.mapError_eq_error_iff.1 (Traced.result_of_bind_pure h)
    cases hv : document.get? entry.key with
    | none =>
      rw [outcome, hv] at hfault
      cases hfault
    | some v =>
      rw [outcome_of_get? hv] at hfault
      exact ⟨v, fault, rfl, hfault, hf.symm⟩
  · intro h
    obtain ⟨v, fault, hv, hfault, hf⟩ := h
    refine Traced.bind_eq_error_iff.2 (.inl (Traced.mapError_eq_error_iff.2 ⟨fault, ?_, hf.symm⟩))
    rw [outcome_of_get? hv, hfault]

theorem exists_of_validateFrom_eq_error {report : Report} {f : ConfigFault}
    (h : (validateFrom e document report schema).result = .error f) :
    ∃ entry ∈ schema, ∃ v fault, document.get? entry.key = some v ∧
      (e.apply [] (.tree entry.rule) (.ofValue v)).result = .error fault ∧
      f = .refused (.failedRule entry.key fault) := by
  rw [validateFrom_eq] at h
  obtain ⟨entry, hmem, hentry⟩ := Traced.exists_of_mapM_eq_error (Traced.result_of_bind_pure h)
  exact ⟨entry, hmem, contribution_eq_error_iff.1 hentry⟩

theorem validate_eq_ok_iff {report : Report} :
    (validate e schema document).result = .ok report ↔
      ∃ cs, List.Forall₂ (fun entry c ↦ (contribution e document entry).result = .ok c) schema cs ∧
        report = ⟨Fields.ofList (cs.filterMap Sum.getLeft?), cs.filterMap Sum.getRight?⟩ := by
  rw [validate, validateFrom_eq, Traced.bind_eq_ok_iff]
  simp only [Traced.mapM_eq_ok_iff]
  refine exists_congr fun cs ↦ and_congr_right fun _ ↦ ?_
  exact ⟨fun h ↦ (Except.ok.inj h).symm, fun h ↦ congrArg Except.ok h.symm⟩

theorem contribution_eq_value_iff {entry : SchemaEntry} {k : String} {v : Value} :
    (contribution e document entry).result = .ok (.inl (k, v)) ↔
      k = entry.key ∧ (outcome e document entry).result = .ok (.valid v) := by
  rw [contribution_eq_ok_iff]
  constructor
  · intro h
    obtain ⟨o, ho, hc⟩ := h
    cases o with
    | valid w =>
      cases hc
      exact ⟨rfl, ho⟩
    | invalid reasons => cases hc
  · intro h
    obtain ⟨hk, hv⟩ := h
    exact ⟨_, hv, by rw [hk]; rfl⟩

theorem forall₂_contribution_iff {cs : List Contribution} :
    List.Forall₂ (fun entry c ↦ (contribution e document entry).result = .ok c) schema cs ∧
        cs.filterMap Sum.getRight? = [] ↔
      ∃ vs, List.Forall₂ (fun entry v ↦ (outcome e document entry).result = .ok (.valid v))
        schema vs ∧ cs = ((schema.map fun entry ↦ entry.key).zip vs).map .inl := by
  induction schema generalizing cs with
  | nil =>
    simp only [List.forall₂_nil_left_iff, List.map_nil, List.zip_nil_left, exists_eq_left]
    exact and_iff_left_of_imp fun h ↦ by rw [h]; rfl
  | cons entry schema ih =>
    simp only [List.forall₂_cons_left_iff]
    constructor
    · intro h
      obtain ⟨⟨c, cs, hc, hcs, rfl⟩, hissues⟩ := h
      cases c with
      | inl p =>
        obtain ⟨hk, hv⟩ := contribution_eq_value_iff.1 hc
        obtain ⟨vs, hvs, rfl⟩ := ih.1 ⟨hcs, hissues⟩
        exact ⟨_, ⟨_, _, hv, hvs, rfl⟩, by simp [← hk]⟩
      | inr i => simp at hissues
    · intro h
      obtain ⟨_, ⟨v, vs, hv, hvs, rfl⟩, rfl⟩ := h
      obtain ⟨hcs, hissues⟩ := ih.2 ⟨vs, hvs, rfl⟩
      exact ⟨⟨_, _, contribution_eq_value_iff.2 ⟨rfl, hv⟩, hcs, rfl⟩, hissues⟩

theorem validate_no_issues_iff (hnodup : (schema.map fun entry ↦ entry.key).Nodup) {m : Fields} :
    (∃ report, (validate e schema document).result = .ok report ∧ report.issues = [] ∧
        m = report.values) ↔
      ∃ vs, List.Forall₂ (fun entry v ↦ (outcome e document entry).result = .ok (.valid v))
        schema vs ∧ m = (schema.map fun entry ↦ entry.key).zip vs := by
  have hvalues (vs : List Value) (hlen : schema.length = vs.length) :
      Fields.ofList ((((schema.map fun entry ↦ entry.key).zip vs).map
        (.inl : _ → Contribution)).filterMap Sum.getLeft?) =
        (schema.map fun entry ↦ entry.key).zip vs := by
    have hkeys : Fields.keys ((schema.map fun entry ↦ entry.key).zip vs) =
        schema.map fun entry ↦ entry.key :=
      List.map_fst_zip (by simp [hlen])
    rw [← hkeys] at hnodup
    rw [List.filterMap_map]
    exact (congrArg _ List.filterMap_some).trans (Fields.ofList_of_nodup hnodup)
  constructor
  · intro h
    obtain ⟨report, hreport, hissues, rfl⟩ := h
    obtain ⟨cs, hcs, rfl⟩ := validate_eq_ok_iff.1 hreport
    obtain ⟨vs, hvs, rfl⟩ := forall₂_contribution_iff.1 ⟨hcs, hissues⟩
    exact ⟨vs, hvs, hvalues vs hvs.length_eq⟩
  · intro h
    obtain ⟨vs, hvs, rfl⟩ := h
    obtain ⟨hcs, hissues⟩ := forall₂_contribution_iff.2 ⟨vs, hvs, rfl⟩
    exact ⟨_, validate_eq_ok_iff.2 ⟨_, hcs, rfl⟩, hissues, (hvalues vs hvs.length_eq).symm⟩

end Schema
end Rulebook
