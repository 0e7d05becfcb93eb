import Mathlib
import Rulebook.Pattern.Matching
import Rulebook.Proofs.Config.Validation
import Rulebook.Proofs.Evaluation.Faults
import Rulebook.Proofs.Equality

namespace Rulebook

namespace Schema

variable {e e' : Engine} {schema : Schema} {document : Fields} {entry : SchemaEntry}

/-- A schema that an engine compiled, from declarations or from a text. -/
inductive Compiled (e : Engine) (schema : Schema) : Prop
  | ofDeclarations {ds : List Declaration} :
    (compile e ds).result = .ok schema → Compiled e schema
  | ofText [Wording] {text : String} : (read e text).result = .ok schema → Compiled e schema

/-- The rule of an entry ends in a fault at what the document has under the key. -/
def FailsOn (e : Engine) (document : Fields) (entry : SchemaEntry) (f : Fault) : Prop :=
  ∃ v, document.get? entry.key = some v ∧
    (e.apply [] (.tree entry.rule) (.ofValue v)).result = .error f

inductive Contributes (e : Engine) (document : Fields) (entry : SchemaEntry) : Contribution → Prop
  | missing : document.get? entry.key = none → Contributes e document entry
      (.inr ⟨entry.key, [.missingKey entry.key], e.catalog.describe entry.rule, entry.sample?⟩)
  | invalid {v : Value} {reasons : List Reason} : document.get? entry.key = some v →
    (e.apply [] (.tree entry.rule) (.ofValue v)).result = .ok (.invalid reasons) →
    Contributes e document entry
      (.inr ⟨entry.key, reasons, e.catalog.describe entry.rule, entry.sample?⟩)
  | valid {v w : Value} : document.get? entry.key = some v →
    (e.apply [] (.tree entry.rule) (.ofValue v)).result = .ok (.valid w) →
    Contributes e document entry (.inl (entry.key, w))

theorem compile_of_ofEntries {entries : Toml.Entries}
    (h : (ofEntries e entries).result = .ok schema) :
    (compile e (schema.map SchemaEntry.toDeclaration)).result = .ok schema := by
  induction entries generalizing schema with
  | nil =>
    cases h
    rfl
  | cons node entries ih =>
    obtain ⟨key, n⟩ := node
    rw [ofEntries] at h
    split at h
    · cases h
    · next d _ =>
      obtain ⟨entry, hentry, h⟩ := Traced.bind_eq_ok_iff.1 h
      obtain ⟨rest, hrest, h⟩ := Traced.bind_eq_ok_iff.1 h
      cases h
      obtain ⟨hrule, rfl⟩ := compileEntry_eq_ok_iff.1 hentry
      exact compile_eq_ok_iff.2 (.cons ⟨hrule, rfl⟩ (compile_eq_ok_iff.1 (ih hrest)))

theorem Compiled.sound (h : schema.Compiled e) (hentry : entry ∈ schema) :
    entry.rule.defect? = none := by
  obtain ⟨ds, hds⟩ : ∃ ds, (compile e ds).result = .ok schema := by
    cases h with
    | ofDeclarations h => exact ⟨_, h⟩
    | ofText h =>
      obtain ⟨entries, -, h⟩ := Traced.bind_eq_ok_iff.1 h
      exact ⟨_, compile_of_ofEntries h⟩
  obtain ⟨d, -, hcompile, -⟩ := exists_mem_of_forall₂ (compile_eq_ok_iff.1 hds) hentry
  exact (Engine.canonical_of_compile hcompile).defect?_eq_none

theorem expected_of_sound {rule : Rule} (h : rule.defect? = none) :
    expected e rule = e.catalog.describe rule := by
  rw [expected, Engine.describe, Engine.obtain_of_sound h]
  rfl

theorem contribution_eq_contributes (h : entry.rule.defect? = none) {c : Contribution} :
    (contribution e document entry).result = .ok c ↔ Contributes e document entry c := by
  rw [contribution_eq_ok_iff]
  constructor
  · intro hc
    obtain ⟨o, ho, rfl⟩ := hc
    cases hv : document.get? entry.key with
    | none =>
      rw [outcome, hv] at ho
      cases ho
      rw [SchemaEntry.contribute, expected_of_sound h]
      exact .missing hv
    | some v =>
      rw [outcome_of_get? hv] at ho
      cases o with
      | valid w => exact .valid hv ho
      | invalid reasons =>
        rw [SchemaEntry.contribute, expected_of_sound h]
        exact .invalid hv ho
  · intro hc
    cases hc with
    | missing hv =>
      refine ⟨.invalid [.missingKey entry.key], by rw [outcome, hv]; rfl, ?_⟩
      rw [SchemaEntry.contribute, expected_of_sound h]
    | invalid hv ho =>
      refine ⟨_, by rw [outcome_of_get? hv, ho], ?_⟩
      rw [SchemaEntry.contribute, expected_of_sound h]
    | valid hv ho => exact ⟨_, by rw [outcome_of_get? hv, ho], rfl⟩

theorem FailsOn.contribution {f : Fault} (h : FailsOn e document entry f) :
    (contribution e document entry).result = .error (.refused (.failedRule entry.key f)) := by
  obtain ⟨v, hv, hf⟩ := h
  exact contribution_eq_error_iff.2 ⟨v, f, hv, hf, rfl⟩

theorem FailsOn.ne_invalid {f : Fault} (h : FailsOn e document entry f) (reason : Reason) :
    f ≠ .invalid reason := by
  rintro rfl
  obtain ⟨v, -, hf⟩ := h
  exact Engine.applyWith_ne_invalid _ _ _ reason hf

theorem not_failsOn {c : Contribution} (h : (contribution e document entry).result = .ok c)
    (f : Fault) : ¬ FailsOn e document entry f := by
  intro hf
  cases h.symm.trans hf.contribution

theorem validate_cases (e : Engine) (schema : Schema) (document : Fields) :
    (∃ cs,
      List.Forall₂ (fun entry c ↦ (contribution e document entry).result = .ok c) schema cs ∧
      (validate e schema document).result =
        .ok ⟨Fields.ofList (cs.filterMap Sum.getLeft?), cs.filterMap Sum.getRight?⟩) ∨
    ∃ before entry after f, schema = before ++ entry :: after ∧
      (∀ earlier ∈ before, ∀ f', ¬ FailsOn e document earlier f') ∧
      FailsOn e document entry f ∧
      (validate e schema document).result = .error (.refused (.failedRule entry.key f)) := by
  obtain ⟨cs, hcs⟩ | ⟨before, entry, after, cs, f, rfl, hbefore, hentry⟩ :=
    Traced.mapM_cases (contribution e document) schema
  · exact .inl ⟨cs, hcs, validate_eq_ok_iff.2 ⟨cs, hcs, rfl⟩⟩
  · obtain ⟨v, fault, hv, hfault, rfl⟩ := contribution_eq_error_iff.1 hentry
    refine .inr ⟨before, entry, after, fault, rfl, ?_, ⟨v, hv, hfault⟩, ?_⟩
    · intro earlier hearlier
      obtain ⟨c, -, hc⟩ := exists_mem_of_forall₂ hbefore.flip hearlier
      exact not_failsOn hc
    · rw [validate, validateFrom_eq, Traced.mapM_of_error hbefore hentry, Traced.bind_of_error rfl]

/-- If the rule of an entry cannot be applied, validation ends with the fault of the first such
entry. Otherwise each entry adds its value or its issue, in the order of the schema. What a document
has under other keys, and in which order, does not matter. -/
theorem validate_partition (h : schema.Compiled e') (document : Fields) :
    ((∃ entry ∈ schema, ∃ f, FailsOn e document entry f) →
      ∃ before entry after f, schema = before ++ entry :: after ∧
        (∀ earlier ∈ before, ∀ f', ¬ FailsOn e document earlier f') ∧
        FailsOn e document entry f ∧ (∀ reason, f ≠ .invalid reason) ∧
        (validate e schema document).result = .error (.refused (.failedRule entry.key f))) ∧
    ((∀ entry ∈ schema, ∀ f, ¬ FailsOn e document entry f) →
      ∃ cs, List.Forall₂ (Contributes e document) schema cs ∧
        (validate e schema document).result =
          .ok ⟨Fields.ofList (cs.filterMap Sum.getLeft?), cs.filterMap Sum.getRight?⟩) ∧
    ∀ document' : Fields,
      (∀ entry ∈ schema, document'.get? entry.key = document.get? entry.key) →
      validate e schema document' = validate e schema document := by
  refine ⟨?_, ?_, fun document' hkeys ↦ ?_⟩
  · intro hfails
    obtain ⟨entry, hentry, f, hf⟩ := hfails
    obtain ⟨cs, hcs, -⟩ | ⟨before, first, after, f', heq, hbefore, hfirst, hresult⟩ :=
      validate_cases e schema document
    · obtain ⟨c, -, hc⟩ := exists_mem_of_forall₂ hcs.flip hentry
      exact absurd hf (not_failsOn hc f)
    · exact ⟨before, first, after, f', heq, hbefore, hfirst, hfirst.ne_invalid, hresult⟩
  · intro hnone
    obtain ⟨cs, hcs, hresult⟩ | ⟨before, first, after, f', rfl, -, hfirst, -⟩ :=
      validate_cases e schema document
    · refine ⟨cs, (forall₂_congr_of_mem fun entry hentry c ↦ ?_).1 hcs, hresult⟩
      exact contribution_eq_contributes (h.sound hentry)
    · exact absurd hfirst (hnone first (by simp) f')
  · have hcontribution : schema.mapM (contribution e document') =
        schema.mapM (contribution e document) := by
      refine Traced.mapM_congr fun entry hentry ↦ ?_
      rw [contribution, contribution, outcome, outcome, hkeys entry hentry]
    rw [validate, validate, validateFrom_eq, validateFrom_eq, hcontribution]

theorem validate_partition_repeated :
    ∃ e : Engine, ∃ schema : Schema, schema.Compiled e ∧
      (∃ cs, List.Forall₂ (Contributes e [("a", .string "07")]) schema cs ∧
        (validate e schema [("a", .string "07")]).result =
          .ok ⟨Fields.ofList (cs.filterMap Sum.getLeft?), cs.filterMap Sum.getRight?⟩) ∧
      (∃ before entry after f, schema = before ++ entry :: after ∧
        (∀ earlier ∈ before, ∀ f', ¬ FailsOn e [("b", .integer 1)] earlier f') ∧
        FailsOn e [("b", .integer 1)] entry f ∧ (∀ reason, f ≠ .invalid reason) ∧
        (validate e schema [("b", .integer 1)]).result =
          .error (.refused (.failedRule entry.key f))) ∧
      validate e schema [("z", .null), ("a", .string "07")] =
        validate e schema [("a", .string "07")] := by
  let e : Engine := { catalog := .builtin }
  let failing : SchemaEntry :=
    ⟨⟨"b", "int[less(x)]", some "1"⟩, ⟨[.check "int[less(x)]"], [.solo 0], none⟩⟩
  let schema : Schema :=
    [⟨⟨"a", "int", none⟩, ⟨[.check "int"], [.solo 0], none⟩⟩, failing,
      ⟨⟨"a", "str", none⟩, ⟨[.check "str"], [.solo 0], none⟩⟩]
  have hcompile : (compile e [⟨"a", "int", none⟩, ⟨"b", "int[less(x)]", some "1"⟩,
      ⟨"a", "str", none⟩]).result = .ok schema := by
    decide +kernel
  have hfails : (contribution e [("b", .integer 1)] failing).result =
      .error (.refused (.failedRule "b" (.absence (.argument "less" 0)))) := by
    decide +kernel
  have hnone : ∀ entry ∈ schema, ∃ c,
      (contribution e [("a", .string "07")] entry).result = .ok c := by
    simp only [schema, List.forall_mem_cons]
    exact ⟨⟨.inl ("a", .integer 7), by decide +kernel⟩,
      ⟨.inr ⟨"b", [.missingKey "b"], _, some "1"⟩, by cbv⟩,
      ⟨.inl ("a", .string "07"), by decide +kernel⟩, List.forall_mem_nil _⟩
  have hcompiled : schema.Compiled e := .ofDeclarations hcompile
  refine ⟨e, schema, hcompiled, ?_, ?_, ?_⟩
  · refine (validate_partition hcompiled [("a", .string "07")]).2.1 fun entry hentry f ↦ ?_
    obtain ⟨c, hc⟩ := hnone entry hentry
    exact not_failsOn hc f
  · obtain ⟨v, fault, hv, hfault, -⟩ := contribution_eq_error_iff.1 hfails
    have hmem : failing ∈ schema := by simp [schema]
    exact (validate_partition hcompiled [("b", .integer 1)]).1 ⟨failing, hmem, fault, v, hv, hfault⟩
  · refine (validate_partition hcompiled [("a", .string "07")]).2.2 _ ?_
    simp only [schema, List.forall_mem_cons]
    exact ⟨rfl, rfl, rfl, List.forall_mem_nil _⟩

end Schema

end Rulebook
