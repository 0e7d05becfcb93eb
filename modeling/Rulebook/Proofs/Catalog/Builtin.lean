import Mathlib.Data.List.Basic
import Rulebook.Catalog.Builtin
import Rulebook.Proofs.Evaluation.Checks

namespace Rulebook

open Text

def Run.Blameless {α : Type} (run : Run α) : Prop := ∀ m, run.result ≠ .error (.mistake m)

structure Run.Plain {α : Type} (run : Run α) : Prop where
  silent : run.trail = []
  blameless : run.Blameless

theorem Run.Plain.bind {α β : Type} {run : Run α} {next : α → Run β} (h : run.Plain)
    (hnext : ∀ a, (next a).Plain) : (run >>= next).Plain where
  silent := Traced.trail_bind_of_silent h.silent fun a ↦ (hnext a).silent
  blameless m hm := by
    obtain hrun | ⟨a, -, hrun⟩ := Traced.bind_eq_error_iff.1 hm
    · exact h.blameless m hrun
    · exact (hnext a).blameless m hrun

theorem Run.plain_pure {α : Type} (a : α) : Run.Plain (.pure a) := ⟨rfl, nofun⟩

theorem Run.plain_reject {α : Type} (r : Reason) : (Run.reject r : Run α).Plain := ⟨rfl, nofun⟩

/-- A computation that leaves no events and makes no use of what it can reach. -/
structure Run.Isolated {α : Type} (run : Scope → Run α) : Prop where
  silent : ∀ scope, (run scope).trail = []
  same : ∀ scope scope', run scope = run scope'

theorem Run.Isolated.of_plain {α : Type} {run : Scope → Run α} (h : ∀ scope, (run scope).Plain)
    (same : ∀ scope scope', run scope = run scope') : Run.Isolated run :=
  ⟨fun scope ↦ (h scope).silent, same⟩

def PatternLibrary.Compiles [PatternLibrary] (pattern : String) : Prop :=
  ∃ finds, anchored pattern = .ok finds

def Input.ofValue : Value → Input
  | .string s => .raw s
  | v => .typed v

namespace Directory

variable {α : Type}

theorem get?_cons (k : String) (a : α) (d : Directory α) (name : String) :
    get? ((k, a) :: d) name = if name = k then some a else d.get? name := by
  rw [get?, List.lookup_cons]
  by_cases h : name = k
  · rw [if_pos h, h, beq_self_eq_true]
  · rw [if_neg h, beq_false_of_ne h]
    rfl

theorem get?_insert (key : String) (a : α) (d : Directory α) (name : String) :
    (d.insert key a).get? name = if name = key then some a else d.get? name := by
  induction d with
  | nil => exact get?_cons key a [] name
  | cons entry d ih =>
    obtain ⟨k, b⟩ := entry
    rw [insert]
    split
    · next h =>
      rw [get?_cons, get?_cons, h]
      split <;> rfl
    · next h =>
      split
      · exact get?_cons key a _ name
      · rw [get?_cons, get?_cons, ih]
        by_cases hk : name = k
        · rw [if_pos hk, if_pos hk, if_neg fun hname ↦ h (hname.symm.trans hk)]
        · rw [if_neg hk, if_neg hk]

end Directory

namespace RuleType

variable {t : RuleType} {name called describe : String} {signature : Signature}
  {apply : Scope → Value → List Value → Run (Option Value)} {P : String → Function → Prop}

theorem function?_withFunction :
    (t.withFunction name describe signature apply).function? called =
      if lower called = lower name then some ⟨lower name, describe, signature, apply⟩
      else t.function? called :=
  Directory.get?_insert _ _ _ _

/-- Every function of a type has a property, together with its name. -/
def EachFunction (t : RuleType) (P : String → Function → Prop) : Prop :=
  ∀ called f, t.function? called = some f → P (lower called) f

theorem eachFunction_make {accepts : List Kind} {convert : Scope → String → Run Value} :
    (make name describe accepts convert).EachFunction P :=
  nofun

theorem EachFunction.formattedBy {format : Value → String} (ht : t.EachFunction P) :
    (t.formattedBy format).EachFunction P :=
  ht

theorem EachFunction.withFunction (ht : t.EachFunction P)
    (h : P (lower name) ⟨lower name, describe, signature, apply⟩) :
    (t.withFunction name describe signature apply).EachFunction P := by
  intro called f hf
  rw [function?_withFunction] at hf
  split at hf
  · next hname =>
    cases hf
    rwa [hname]
  · exact ht called f hf

structure NeverBlames (type : RuleType) (scope : Scope) : Prop where
  converter : ∀ text, (type.convert scope text).Blameless
  function : type.EachFunction fun _ f ↦ ∀ v arguments, (f.apply scope v arguments).Blameless

namespace NeverBlames

variable {scope : Scope}

theorem make {accepts : List Kind} {convert : Scope → String → Run Value}
    (h : ∀ text, (convert scope text).Blameless) :
    (make name describe accepts convert).NeverBlames scope :=
  ⟨h, eachFunction_make⟩

theorem withFunction (ht : t.NeverBlames scope)
    (h : ∀ v arguments, (apply scope v arguments).Blameless) :
    (t.withFunction name describe signature apply).NeverBlames scope :=
  ⟨ht.converter, ht.function.withFunction h⟩

theorem formattedBy {format : Value → String} (ht : t.NeverBlames scope) :
    (t.formattedBy format).NeverBlames scope :=
  ⟨ht.converter, ht.function.formattedBy⟩

end NeverBlames

/-- A type reaches for nothing beyond the context and the rule that the arguments of a call spell
out. -/
structure Contained (type : RuleType) : Prop where
  converter : ∀ scope scope' text, scope.context = scope'.context →
    type.convert scope text = type.convert scope' text
  function : type.EachFunction fun _ f ↦ ∀ scope scope' v arguments,
    scope.context = scope'.context →
    (∀ input, scope.apply (.text (Dict.ruleOf arguments)) input =
      scope'.apply (.text (Dict.ruleOf arguments)) input) →
    f.apply scope v arguments = f.apply scope' v arguments

/-- A type that needs no context and makes no use of what it can reach. -/
structure Isolated (type : RuleType) : Prop where
  requires : type.requires = []
  converter : ∀ text, Run.Isolated fun scope ↦ type.convert scope text
  function : type.EachFunction fun _ f ↦
    ∀ v arguments, Run.Isolated fun scope ↦ f.apply scope v arguments

namespace Isolated

theorem make {accepts : List Kind} {convert : Scope → String → Run Value}
    (h : ∀ text, Run.Isolated fun scope ↦ convert scope text) :
    (make name describe accepts convert).Isolated :=
  ⟨rfl, h, eachFunction_make⟩

theorem withFunction (ht : t.Isolated)
    (h : ∀ v arguments, Run.Isolated fun scope ↦ apply scope v arguments) :
    (t.withFunction name describe signature apply).Isolated :=
  ⟨ht.requires, ht.converter, ht.function.withFunction h⟩

theorem formattedBy {format : Value → String} (ht : t.Isolated) :
    (t.formattedBy format).Isolated :=
  ⟨ht.requires, ht.converter, ht.function.formattedBy⟩

theorem contained (ht : t.Isolated) : t.Contained where
  converter scope scope' text _ := (ht.converter text).same scope scope'
  function _ _ hf scope scope' v arguments _ _ :=
    (ht.function _ _ hf v arguments).same scope scope'

end Isolated

end RuleType

theorem Signature.readAll_strings (function : String) (arguments : List String) :
    (variadic .string).readAll function arguments = .ok (arguments.map .string) := by
  have hfrom (i : Nat) : (variadic .string).readFrom function i arguments =
      .ok (arguments.map .string) := by
    induction arguments generalizing i with
    | nil => rfl
    | cons a as ih =>
      have htail := ih (i + 1)
      rw [readFrom]
      show (Value.string a :: ·) <$> _ = _
      rw [htail]
      rfl
  exact hfrom 0

theorem filterMap_string (texts : List String) :
    (texts.map Value.string).filterMap Value.string? = texts := by
  rw [List.filterMap_map]
  exact List.filterMap_some

theorem integerArgument_plain (arguments : List Value) (i : Nat) :
    (integerArgument arguments i).Plain := by
  rw [integerArgument]
  split <;> exact ⟨rfl, nofun⟩

theorem integerOf_plain (v : Value) : (integerOf v).Plain := by
  rw [integerOf]
  split <;> exact ⟨rfl, nofun⟩

theorem textOf_plain (v : Value) : (textOf v).Plain := by
  rw [textOf.eq_def]
  split <;> exact ⟨rfl, nofun⟩

theorem keepIf_plain (holds : Bool) (r : Reason) : (keepIf holds r).Plain := by
  rw [keepIf]
  split <;> exact ⟨rfl, nofun⟩

namespace Integer

variable (scope : Scope)

theorem convert_plain (text : String) : (convert scope text).Plain := by
  rw [convert]
  split
  · exact Run.plain_pure _
  · exact Run.plain_reject _

theorem between_plain (v : Value) (arguments : List Value) :
    (between scope v arguments).Plain := by
  refine (integerArgument_plain arguments 0).bind fun least ↦ ?_
  refine (integerArgument_plain arguments 1).bind fun greatest ↦ ?_
  exact (integerOf_plain v).bind fun n ↦ keepIf_plain _ _

theorem less_plain (v : Value) (arguments : List Value) : (less scope v arguments).Plain := by
  refine (integerArgument_plain arguments 0).bind fun bound ↦ ?_
  exact (integerOf_plain v).bind fun n ↦ keepIf_plain _ _

theorem greater_plain (v : Value) (arguments : List Value) :
    (greater scope v arguments).Plain := by
  refine (integerArgument_plain arguments 0).bind fun bound ↦ ?_
  exact (integerOf_plain v).bind fun n ↦ keepIf_plain _ _

theorem neverBlames : type.NeverBlames scope :=
  (RuleType.NeverBlames.make fun text ↦ (convert_plain scope text).blameless).withFunction
      (fun v arguments ↦ (between_plain scope v arguments).blameless)
    |>.withFunction (fun v arguments ↦ (less_plain scope v arguments).blameless)
    |>.withFunction (fun v arguments ↦ (greater_plain scope v arguments).blameless)

theorem isolated : type.Isolated :=
  (RuleType.Isolated.make fun text ↦ .of_plain (convert_plain · text) fun _ _ ↦ rfl).withFunction
      (fun v arguments ↦ .of_plain (between_plain · v arguments) fun _ _ ↦ rfl)
    |>.withFunction (fun v arguments ↦ .of_plain (less_plain · v arguments) fun _ _ ↦ rfl)
    |>.withFunction (fun v arguments ↦ .of_plain (greater_plain · v arguments) fun _ _ ↦ rfl)

end Integer

namespace Truth

theorem convert_plain (scope : Scope) (text : String) : (convert scope text).Plain := by
  rw [convert]
  generalize read? text = b
  cases b with
  | some b => exact Run.plain_pure _
  | none => exact Run.plain_reject _

theorem neverBlames (scope : Scope) : type.NeverBlames scope :=
  (RuleType.NeverBlames.make fun text ↦ (convert_plain scope text).blameless).formattedBy

theorem isolated : type.Isolated :=
  (RuleType.Isolated.make fun text ↦ .of_plain (convert_plain · text) fun _ _ ↦ rfl).formattedBy

end Truth

namespace Url

theorem convert_plain (scope : Scope) (text : String) : (convert scope text).Plain := by
  rw [convert]
  generalize check (strip text) = r
  cases r with
  | ok u => exact Run.plain_pure _
  | error f => exact Run.plain_reject _

theorem neverBlames (scope : Scope) : type.NeverBlames scope :=
  .make fun text ↦ (convert_plain scope text).blameless

theorem isolated : type.Isolated :=
  .make fun text ↦ .of_plain (convert_plain · text) fun _ _ ↦ rfl

end Url

namespace Str

theorem length_plain (scope : Scope) (v : Value) (arguments : List Value) :
    (length scope v arguments).Plain := by
  refine (integerArgument_plain arguments 0).bind fun least ↦ ?_
  refine (integerArgument_plain arguments 1).bind fun greatest ↦ ?_
  exact (textOf_plain v).bind fun _ ↦ keepIf_plain _ _

theorem includes_plain (scope : Scope) (v : Value) (arguments : List Value) :
    (includes scope v arguments).Plain :=
  (textOf_plain v).bind fun _ ↦ keepIf_plain _ _

theorem alphanumeric_plain (scope : Scope) (v : Value) (arguments : List Value) :
    (alphanumeric scope v arguments).Plain :=
  (textOf_plain v).bind fun _ ↦ keepIf_plain _ _

theorem isOneOf_plain (scope : Scope) (v : Value) (arguments : List Value) :
    (isOneOf scope v arguments).Plain :=
  (textOf_plain v).bind fun _ ↦ keepIf_plain _ _

variable [PatternLibrary]

theorem matchAll_eq_mistake {text : String} {ps : List String} {m : Mistake}
    (h : (matchAll text ps).result = .error (.mistake m)) :
    ∃ p ∈ ps, ∃ why, m = .pattern p why ∧ PatternLibrary.anchored p = .error why := by
  induction ps with
  | nil => cases h
  | cons p ps ih =>
    rw [matchAll] at h
    split at h
    · next why hwhy =>
      cases h
      exact ⟨p, List.mem_cons_self, why, rfl, hwhy⟩
    · split at h
      · obtain ⟨p', hp', hrest⟩ := ih h
        exact ⟨p', List.mem_cons_of_mem p hp', hrest⟩
      · cases h

theorem pattern_eq_mistake {scope : Scope} {v : Value} {arguments : List Value} {m : Mistake}
    (h : (pattern scope v arguments).result = .error (.mistake m)) :
    ∃ p ∈ arguments.filterMap Value.string?, ∃ why, m = .pattern p why ∧
      PatternLibrary.anchored p = .error why := by
  obtain hv | ⟨text, -, hmatch⟩ := Traced.bind_eq_error_iff.1 h
  · exact absurd hv ((textOf_plain v).blameless m)
  · exact matchAll_eq_mistake hmatch

theorem matchAll_silent (text : String) (ps : List String) : (matchAll text ps).trail = [] := by
  induction ps with
  | nil => rfl
  | cons p ps ih =>
    rw [matchAll]
    split
    · rfl
    · split
      · exact ih
      · rfl

theorem eachFunction : type.EachFunction fun name f ↦
    (name = "regex" ∧ f.signature = .variadic .string ∧ f.apply = pattern) ∨
      ∀ scope v arguments, (f.apply scope v arguments).Blameless := by
  refine RuleType.eachFunction_make.withFunction (.inr fun scope v arguments ↦ ?_)
    |>.withFunction (.inr fun scope v arguments ↦ ?_)
    |>.withFunction (.inr fun scope v arguments ↦ ?_)
    |>.withFunction (.inr fun scope v arguments ↦ ?_)
    |>.withFunction (.inl ⟨rfl, rfl, rfl⟩)
  · exact (length_plain scope v arguments).blameless
  · exact (includes_plain scope v arguments).blameless
  · exact (alphanumeric_plain scope v arguments).blameless
  · exact (isOneOf_plain scope v arguments).blameless

theorem isolated : type.Isolated := by
  refine (RuleType.Isolated.make fun text ↦ ⟨fun _ ↦ rfl, fun _ _ ↦ rfl⟩).withFunction
      (fun v arguments ↦ .of_plain (length_plain · v arguments) fun _ _ ↦ rfl)
    |>.withFunction (fun v arguments ↦ .of_plain (includes_plain · v arguments) fun _ _ ↦ rfl)
    |>.withFunction (fun v arguments ↦ .of_plain (alphanumeric_plain · v arguments) fun _ _ ↦ rfl)
    |>.withFunction (fun v arguments ↦ .of_plain (isOneOf_plain · v arguments) fun _ _ ↦ rfl)
    |>.withFunction fun v arguments ↦ ⟨fun scope ↦ ?_, fun _ _ ↦ rfl⟩
  exact Traced.trail_bind_of_silent (textOf_plain v).silent fun text ↦ matchAll_silent text _

end Str

namespace Dict

variable {scope scope' : Scope} {rule : String} {run : Input → Run Outcome}

theorem applyTo_eq (v : Value) : applyTo scope rule v = scope.apply (.text rule) (.ofValue v) := by
  cases v <;> rfl

/-- The part of an entry that a function replaces: the value it applies the rule to, the entry with
the result in its place, and what is wrong if the value is invalid. -/
structure Part where
  subject : String × Value → Value
  put : String × Value → Value → String × Value
  blame : String × Value → List Reason → Reason

namespace Part

def key : Part := ⟨fun entry ↦ .string entry.1, fun entry v ↦ (v.display, entry.2),
  fun entry ↦ .badKey entry.1⟩

def value : Part := ⟨Prod.snd, fun entry v ↦ (entry.1, v), fun entry ↦ .badEntry entry.1⟩

def judge (p : Part) (entry : String × Value) : Outcome → Run (String × Value)
  | .valid v => .pure (p.put entry v)
  | .invalid reasons => .reject (p.blame entry reasons)

def pass (p : Part) (run : Input → Run Outcome) (entry : String × Value) :
    Run (String × Value) := do
  p.judge entry (← run (.ofValue (p.subject entry)))

def apply (p : Part) (run : Input → Run Outcome) (v : Value) : Run Value := do
  let entries ← entriesOf v
  return .object (Fields.ofList (← entries.mapM (p.pass run)))

theorem apply_object (p : Part) (run : Input → Run Outcome) (entries : Fields) :
    p.apply run (.object entries) = (do
      return .object (Fields.ofList (← entries.mapM (p.pass run)))) :=
  Traced.bind_of_ok rfl _

theorem trail_pass (p : Part) (run : Input → Run Outcome) (entry : String × Value) :
    (p.pass run entry).trail = (run (.ofValue (p.subject entry))).trail := by
  rw [pass]
  cases ho : (run (.ofValue (p.subject entry))).result with
  | ok o =>
    rw [Traced.bind_of_ok ho]
    cases o <;> exact List.append_nil _
  | error f => rw [Traced.bind_of_error ho]

theorem pass_eq_ok_iff {p : Part} {entry passed : String × Value} :
    (p.pass run entry).result = .ok passed ↔
      ∃ v, (run (.ofValue (p.subject entry))).result = .ok (.valid v) ∧ passed = p.put entry v := by
  rw [pass, Traced.bind_eq_ok_iff]
  constructor
  · intro h
    obtain ⟨o, ho, hjudge⟩ := h
    cases o with
    | valid v =>
      cases hjudge
      exact ⟨v, ho, rfl⟩
    | invalid reasons => cases hjudge
  · intro h
    obtain ⟨v, hv, rfl⟩ := h
    exact ⟨_, hv, rfl⟩

theorem forall₂_pass_iff {p : Part} {entries passed : Fields} :
    List.Forall₂ (fun entry b ↦ (p.pass run entry).result = .ok b) entries passed ↔
      ∃ vs, List.Forall₂ (fun entry v ↦
        (run (.ofValue (p.subject entry))).result = .ok (.valid v)) entries vs ∧
        passed = entries.zipWith p.put vs := by
  induction entries generalizing passed with
  | nil => simp
  | cons entry entries ih =>
    simp only [List.forall₂_cons_left_iff, pass_eq_ok_iff] at ih ⊢
    constructor
    · intro h
      obtain ⟨_, passed, ⟨v, hv, rfl⟩, htail, rfl⟩ := h
      obtain ⟨vs, hvs, rfl⟩ := ih.1 htail
      exact ⟨v :: vs, ⟨v, vs, hv, hvs, rfl⟩, rfl⟩
    · intro h
      obtain ⟨_, ⟨v, vs, hv, hvs, rfl⟩, rfl⟩ := h
      exact ⟨_, _, ⟨v, hv, rfl⟩, ih.2 ⟨vs, hvs, rfl⟩, rfl⟩

end Part

theorem Part.loop_eq (p : Part) {loop : Fields → Fields → Run Fields}
    (hnil : ∀ done, loop done [] = Traced.pure done)
    (hcons : ∀ done entry entries, loop done (entry :: entries) = (do
      let passed ← p.pass run entry
      loop (done.insert passed.1 passed.2) entries)) (done entries : Fields) :
    loop done entries = (do
      let passed ← entries.mapM (p.pass run)
      return passed.foldl (fun fs entry ↦ fs.insert entry.1 entry.2) done) := by
  induction entries generalizing done with
  | nil => exact hnil done
  | cons entry entries ih =>
    rw [hcons, List.mapM_cons, bind_assoc]
    refine Traced.bind_congr fun passed _ ↦ ?_
    rw [ih, bind_assoc]
    rfl

theorem replaceKeys_eq (done entries : Fields) : replaceKeys scope rule done entries = (do
    let passed ← entries.mapM (Part.key.pass (scope.apply (.text rule)))
    return passed.foldl (fun fs entry ↦ fs.insert entry.1 entry.2) done) := by
  refine Part.key.loop_eq (fun _ ↦ rfl) (fun done entry entries ↦ ?_) done entries
  rw [replaceKeys, Part.pass, bind_assoc, applyTo_eq]
  refine Traced.bind_congr fun o _ ↦ ?_
  cases o <;> rfl

theorem replaceValues_eq (done entries : Fields) : replaceValues scope rule done entries = (do
    let passed ← entries.mapM (Part.value.pass (scope.apply (.text rule)))
    return passed.foldl (fun fs entry ↦ fs.insert entry.1 entry.2) done) := by
  refine Part.value.loop_eq (fun _ ↦ rfl) (fun done entry entries ↦ ?_) done entries
  rw [replaceValues, Part.pass, bind_assoc, applyTo_eq]
  refine Traced.bind_congr fun o _ ↦ ?_
  cases o <;> rfl

theorem key_eq (v : Value) (arguments : List Value) :
    key scope v arguments = some <$> Part.key.apply (scope.apply (.text (ruleOf arguments))) v := by
  rw [key, Part.apply, map_eq_pure_bind, bind_assoc]
  refine Traced.bind_congr fun entries _ ↦ ?_
  rw [replaceKeys_eq, bind_assoc, bind_assoc]
  rfl

theorem value_eq (v : Value) (arguments : List Value) : value scope v arguments =
    some <$> Part.value.apply (scope.apply (.text (ruleOf arguments))) v := by
  rw [value, Part.apply, map_eq_pure_bind, bind_assoc]
  refine Traced.bind_congr fun entries _ ↦ ?_
  rw [replaceValues_eq, bind_assoc, bind_assoc]
  rfl

theorem function?_eq (name : String) : type.function? name =
    if lower name = "value" then
      some ⟨"value", "with values matching rule %all", .variadic .string, value⟩
    else if lower name = "key" then
      some ⟨"key", "with keys matching rule %all", .variadic .string, key⟩
    else none := by
  rw [type, RuleType.function?_withFunction, RuleType.function?_withFunction]
  rfl

theorem function?_value : type.function? "value" =
    some ⟨"value", "with values matching rule %all", .variadic .string, value⟩ :=
  function?_eq "value"

theorem contained : type.Contained where
  converter _ _ _ _ := rfl
  function := by
    refine .withFunction (.withFunction (.formattedBy RuleType.eachFunction_make)
      fun scope scope' v arguments _ h ↦ ?_) fun scope scope' v arguments _ h ↦ ?_
    · show key scope v arguments = key scope' v arguments
      rw [key_eq, key_eq, funext h]
    · show value scope v arguments = value scope' v arguments
      rw [value_eq, value_eq, funext h]

theorem entriesOf_plain (v : Value) : (entriesOf v).Plain := by
  cases v <;> exact ⟨rfl, nofun⟩

theorem Part.apply_eq_mistake {p : Part} {v : Value} {m : Mistake}
    (h : (p.apply run v).result = .error (.mistake m)) :
    ∃ input, (run input).result = .error (.mistake m) := by
  obtain hv | ⟨entries, -, h⟩ := Traced.bind_eq_error_iff.1 h
  · exact absurd hv ((entriesOf_plain v).blameless m)
  obtain ⟨entry, -, h⟩ := Traced.exists_of_mapM_eq_error (Traced.result_of_bind_pure h)
  obtain hrun | ⟨o, -, hjudge⟩ := Traced.bind_eq_error_iff.1 h
  · exact ⟨_, hrun⟩
  · cases o <;> cases hjudge

theorem eachFunction : type.EachFunction fun _ f ↦ f.signature = .variadic .string ∧
    ∀ scope v arguments m, (f.apply scope v arguments).result = .error (.mistake m) →
      ∃ input, (scope.apply (.text (ruleOf arguments)) input).result = .error (.mistake m) := by
  refine .withFunction (.withFunction (.formattedBy RuleType.eachFunction_make)
    ⟨rfl, fun scope v arguments m h ↦ ?_⟩) ⟨rfl, fun scope v arguments m h ↦ ?_⟩
  · change (key scope v arguments).result = _ at h
    rw [key_eq, map_eq_pure_bind] at h
    exact Part.apply_eq_mistake (Traced.result_of_bind_pure h)
  · change (value scope v arguments).result = _ at h
    rw [value_eq, map_eq_pure_bind] at h
    exact Part.apply_eq_mistake (Traced.result_of_bind_pure h)

theorem convert_plain (scope : Scope) (text : String) : (convert scope text).Plain := by
  rw [convert]
  generalize read text = r
  cases r with
  | ok entries => exact Run.plain_pure _
  | error r => exact Run.plain_reject _

end Dict

theorem Catalog.find?_nil (name : String) : find? [] name = none := rfl

theorem Catalog.find?_register (c : Catalog) (t : RuleType) (name : String) :
    (c.register t).find? name = if lower name = t.name then some t else c.find? name :=
  Directory.get?_insert _ _ _ _

section

variable [PatternLibrary]

theorem Catalog.find?_builtin {name : String} {type : RuleType} :
    builtin.find? name = some type ↔
      lower name = "str" ∧ type = Str.type ∨ lower name = "int" ∧ type = Integer.type ∨
      lower name = "bool" ∧ type = Truth.type ∨ lower name = "url" ∧ type = Url.type ∨
      lower name = "dict" ∧ type = Dict.type := by
  have hstr : Str.type.name = "str" := rfl
  have hint : Integer.type.name = "int" := rfl
  have hbool : Truth.type.name = "bool" := rfl
  have hurl : Url.type.name = "url" := rfl
  have hdict : Dict.type.name = "dict" := rfl
  simp only [builtin, List.foldl_cons, List.foldl_nil, find?_register, find?_nil, hstr, hint, hbool,
    hurl, hdict]
  grind

theorem Catalog.find?_dict : builtin.find? "dict" = some Dict.type :=
  find?_builtin.2 (.inr (.inr (.inr (.inr ⟨rfl, rfl⟩))))

theorem Catalog.contained_of_builtin {name : String} {type : RuleType}
    (h : builtin.find? name = some type) : type.Contained := by
  obtain ⟨-, rfl⟩ | ⟨-, rfl⟩ | ⟨-, rfl⟩ | ⟨-, rfl⟩ | ⟨-, rfl⟩ := find?_builtin.1 h
  · exact Str.isolated.contained
  · exact Integer.isolated.contained
  · exact Truth.isolated.contained
  · exact Url.isolated.contained
  · exact Dict.contained

end

end Rulebook
