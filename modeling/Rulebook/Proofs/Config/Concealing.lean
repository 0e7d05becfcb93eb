import Mathlib
import Rulebook.Pattern.Matching
import Rulebook.Proofs.Config.Validation
import Rulebook.Proofs.Evaluation.Static
import Rulebook.Proofs.Equality

namespace Rulebook

open Text

def Check.patterns (c : Check) : List String :=
  if lower c.typeName = "str" then
    (c.calls.filter fun call ↦ lower call.name = "regex").flatMap Call.arguments
  else []

def Check.rules (c : Check) : List String :=
  if lower c.typeName = "dict" then c.calls.map fun call ↦ ",".intercalate call.arguments else []

theorem Dict.mistake_of_raises {scope : Scope} {input : Input} {calls : List Call} {m : Mistake}
    (h : type.Raises scope input calls (.mistake m)) :
    ∃ call ∈ calls, ∃ input, (scope.apply (.text (",".intercalate call.arguments)) input).result =
      .error (.mistake m) := by
  cases h with
  | converter h => exact absurd h ((Dict.convert_plain scope _).blameless m)
  | @function _ before after call v w _ hv hw h =>
    obtain ⟨f, arguments, hf, hread, h⟩ := h
    obtain ⟨hsignature, hmistake⟩ := Dict.eachFunction _ f hf
    rw [hsignature, Signature.readAll_strings] at hread
    cases hread
    obtain ⟨input, hinput⟩ := hmistake scope w _ m h
    rw [Dict.ruleOf, filterMap_string] at hinput
    exact ⟨call, by simp, input, hinput⟩

section Patterns

variable [PatternLibrary]

theorem Str.mistake_of_raises {scope : Scope} {input : Input} {calls : List Call} {m : Mistake}
    (h : type.Raises scope input calls (.mistake m)) :
    ∃ call ∈ calls, lower call.name = "regex" ∧ ∃ p ∈ call.arguments, ∃ why, m = .pattern p why ∧
      PatternLibrary.anchored p = .error why := by
  cases h with
  | converter h => exact absurd h nofun
  | @function _ before after call v w _ hv hw h =>
    obtain ⟨f, arguments, hf, hread, h⟩ := h
    obtain ⟨hname, hsignature, happly⟩ | hblameless := Str.eachFunction _ f hf
    · rw [hsignature, Signature.readAll_strings] at hread
      cases hread
      rw [happly] at h
      obtain ⟨p, hp, hpattern⟩ := Str.pattern_eq_mistake h
      rw [filterMap_string] at hp
      exact ⟨call, by simp, hname, p, hp, hpattern⟩
    · exact absurd h (hblameless scope w arguments m)

theorem Check.mistake_of_raises {scope : Scope} {input : Input} {check : Check} {type : RuleType}
    {m : Mistake} (htype : Catalog.builtin.find? check.typeName = some type)
    (h : type.Raises scope input check.calls (.mistake m)) :
    (∃ p ∈ check.patterns, ∃ why, m = .pattern p why ∧ PatternLibrary.anchored p = .error why) ∨
    ∃ rule ∈ check.rules, ∃ input,
      (scope.apply (.text rule) input).result = .error (.mistake m) := by
  obtain ⟨hname, rfl⟩ | ⟨-, rfl⟩ | ⟨-, rfl⟩ | ⟨-, rfl⟩ | ⟨hname, rfl⟩ :=
    Catalog.find?_builtin.1 htype
  · obtain ⟨call, hcall, hregex, p, hp, hpattern⟩ := Str.mistake_of_raises h
    refine .inl ⟨p, ?_, hpattern⟩
    rw [patterns, if_pos hname]
    exact List.mem_flatMap.2 ⟨call, List.mem_filter.2 ⟨hcall, by simpa using hregex⟩, hp⟩
  · exact absurd h (Integer.neverBlames scope).not_raises
  · exact absurd h (Truth.neverBlames scope).not_raises
  · exact absurd h (Url.neverBlames scope).not_raises
  · obtain ⟨call, hcall, hmistake⟩ := Dict.mistake_of_raises h
    refine .inr ⟨_, ?_, hmistake⟩
    rw [rules, if_pos hname]
    exact List.mem_map_of_mem hcall

/-- What a catalogue has beyond the built-in types never finds fault with a rule. -/
def Catalog.AddsBlameless (catalog : Catalog) : Prop :=
  ∀ name type, catalog.find? name = some type →
    builtin.find? name = some type ∨ ∀ scope, type.NeverBlames scope

theorem Catalog.addsBlameless_builtin : builtin.AddsBlameless := fun _ _ h ↦ .inl h

namespace Engine

/-- A text that compiles has a mistake nevertheless: in a pattern, in a rule that the arguments of a
check spell out, or concealed by such a rule in turn. -/
inductive Conceals (e : Engine) : String → Mistake → Prop
  | pattern {text t p why : String} {r : Rule} {check : Check}
      (h : (e.compile text).result = .ok r) (ht : t ∈ r.checks) (hread : Check.read t = .ok check)
      (hp : p ∈ check.patterns) (hwhy : PatternLibrary.anchored p = .error why) :
      Conceals e text (.pattern p why)
  | rule {text t inner : String} {r : Rule} {check : Check} {m : Mistake}
      (h : (e.compile text).result = .ok r) (ht : t ∈ r.checks) (hread : Check.read t = .ok check)
      (hinner : inner ∈ check.rules) (hm : (e.compile inner).result = .error (.mistake m)) :
      Conceals e text m
  | inner {text t inner : String} {r : Rule} {check : Check} {m : Mistake}
      (h : (e.compile text).result = .ok r) (ht : t ∈ r.checks) (hread : Check.read t = .ok check)
      (hinner : inner ∈ check.rules) (hm : Conceals e inner m) : Conceals e text m

variable {e : Engine} {text : String} {r : Rule} {m : Mistake}

theorem conceals_of_applyIn (he : e.catalog.AddsBlameless) (h : (e.compile text).result = .ok r)
    {scope : Scope} {input : Input}
    (hscope : ∀ inner input, (scope.apply (.text inner) input).result = .error (.mistake m) →
      (e.compile inner).result = .error (.mistake m) ∨ e.Conceals inner m)
    (hm : (e.applyIn scope r input).result = .error (.mistake m)) : e.Conceals text m := by
  obtain ⟨t, ht, check, type, hread, htype, hfails⟩ := fails_of_compile h hm
  cases hfails with
  | context hcontext =>
    obtain ⟨key, -, hkey | hkey⟩ := checkContext_eq_error hcontext
    · cases hkey
    · cases hkey
  | argument hcontext hmisreads =>
    obtain ⟨a, ha⟩ := hmisreads.exists_absence ((knows_of_compile h t ht).answers hread htype)
    cases ha
  | closure hcontext hraises =>
    obtain hbuiltin | hblames := he _ type htype
    · obtain ⟨p, hp, why, rfl, hwhy⟩ | ⟨inner, hinner, input', hinput⟩ :=
        Check.mistake_of_raises hbuiltin hraises
      · exact .pattern h ht hread hp hwhy
      · obtain hcompile | hconceals := hscope inner input' hinput
        · exact .rule h ht hread hinner hcompile
        · exact .inner h ht hread hinner hconceals
    · exact absurd hraises (hblames scope).not_raises

theorem conceals_of_applyWithin (he : e.catalog.AddsBlameless) {depth : Nat} {context : Context}
    {input : Input}
    (hm : (e.applyWithin depth context (.text text) input).result = .error (.mistake m)) :
    (e.compile text).result = .error (.mistake m) ∨ e.Conceals text m := by
  -- a rule in the arguments of a check is applied with one level less
  induction depth generalizing text input with
  | zero => cases hm
  | succ depth ih =>
    rw [applyWithin] at hm
    cases hr : (e.compile text).result with
    | error f =>
      have hobtain : (e.obtain (.text text)).result = .error f := hr
      rw [applyWith, Traced.bind_of_error hobtain] at hm
      cases hm
      exact .inl rfl
    | ok r =>
      have hobtain : (e.obtain (.text text)).result = .ok r := hr
      rw [applyWith_result_of_obtain hobtain] at hm
      exact .inr (conceals_of_applyIn he hr (fun inner input hinner ↦ ih hinner) hm)

theorem conceals_of_apply (he : e.catalog.AddsBlameless) (h : (e.compile text).result = .ok r)
    {context : Context} {input : Input}
    (hm : (e.apply context (.tree r) input).result = .error (.mistake m)) : e.Conceals text m := by
  rw [apply, applyWith_result_of_obtain (obtain_tree_of_compile h)] at hm
  exact conceals_of_applyIn he h (fun inner input hinner ↦ conceals_of_applyWithin he hinner) hm

/-- A rule conceals no mistake if its patterns compile, and the rules in its arguments compile
and conceal none. -/
theorem not_conceals_of_checks (h : (e.compile text).result = .ok r)
    (hchecks : ∀ t ∈ r.checks, ∃ check, Check.read t = .ok check ∧
      (∀ p ∈ check.patterns, PatternLibrary.Compiles p) ∧
      ∀ inner ∈ check.rules, (∃ r', (e.compile inner).result = .ok r') ∧ ¬ e.Conceals inner m) :
    ¬ e.Conceals text m := by
  intro hm
  cases hm with
  | pattern h' ht hread hp hwhy =>
    obtain rfl := Except.ok.inj (h.symm.trans h')
    obtain ⟨check, hread', hpatterns, -⟩ := hchecks _ ht
    obtain rfl := Except.ok.inj (hread'.symm.trans hread)
    obtain ⟨finds, hfinds⟩ := hpatterns _ hp
    cases hfinds.symm.trans hwhy
  | rule h' ht hread hinner hmistake =>
    obtain rfl := Except.ok.inj (h.symm.trans h')
    obtain ⟨check, hread', -, hrules⟩ := hchecks _ ht
    obtain rfl := Except.ok.inj (hread'.symm.trans hread)
    obtain ⟨⟨r', hr'⟩, -⟩ := hrules _ hinner
    cases hr'.symm.trans hmistake
  | inner h' ht hread hinner hm =>
    obtain rfl := Except.ok.inj (h.symm.trans h')
    obtain ⟨check, hread', -, hrules⟩ := hchecks _ ht
    obtain rfl := Except.ok.inj (hread'.symm.trans hread)
    exact (hrules _ hinner).2 hm

end Engine

namespace Schema

/-- A schema fails at a document for a mistake only if the rule of the key conceals the mistake. -/
theorem validate_mistake {e : Engine} (he : e.catalog.AddsBlameless) {ds : List Declaration}
    {schema : Schema} (h : (compile e ds).result = .ok schema) (document : Fields) :
    (∀ key m, (validate e schema document).result =
        .error (.refused (.failedRule key (.mistake m))) →
      ∃ d ∈ ds, d.key = key ∧ e.Conceals d.source m) ∧
    ((∀ d ∈ ds, ∀ m, ¬ e.Conceals d.source m) →
      ∀ key m, (validate e schema document).result ≠
        .error (.refused (.failedRule key (.mistake m)))) := by
  have hconceals (key : String) (m : Mistake)
      (hm : (validate e schema document).result =
        .error (.refused (.failedRule key (.mistake m)))) :
      ∃ d ∈ ds, d.key = key ∧ e.Conceals d.source m := by
    obtain ⟨entry, hentry, v, fault, -, hfault, heq⟩ := exists_of_validateFrom_eq_error hm
    cases heq
    obtain ⟨d, hd, hcompile, rfl⟩ := exists_mem_of_forall₂ (compile_eq_ok_iff.1 h) hentry
    exact ⟨_, hd, rfl, Engine.conceals_of_apply he hcompile hfault⟩
  refine ⟨hconceals, fun hclear key m hm ↦ ?_⟩
  obtain ⟨d, hd, -, hconceal⟩ := hconceals key m hm
  exact hclear d hd m hconceal

end Schema

end Patterns

namespace Schema

theorem compile_nosuch :
    (compile { catalog := .builtin } [⟨"k", "dict[value(nosuch)]", none⟩]).result =
      .ok [⟨⟨"k", "dict[value(nosuch)]", none⟩,
        ⟨[.check "dict[value(nosuch)]"], [.solo 0], none⟩⟩] := by
  decide +kernel

theorem validate_nosuch :
    (validate { catalog := .builtin } [⟨⟨"k", "dict[value(nosuch)]", none⟩,
      ⟨[.check "dict[value(nosuch)]"], [.solo 0], none⟩⟩]
      [("k", .object [("a", .integer 1)])]).result =
        .error (.refused (.failedRule "k" (.mistake (.unknownType "nosuch")))) := by
  decide +kernel

/-- The first schema is accepted though no type is called `nosuch`, and fails at a document with an
entry for the rule to be applied to. The rule that the second spells out compiles, and its pattern
can be read, so no document finds it mistaken. -/
theorem validate_mistake_nested :
    (∃ d ∈ [(⟨"k", "dict[value(nosuch)]", none⟩ : Declaration)], d.key = "k" ∧
      Engine.Conceals { catalog := .builtin } d.source (.unknownType "nosuch")) ∧
    ∀ document key m, (validate { catalog := .builtin }
      [⟨⟨"n", "dict[value(str[regex(a+)])]", none⟩,
        ⟨[.check "dict[value(str[regex(a+)])]"], [.solo 0], none⟩⟩] document).result ≠
        .error (.refused (.failedRule key (.mistake m))) := by
  let e : Engine := { catalog := .builtin }
  have houter : (e.compile "dict[value(str[regex(a+)])]").result =
      .ok ⟨[.check "dict[value(str[regex(a+)])]"], [.solo 0], none⟩ := by
    decide +kernel
  have hclear : (compile e [⟨"n", "dict[value(str[regex(a+)])]", none⟩]).result = .ok
      [⟨⟨"n", "dict[value(str[regex(a+)])]", none⟩,
        ⟨[.check "dict[value(str[regex(a+)])]"], [.solo 0], none⟩⟩] :=
    compile_eq_ok_iff.2 (.cons ⟨houter, rfl⟩ .nil)
  have hinner : (e.compile "str[regex(a+)]").result =
      .ok ⟨[.check "str[regex(a+)]"], [.solo 0], none⟩ := by
    decide +kernel
  have hreadOuter : Check.read "dict[value(str[regex(a+)])]" =
      .ok ⟨"dict", [⟨"value", ["str[regex(a+)]"]⟩]⟩ := by
    decide +kernel
  have hreadInner : Check.read "str[regex(a+)]" = .ok ⟨"str", [⟨"regex", ["a+"]⟩]⟩ := by
    decide +kernel
  have hpatternsOuter : Check.patterns ⟨"dict", [⟨"value", ["str[regex(a+)]"]⟩]⟩ = [] := by decide
  have hrulesOuter : Check.rules ⟨"dict", [⟨"value", ["str[regex(a+)]"]⟩]⟩ =
      ["str[regex(a+)]"] := by
    decide
  have hpatternsInner : Check.patterns ⟨"str", [⟨"regex", ["a+"]⟩]⟩ = ["a+"] := by decide
  have hrulesInner : Check.rules ⟨"str", [⟨"regex", ["a+"]⟩]⟩ = [] := by decide
  have hnone (m : Mistake) : ¬ e.Conceals "str[regex(a+)]" m := by
    refine Engine.not_conceals_of_checks hinner ?_
    refine List.forall_mem_singleton.2 ⟨_, hreadInner, ?_, ?_⟩
    · rw [hpatternsInner]
      exact List.forall_mem_singleton.2 ⟨_, rfl⟩
    · rw [hrulesInner]
      exact List.forall_mem_nil _
  constructor
  · exact (validate_mistake Catalog.addsBlameless_builtin compile_nosuch
      [("k", .object [("a", .integer 1)])]).1 "k" _ validate_nosuch
  · intro document
    refine (validate_mistake Catalog.addsBlameless_builtin hclear document).2 fun d hd m ↦ ?_
    obtain rfl := List.mem_singleton.1 hd
    refine Engine.not_conceals_of_checks houter ?_
    refine List.forall_mem_singleton.2 ⟨_, hreadOuter, ?_, ?_⟩
    · rw [hpatternsOuter]
      exact List.forall_mem_nil _
    · rw [hrulesOuter]
      exact List.forall_mem_singleton.2 ⟨⟨_, hinner⟩, hnone m⟩

/-- A mistake in a rule can outlive the compilation of the schema. -/
theorem not_forall_validate_ne_mistake :
    ¬ ∀ (e : Engine), e.catalog = .builtin → ∀ (ds : List Declaration) (schema : Schema),
      (compile e ds).result = .ok schema → ∀ (document : Fields) (key : String) (m : Mistake),
        (validate e schema document).result ≠ .error (.refused (.failedRule key (.mistake m))) := by
  intro h
  exact h { catalog := .builtin } rfl _ _ compile_nosuch [("k", .object [("a", .integer 1)])] "k"
    (.unknownType "nosuch") validate_nosuch

end Schema

end Rulebook
