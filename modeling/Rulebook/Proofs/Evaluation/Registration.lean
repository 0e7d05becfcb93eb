import Mathlib
import Rulebook.Pattern.Matching
import Rulebook.Proofs.Catalog.Applications
import Rulebook.Proofs.Evaluation.Checks
import Rulebook.Proofs.Evaluation.Depth
import Rulebook.Proofs.Evaluation.Descriptions
import Rulebook.Proofs.Text.Lowercase
import Rulebook.Proofs.Equality

namespace Rulebook

open Text

theorem readTypeName_lower {text : List Char} {name : String} (h : readTypeName text = .ok name) :
    lower name = name := by
  simp only [readTypeName] at h
  split at h
  · cases h
  · obtain rfl := Except.ok.inj h
    exact lower_lower _

theorem Check.lower_typeName {t : String} {check : Check} (h : Check.read t = .ok check) :
    lower check.typeName = check.typeName := by
  simp only [Check.read] at h
  split at h
  · obtain ⟨name, hname, h⟩ := bind_eq_ok_iff.1 h
    cases h
    exact readTypeName_lower hname
  · split at h
    · cases h
    · obtain ⟨calls, -, h⟩ := bind_eq_ok_iff.1 h
      obtain ⟨name, hname, h⟩ := bind_eq_ok_iff.1 h
      cases h
      exact readTypeName_lower hname

namespace RuleType

/-- The converter and the functions of a type may look at the context but apply no rules. -/
structure Standalone (type : RuleType) : Prop where
  converter : ∀ scope scope' text, scope.context = scope'.context →
    type.convert scope text = type.convert scope' text
  function : type.EachFunction fun _ f ↦ ∀ scope scope' v arguments,
    scope.context = scope'.context → f.apply scope v arguments = f.apply scope' v arguments

theorem Isolated.standalone {type : RuleType} (h : type.Isolated) : type.Standalone where
  converter scope scope' text _ := (h.converter text).same scope scope'
  function _ _ hf scope scope' v arguments _ := (h.function _ _ hf v arguments).same scope scope'

namespace Standalone

variable {type : RuleType} {scope scope' : Scope} (h : type.Standalone)
  (hcontext : scope.context = scope'.context)

include h hcontext

theorem receive (input : Input) : type.receive scope input = type.receive scope' input := by
  cases input with
  | raw text => exact h.converter scope scope' text hcontext
  | typed v => rfl

theorem applyCall (v : Value) (call : Call) :
    type.applyCall scope v call = type.applyCall scope' v call := by
  rw [RuleType.applyCall, RuleType.applyCall]
  refine Traced.bind_congr fun f hf ↦ ?_
  refine Traced.bind_congr fun arguments _ ↦ ?_
  have hfunction := resolve_eq_ok_iff.1 (ofMistake_eq_ok_iff.1 hf)
  rw [h.function call.name f hfunction scope scope' v arguments hcontext]

theorem applyCalls (v : Value) (calls : List Call) :
    type.applyCalls scope v calls = type.applyCalls scope' v calls := by
  induction calls generalizing v with
  | nil => rfl
  | cons call calls ih =>
    rw [RuleType.applyCalls, RuleType.applyCalls, h.applyCall hcontext]
    exact Traced.bind_congr fun w _ ↦ ih w

end Standalone

end RuleType

namespace Catalog

/-- Two catalogues have the same type for a check, if it names one. -/
def SameFor (c c' : Catalog) (t : String) : Prop :=
  ∀ check, Check.read t = .ok check → c.find? check.typeName = c'.find? check.typeName

namespace SameFor

variable {c c' : Catalog} {t : String} (h : c.SameFor c' t)

include h

theorem resolve {check : Check} (hread : Check.read t = .ok check) :
    c.resolve check.typeName = c'.resolve check.typeName := by
  rw [Catalog.resolve, Catalog.resolve, h check hread]

theorem check : c.check t = c'.check t := by
  rw [Catalog.check, Catalog.check]
  cases hread : Check.read t with
  | error m => rfl
  | ok check =>
    show (c.resolve check.typeName >>= _) = c'.resolve check.typeName >>= _
    rw [h.resolve hread]

theorem describeCheck : c.describeCheck t = c'.describeCheck t := by
  rw [Catalog.describeCheck, Catalog.describeCheck]
  cases hread : Check.read t with
  | error m => rfl
  | ok check =>
    dsimp only
    rw [h check hread]

theorem evaluate (hstandalone : ∀ check type, Check.read t = .ok check →
      c.find? check.typeName = some type → type.Standalone) {scope scope' : Scope}
    (hcontext : scope.context = scope'.context) (input : Input) :
    c.evaluate scope input t = c'.evaluate scope' input t := by
  rw [Catalog.evaluate, Catalog.evaluate, hcontext]
  refine Traced.bind_congr fun check hread ↦ ?_
  rw [ofMistake_eq_ok_iff] at hread
  rw [h.resolve hread]
  refine Traced.bind_congr fun type htype ↦ ?_
  rw [ofMistake_eq_ok_iff, ← h.resolve hread, resolve_eq_ok_iff] at htype
  have htype := hstandalone check type hread htype
  refine Traced.bind_congr fun _ _ ↦ ?_
  rw [htype.receive hcontext]
  exact Traced.bind_congr fun v _ ↦ htype.applyCalls hcontext v check.calls

end SameFor

theorem describe_congr {c c' : Catalog} {r : Rule} (h : ∀ t ∈ r.checks, c.SameFor c' t) :
    c.describe r = c'.describe r := by
  induction r using rule_induction with
  | step r ih =>
    have hleaf (l : Leaf) (hl : l ∈ r.leaves) : describeLeaf c l = describeLeaf c' l := by
      cases l with
      | check t =>
        exact (h t (Rule.mem_checks.2 ⟨_, hl, List.mem_singleton_self t⟩)).describeCheck
      | nested s =>
        have hs := ih s hl fun t ht ↦ h t (Rule.mem_checks.2 ⟨_, hl, ht⟩)
        rw [describeLeaf, describeLeaf, hs]
    obtain ⟨leaves, groups, capture⟩ := r
    have hmap : leaves.map (describeLeaf c) = leaves.map (describeLeaf c') :=
      List.map_congr_left hleaf
    rw [describe, describe, describeLeaves_eq_map, describeLeaves_eq_map, hmap]

theorem standalone_of_builtin [PatternLibrary] {name : String} {type : RuleType}
    (hname : lower name ≠ "dict") (h : builtin.find? name = some type) : type.Standalone :=
  (closed_builtin.isolated name type hname h).standalone

theorem sameFor_register {c : Catalog} {type : RuleType} {t : String}
    (h : ∀ check, Check.read t = .ok check → check.typeName ≠ type.name) :
    (c.register type).SameFor c t := by
  intro check hread
  rw [find?_register, if_neg]
  rw [Check.lower_typeName hread]
  exact h check hread

end Catalog

namespace Engine

def leafTexts (e : Engine) : Source → List String
  | .text t =>
    match Rule.read e.limits t with
    | .ok r => r.checks
    | .error _ => []
  | .tree r => r.checks

theorem checks_of_obtain {e : Engine} {source : Source} {r : Rule}
    (h : (e.obtain source).result = .ok r) : r.checks = e.leafTexts source := by
  cases source with
  | text t => rw [leafTexts, read_of_compile h]
  | tree r' =>
    rw [obtain] at h
    split at h
    · cases h
    · cases h
      rfl

section Register

variable {e : Engine} {type : RuleType} {source : Source}
  (h : ∀ t ∈ e.leafTexts source, (e.catalog.register type).SameFor e.catalog t)

include h

theorem obtain_register : (e.register type).obtain source = e.obtain source := by
  cases source with
  | tree r => rfl
  | text t =>
    rw [obtain, obtain, compile, compile]
    refine Traced.bind_congr fun r hr ↦ ?_
    have hread : Rule.read e.limits t = .ok r :=
      mapError_eq_ok_iff.1 (ofMistake_eq_ok_iff.1 hr)
    rw [leafTexts, hread] at h
    have hchecks : r.checks.forM (e.register type).catalog.check =
        r.checks.forM e.catalog.check :=
      forM_congr fun text htext ↦ (h text htext).check
    rw [hchecks]
    rfl

theorem describe_register : (e.register type).describe source = e.describe source := by
  rw [describe, describe, obtain_register h]
  refine Traced.bind_congr fun r hr ↦ ?_
  rw [← checks_of_obtain hr] at h
  exact congrArg pure (Catalog.describe_congr h)

theorem apply_register (hstandalone : ∀ t ∈ e.leafTexts source, ∀ check found,
      Check.read t = .ok check → e.catalog.find? check.typeName = some found → found.Standalone)
    (context : Context) (input : Input) :
    (e.register type).apply context source input = e.apply context source input := by
  rw [apply, apply, applyWith, applyWith, obtain_register h]
  refine Traced.bind_congr fun r hr ↦ ?_
  rw [← checks_of_obtain hr] at h hstandalone
  have hrule : (e.register type).applyIn ((e.register type).scopeFor context r.checks) r input =
      e.applyIn (e.scopeFor context r.checks) r input := by
    have hcontext : ((e.register type).scopeFor context r.checks).context =
        (e.scopeFor context r.checks).context := rfl
    refine Rule.apply_congr fun t ht ↦ (h t ht).evaluate (fun check found hread hfound ↦ ?_)
      hcontext input
    rw [h t ht check hread] at hfound
    exact hstandalone t ht check found hread hfound
  rw [hrule]

end Register

/-- Registers types one after the other, each with the name that it was given. -/
def registerAll (e : Engine) (entries : List (String × RuleType)) : Engine :=
  entries.foldl (fun e entry ↦ e.register entry.2) e

theorem find?_registerAll_of_ne {e : Engine} {entries : List (String × RuleType)} {name : String}
    (h : ∀ entry ∈ entries, lower name ≠ entry.2.name) :
    (e.registerAll entries).catalog.find? name = e.catalog.find? name := by
  induction entries generalizing e with
  | nil => rfl
  | cons entry entries ih =>
    obtain ⟨hentry, hentries⟩ := List.forall_mem_cons.1 h
    have hrest := ih (e := e.register entry.2) hentries
    have hone : (e.register entry.2).catalog.find? name = e.catalog.find? name :=
      (Catalog.find?_register ..).trans (if_neg hentry)
    exact hrest.trans hone

theorem find?_registerAll_of_last {e : Engine} {before after : List (String × RuleType)}
    {entry : String × RuleType} {name : String} (hname : lower name = entry.2.name)
    (h : ∀ entry ∈ after, lower name ≠ entry.2.name) :
    (e.registerAll (before ++ entry :: after)).catalog.find? name = some entry.2 := by
  rw [registerAll, List.foldl_append, List.foldl_cons]
  have hlast : ((before.foldl (fun e entry ↦ e.register entry.2) e).register
      entry.2).catalog.find? name = some entry.2 :=
    (Catalog.find?_register ..).trans (if_pos hname)
  exact (find?_registerAll_of_ne h).trans hlast

/-- A type that is registered does not matter to rules whose checks name other types: they compile
to the same, are described by the same text and, if the types that they name apply no rules, give
the same results with the same events. After any registrations a name leads to the type registered
last under it, whatever the case of either. -/
theorem register_exact (e : Engine) :
    (∀ type source, (∀ t ∈ e.leafTexts source, ∀ check, Check.read t = .ok check →
        check.typeName ≠ type.name) →
      (∀ text, source = .text text → (e.register type).compile text = e.compile text) ∧
      (e.register type).describe source = e.describe source ∧
      ((∀ t ∈ e.leafTexts source, ∀ check found, Check.read t = .ok check →
          e.catalog.find? check.typeName = some found → found.Standalone) →
        ∀ context input,
          (e.register type).apply context source input = e.apply context source input)) ∧
    ∀ entries : List (String × RuleType), (∀ entry ∈ entries, entry.2.name = lower entry.1) →
      (∀ before given type after, entries = before ++ (given, type) :: after →
        (∀ entry ∈ after, lower entry.1 ≠ lower given) → ∀ name, lower name = lower given →
        (e.registerAll entries).catalog.resolve name = .ok type) ∧
      ∀ name, (∀ entry ∈ entries, lower entry.1 ≠ lower name) →
        (e.registerAll entries).catalog.resolve name = e.catalog.resolve name := by
  refine ⟨fun type source h ↦ ?_, fun entries hentries ↦ ⟨?_, fun name h ↦ ?_⟩⟩
  · have hsame (t : String) (ht : t ∈ e.leafTexts source) :
        (e.catalog.register type).SameFor e.catalog t :=
      Catalog.sameFor_register (h t ht)
    refine ⟨?_, describe_register hsame, apply_register hsame⟩
    rintro text rfl
    exact obtain_register hsame
  · rintro before given type after rfl hafter name hname
    obtain ⟨-, hlast⟩ := List.forall_mem_append.1 hentries
    obtain ⟨htype, hlater⟩ := List.forall_mem_cons.1 hlast
    refine Catalog.resolve_eq_ok_iff.2 (find?_registerAll_of_last (hname.trans htype.symm) ?_)
    intro entry hentry
    rw [hlater entry hentry, hname]
    exact (hafter entry hentry).symm
  · have hfind : (e.registerAll entries).catalog.find? name = e.catalog.find? name := by
      refine find?_registerAll_of_ne fun entry hentry ↦ ?_
      rw [hentries entry hentry]
      exact (h entry hentry).symm
    rw [Catalog.resolve, Catalog.resolve, hfind]

theorem typeName_of_mem {texts : List String} {name : String}
    (h : ∀ t ∈ texts, ∃ calls, Check.read t = .ok ⟨name, calls⟩) :
    ∀ t ∈ texts, ∀ check, Check.read t = .ok check → check.typeName = name := by
  intro t ht check hread
  obtain ⟨calls, hcalls⟩ := h t ht
  cases hcalls.symm.trans hread
  rfl

theorem register_exact_renamed :
    let code (name : String) := RuleType.make name name [.string] fun _ text ↦ .pure (.string text)
    let e : Engine := { catalog := .builtin }
    (e.register (code "Code")).apply [] (.text "int || (INT && int[less(5)])") (.raw "7") =
      e.apply [] (.text "int || (INT && int[less(5)])") (.raw "7") ∧
    (e.registerAll [("Code", code "Code"), ("CODE", code "CODE")]).catalog.resolve "cODe" =
      .ok (code "CODE") := by
  intro code e
  have hleaves : e.leafTexts (.text "int || (INT && int[less(5)])") =
      ["int", "INT", "int[less(5)]"] := by
    decide +kernel
  have htexts : ∀ t ∈ ["int", "INT", "int[less(5)]"],
      ∃ calls, Check.read t = .ok ⟨"int", calls⟩ := by
    simp only [List.forall_mem_cons]
    exact ⟨⟨[], by decide +kernel⟩, ⟨[], by decide +kernel⟩,
      ⟨[⟨"less", ["5"]⟩], by decide +kernel⟩, List.forall_mem_nil _⟩
  have htypes := typeName_of_mem htexts
  rw [← hleaves] at htypes
  have hnew (t : String) (ht : t ∈ e.leafTexts (.text "int || (INT && int[less(5)])"))
      (check : Check) (hread : Check.read t = .ok check) :
      check.typeName ≠ (code "Code").name := by
    rw [htypes t ht check hread]
    decide
  obtain ⟨hframe, hnames⟩ := register_exact e
  obtain ⟨-, -, happly⟩ := hframe (code "Code") (.text "int || (INT && int[less(5)])") hnew
  refine ⟨happly (fun t ht check found hread hfound ↦ ?_) [] (.raw "7"), ?_⟩
  · refine Catalog.standalone_of_builtin ?_ hfound
    rw [htypes t ht check hread]
    decide
  · have hentries : ∀ entry ∈ [("Code", code "Code"), ("CODE", code "CODE")],
        entry.2.name = lower entry.1 :=
      List.forall_mem_cons.2 ⟨rfl, List.forall_mem_singleton.2 rfl⟩
    exact (hnames _ hentries).1 [("Code", code "Code")] "CODE" (code "CODE") [] rfl
      (List.forall_mem_nil _) "cODe" (by decide)

end Engine

end Rulebook
