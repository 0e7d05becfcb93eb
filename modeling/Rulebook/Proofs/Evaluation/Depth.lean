import Mathlib
import Rulebook.Proofs.Catalog.Builtin
import Rulebook.Proofs.Check.Carrying
import Rulebook.Proofs.Evaluation.Simulation
import Rulebook.Proofs.Evaluation.Sources
import Rulebook.Proofs.Rule.Size

namespace Rulebook

open Text

theorem length_intercalate_sublist {l l' : List String} (h : l.Sublist l') :
    (",".intercalate l).length ≤ (",".intercalate l').length := by
  cases l with
  | nil => exact Nat.zero_le _
  | cons s l =>
    have hne : l' ≠ [] := by
      rintro rfl
      cases h
    have hsum := (h.map fun s ↦ weigh (fun _ ↦ 1) s.toList + 1).sum_le_sum fun _ _ ↦ Nat.zero_le _
    have hl := weigh_intercalate_comma (fun _ ↦ 1) (List.cons_ne_nil s l)
    have hl' := weigh_intercalate_comma (fun _ ↦ 1) hne
    rw [weigh_one, String.length_toList] at hl hl'
    omega

theorem string?_of_read {k : ArgumentKind} {text s : String} {v : Value}
    (h : k.read? text = some v) (hv : v.string? = some s) : s = text := by
  cases k with
  | string =>
    cases h
    cases hv
    rfl
  | _ =>
    obtain ⟨_, -, rfl⟩ := Option.map_eq_some_iff.1 h
    cases hv

theorem Signature.strings_readFrom {s : Signature} {function : String} {i : Nat}
    {arguments : List String} {values : List Value}
    (h : s.readFrom function i arguments = .ok values) :
    (values.filterMap Value.string?).Sublist arguments := by
  induction arguments generalizing i values with
  | nil =>
    cases h
    exact List.nil_sublist _
  | cons a as ih =>
    rw [readFrom] at h
    cases hv : (s.kindsAt i).findSome? (·.read? a) with
    | none =>
      rw [hv] at h
      cases h
    | some v =>
      rw [hv] at h
      obtain ⟨vs, hvs, rfl⟩ := map_eq_ok_iff.1 h
      have htail := ih hvs
      obtain ⟨k, -, hread⟩ := List.exists_of_findSome?_eq_some hv
      cases hstring : v.string? with
      | none =>
        rw [List.filterMap_cons_none hstring]
        exact htail.cons a
      | some text =>
        obtain rfl := string?_of_read hread hstring
        rw [List.filterMap_cons_some hstring]
        exact htail.cons_cons text

theorem length_ruleOf_le {s : Signature} {function : String} {arguments : List String}
    {values : List Value} (h : s.readAll function arguments = .ok values) :
    (Dict.ruleOf values).length ≤ (",".intercalate arguments).length := by
  rw [Signature.readAll] at h
  split at h
  · cases h
  · exact length_intercalate_sublist (Signature.strings_readFrom h)

section Congruence

variable {type : RuleType} {scope scope' : Scope} {n : Nat}

theorem RuleType.Contained.receive (hc : type.Contained) (hcontext : scope.context = scope'.context)
    (input : Input) : type.receive scope input = type.receive scope' input := by
  cases input with
  | raw text => exact hc.converter scope scope' text hcontext
  | typed v => rfl

theorem RuleType.Contained.applyCall (hc : type.Contained)
    (hcontext : scope.context = scope'.context) {call : Call}
    (hcall : (",".intercalate call.arguments).length < n)
    (h : ∀ text input, text.length < n →
      scope.apply (.text text) input = scope'.apply (.text text) input)
    (v : Value) : type.applyCall scope v call = type.applyCall scope' v call := by
  rw [RuleType.applyCall, RuleType.applyCall]
  refine Traced.bind_congr fun f hf ↦ ?_
  refine Traced.bind_congr fun arguments harguments ↦ ?_
  have hlength := length_ruleOf_le harguments
  have hfunction := resolve_eq_ok_iff.1 (ofMistake_eq_ok_iff.1 hf)
  have hrule (input : Input) := h (Dict.ruleOf arguments) input (by omega)
  rw [hc.function call.name f hfunction scope scope' v arguments hcontext hrule]

theorem RuleType.Contained.applyCalls (hc : type.Contained)
    (hcontext : scope.context = scope'.context) {calls : List Call}
    (hcalls : ∀ call ∈ calls, (",".intercalate call.arguments).length < n)
    (h : ∀ text input, text.length < n →
      scope.apply (.text text) input = scope'.apply (.text text) input)
    (v : Value) : type.applyCalls scope v calls = type.applyCalls scope' v calls := by
  induction calls generalizing v with
  | nil => rfl
  | cons call calls ih =>
    obtain ⟨hcall, htail⟩ := List.forall_mem_cons.1 hcalls
    rw [RuleType.applyCalls, RuleType.applyCalls, hc.applyCall hcontext hcall h]
    exact Traced.bind_congr fun w _ ↦ ih htail w

def Catalog.Contained (catalog : Catalog) : Prop :=
  ∀ name type, catalog.find? name = some type → type.Contained

/-- The built-in types are there, perhaps among others, and all types are contained. -/
structure Catalog.ExtendsBuiltin [PatternLibrary] (catalog : Catalog) : Prop where
  builtin : ∀ name type, Catalog.builtin.find? name = some type → catalog.find? name = some type
  contained : catalog.Contained

theorem Catalog.extendsBuiltin_builtin [PatternLibrary] : builtin.ExtendsBuiltin :=
  ⟨fun _ _ h ↦ h, fun _ _ ↦ contained_of_builtin⟩

theorem Catalog.Contained.evaluate {catalog : Catalog} (hc : catalog.Contained) {t : String}
    (hcontext : scope.context = scope'.context)
    (h : ∀ text input, text.length < t.length →
      scope.apply (.text text) input = scope'.apply (.text text) input) (input : Input) :
    catalog.evaluate scope input t = catalog.evaluate scope' input t := by
  rw [Catalog.evaluate, Catalog.evaluate, hcontext]
  refine Traced.bind_congr fun check hread ↦ ?_
  refine Traced.bind_congr fun type htype ↦ ?_
  have hcontained := hc _ type (resolve_eq_ok_iff.1 (ofMistake_eq_ok_iff.1 htype))
  have hshort (call : Call) (hcall : call ∈ check.calls) :=
    length_arguments_lt (ofMistake_eq_ok_iff.1 hread) hcall
  refine Traced.bind_congr fun _ _ ↦ ?_
  rw [hcontained.receive hcontext]
  exact Traced.bind_congr fun v _ ↦ hcontained.applyCalls hcontext hshort h v

end Congruence

namespace Engine

variable {e : Engine} {text t : String} {texts : List String}

theorem utf8ByteSize_le_longest (h : t ∈ texts) : t.utf8ByteSize ≤ longest texts := by
  have hmax (ns : List Nat) : ∀ m, m ≤ ns.foldl max m ∧ ∀ n ∈ ns, n ≤ ns.foldl max m := by
    induction ns with
    | nil => simp
    | cons n ns ih =>
      intro m
      obtain ⟨hstart, htail⟩ := ih (max m n)
      refine ⟨by rw [List.foldl_cons]; omega, List.forall_mem_cons.2 ⟨?_, htail⟩⟩
      rw [List.foldl_cons]
      omega
  exact (hmax _ 0).2 _ (List.mem_map_of_mem h)

/-- What a check applies is shorter than the check, so that nothing else matters of what it can
reach. -/
theorem applyWith_congr (hc : e.catalog.Contained) {scopes scopes' : Rule → Scope} {source : Source}
    (hcontext : ∀ r, (scopes r).context = (scopes' r).context)
    (h : ∀ r, (e.obtain source).result = .ok r → ∀ t ∈ r.checks, ∀ inner input,
      inner.length < t.length →
        (scopes r).apply (.text inner) input = (scopes' r).apply (.text inner) input)
    (input : Input) : e.applyWith scopes source input = e.applyWith scopes' source input := by
  rw [applyWith, applyWith]
  refine Traced.bind_congr fun r hr ↦ ?_
  have happly : e.applyIn (scopes r) r input = e.applyIn (scopes' r) r input :=
    Rule.apply_congr fun t ht ↦ hc.evaluate (hcontext r) (h r hr t ht) input
  rw [happly]

/-- More depth than a rule has characters makes no difference. -/
theorem applyWithin_eq_apply (hc : e.catalog.Contained) {depth : Nat} (h : text.length < depth)
    (context : Context) (input : Input) :
    e.applyWithin depth context (.text text) input = e.apply context (.text text) input := by
  induction hn : text.length using Nat.strong_induction_on generalizing text depth input with
  | _ n ih =>
    obtain ⟨depth, rfl⟩ := Nat.exists_eq_succ_of_ne_zero (Nat.ne_of_gt (Nat.zero_lt_of_lt h))
    rw [applyWithin, apply]
    refine applyWith_congr hc (fun _ ↦ by rfl) (fun r hr t ht inner input hinner ↦ ?_) input
    have hcheck := Rule.length_check_le_of_read (read_of_compile hr) ht
    have hlongest := utf8ByteSize_le_longest ht
    have hbytes := length_le_utf8ByteSize t
    have hwithin : e.applyWithin depth context (.text inner) input =
        e.apply context (.text inner) input :=
      ih inner.length (by omega) (by omega) input rfl
    have hscope : (e.scopeFor context r.checks).apply (.text inner) input =
        e.apply context (.text inner) input :=
      ih inner.length (by omega) (by omega) input rfl
    exact hwithin.trans hscope.symm

/-- Within a check, rules that are shorter than it are applied as they are from outside. -/
theorem scopeFor_apply (hc : e.catalog.Contained) (ht : t ∈ texts) (h : text.length < t.length)
    (context : Context) (input : Input) :
    (e.scopeFor context texts).apply (.text text) input = e.apply context (.text text) input := by
  have hlongest := utf8ByteSize_le_longest ht
  have hbytes := length_le_utf8ByteSize t
  exact applyWithin_eq_apply hc (by omega) context input

end Engine

end Rulebook
