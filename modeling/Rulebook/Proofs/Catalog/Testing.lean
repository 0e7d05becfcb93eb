import Rulebook.Proofs.Catalog.Integers
import Rulebook.Proofs.Evaluation.Static

namespace Rulebook

open Text

/-- A computation that leaves a value as it is or finds it invalid. -/
def Run.Tests (run : Run (Option Value)) : Prop :=
  run.result = .ok none ∨ ∃ r, run.result = .error (.invalid r)

namespace Run.Tests

theorem of_ok {α : Type} {run : Run α} {next : α → Run (Option Value)} {a : α}
    (h : run.result = .ok a) (hnext : (next a).Tests) : Run.Tests (run >>= next) := by
  rw [Run.Tests, Traced.bind_of_ok h]
  exact hnext

theorem textOf {next : String → Run (Option Value)} (h : ∀ s, (next s).Tests) (v : Value) :
    Run.Tests (textOf v >>= next) := by
  cases v with
  | string s => exact h s
  | _ => exact .inr ⟨_, rfl⟩

theorem integerOf {next : Int → Run (Option Value)} (h : ∀ n, (next n).Tests) (v : Value) :
    Run.Tests (integerOf v >>= next) := by
  rw [Rulebook.integerOf]
  cases v.signed? with
  | none => exact .inr ⟨_, rfl⟩
  | some n => exact h n

end Run.Tests

theorem keepIf_tests (holds : Bool) (r : Reason) : (keepIf holds r).Tests := by
  cases holds with
  | false => exact .inr ⟨r, rfl⟩
  | true => exact .inl rfl

theorem Value.signed?_integer {n : Int} (hleast : minSigned ≤ n) (hgreatest : n ≤ maxSigned) :
    (Value.integer n).signed? = some n := if_pos ⟨hleast, hgreatest⟩

theorem integerArgument_of_some {arguments : List Value} {i : Nat} {v : Value} {n : Int}
    (hv : arguments[i]? = some v) (hn : v.signed? = some n) :
    (integerArgument arguments i).result = .ok n := by
  rw [integerArgument, hv, Option.bind_some, hn]
  rfl

namespace Signature

variable {s : Signature} {function : String} {texts : List String} {values : List Value}

theorem readFrom_values {i : Nat} (h : s.readFrom function i texts = .ok values) :
    values.length = texts.length ∧ ∀ j v, values[j]? = some v →
      ∃ k ∈ s.kindsAt (i + j), ∃ text, k.read? text = some v := by
  induction texts generalizing i values with
  | nil =>
    cases h
    exact ⟨rfl, nofun⟩
  | cons text texts ih =>
    rw [readFrom] at h
    cases hv : (s.kindsAt i).findSome? (·.read? text) with
    | none =>
      rw [hv] at h
      cases h
    | some v =>
      rw [hv] at h
      obtain ⟨values, hvalues, rfl⟩ := map_eq_ok_iff.1 h
      obtain ⟨hlen, hkinds⟩ := ih hvalues
      obtain ⟨k, hk, hread⟩ := List.exists_of_findSome?_eq_some hv
      refine ⟨congrArg (· + 1) hlen, fun j w hw ↦ ?_⟩
      cases j with
      | zero =>
        cases hw
        exact ⟨k, hk, text, hread⟩
      | succ j =>
        rw [Nat.add_comm j 1, ← Nat.add_assoc]
        exact hkinds j w hw

theorem integerArgument_of_readAll {n : Nat}
    (h : (fixed (List.replicate n [.integer])).readAll function texts = .ok values) {i : Nat}
    (hi : i < n) : ∃ k, (integerArgument values i).result = .ok k := by
  have hcount : (fixed (List.replicate n [.integer])).checkCount function texts.length = .ok () := by
    rw [readAll] at h
    split at h
    · cases h
    · assumption
  have htexts : texts.length = n := by
    rw [checkCount] at hcount
    split at hcount
    · next heq => simpa using heq.symm
    · cases hcount
  rw [readAll_of_count hcount] at h
  obtain ⟨hlen, hkinds⟩ := readFrom_values h
  obtain ⟨k, hk, text, hread⟩ := hkinds i values[i] (List.getElem?_eq_getElem (by omega))
  have hkind : (fixed (List.replicate n [.integer])).kindsAt (0 + i) = [.integer] := by
    simp [kindsAt, hi]
  obtain rfl := List.mem_singleton.1 (hkind ▸ hk)
  obtain ⟨m, hm, hspells⟩ := ArgumentKind.read?_integer_eq_some_iff.1 hread
  refine ⟨m, integerArgument_of_some (List.getElem?_eq_getElem (by omega)) ?_⟩
  rw [hm]
  exact Value.signed?_integer hspells.least hspells.greatest

end Signature

section Patterns

variable [PatternLibrary]

/-- All that a type does with an input is to judge it: its converter reads it or finds it invalid,
and its functions test the value. -/
structure RuleType.Decisive (type : RuleType) : Prop where
  isolated : type.Isolated
  converter : ∀ scope text, (type.convert scope text).Settles
  function : type.EachFunction fun name f ↦ ∀ scope v texts arguments,
    f.signature.readAll f.name texts = .ok arguments →
    (name = "regex" → ∀ p ∈ texts, PatternLibrary.Compiles p) → (f.apply scope v arguments).Tests

/-- A call of a function that a type has, with arguments that can be read and patterns that compile. -/
structure RuleType.Callable (type : RuleType) (call : Call) : Prop where
  readable : ∃ f arguments, type.function? call.name = some f ∧
    f.signature.readAll f.name call.arguments = .ok arguments
  patterns : lower call.name = "regex" → ∀ p ∈ call.arguments, PatternLibrary.Compiles p

namespace RuleType

variable {type : RuleType} {call : Call} {calls : List Call}

theorem Callable.answers (h : type.Callable call) : type.Answers call := by
  obtain ⟨f, arguments, hf, hread⟩ := h.readable
  refine ⟨f, hf, ?_⟩
  rw [Signature.readAll] at hread
  split at hread
  · cases hread
  · assumption

namespace Decisive

variable (h : type.Decisive) (scope : Scope) (v : Value)

include h

theorem receive (input : Input) : (type.receive scope input).Settles := by
  cases input with
  | raw text => exact h.converter scope text
  | typed v =>
    rw [RuleType.receive]
    split
    · exact .inl ⟨v, rfl⟩
    · exact .inr ⟨_, rfl⟩

theorem applyCall (hc : type.Callable call) : (type.applyCall scope v call).result = .ok v ∨
    ∃ r, (type.applyCall scope v call).result = .error (.invalid r) := by
  obtain ⟨f, arguments, hf, hread⟩ := hc.readable
  rw [applyCall_of_function hf hread]
  obtain hnone | ⟨r, hr⟩ := h.function _ f hf scope v _ arguments hread hc.patterns
  · exact .inl (Traced.bind_eq_ok_iff.2 ⟨none, hnone, rfl⟩)
  · exact .inr ⟨r, Traced.bind_eq_error_iff.2 (.inl hr)⟩

end Decisive

end RuleType

namespace Str

theorem matchAll_tests {text : String} {ps : List String}
    (h : ∀ p ∈ ps, PatternLibrary.Compiles p) : (matchAll text ps).Tests := by
  induction ps with
  | nil => exact .inl rfl
  | cons p ps ih =>
    obtain ⟨hp, hps⟩ := List.forall_mem_cons.1 h
    obtain ⟨finds, hfinds⟩ := hp
    rw [matchAll, hfinds]
    show Run.Tests (if finds text then matchAll text ps else _)
    split
    · exact ih hps
    · exact .inr ⟨_, rfl⟩

theorem decisive : type.Decisive where
  isolated := isolated
  converter _ text := .inl ⟨.string text, rfl⟩
  function := by
    refine RuleType.eachFunction_make.withFunction (fun scope v texts arguments h _ ↦ ?_)
      |>.withFunction (fun scope v texts arguments h _ ↦ ?_)
      |>.withFunction (fun scope v texts arguments h _ ↦ ?_)
      |>.withFunction (fun scope v texts arguments h _ ↦ ?_)
      |>.withFunction (fun scope v texts arguments h hp ↦ ?_)
    · obtain ⟨least, hleast⟩ := Signature.integerArgument_of_readAll (n := 2) h Nat.zero_lt_two
      obtain ⟨greatest, hgreatest⟩ := Signature.integerArgument_of_readAll (n := 2) h Nat.one_lt_two
      exact .of_ok hleast (.of_ok hgreatest (.textOf (fun _ ↦ keepIf_tests _ _) v))
    · exact .textOf (fun _ ↦ keepIf_tests _ _) v
    · exact .textOf (fun _ ↦ keepIf_tests _ _) v
    · exact .textOf (fun _ ↦ keepIf_tests _ _) v
    · obtain rfl := Except.ok.inj ((Signature.readAll_strings _ texts).symm.trans h)
      refine .textOf (fun text ↦ ?_) v
      rw [filterMap_string]
      exact matchAll_tests (hp rfl)

end Str

namespace Integer

theorem decisive : type.Decisive where
  isolated := isolated
  converter scope text := by
    show (convert scope text).Settles
    rw [convert]
    cases Decimal.signed? (trim text.toList) with
    | none => exact .inr ⟨_, rfl⟩
    | some n => exact .inl ⟨.integer n, rfl⟩
  function := by
    refine RuleType.eachFunction_make.withFunction (fun scope v texts arguments h _ ↦ ?_)
      |>.withFunction (fun scope v texts arguments h _ ↦ ?_)
      |>.withFunction (fun scope v texts arguments h _ ↦ ?_)
    · obtain ⟨least, hleast⟩ := Signature.integerArgument_of_readAll (n := 2) h Nat.zero_lt_two
      obtain ⟨greatest, hgreatest⟩ := Signature.integerArgument_of_readAll (n := 2) h Nat.one_lt_two
      exact .of_ok hleast
        (.of_ok hgreatest (.integerOf (fun _ ↦ keepIf_tests _ _) v))
    · obtain ⟨bound, hbound⟩ := Signature.integerArgument_of_readAll (n := 1) h Nat.one_pos
      exact .of_ok hbound (.integerOf (fun _ ↦ keepIf_tests _ _) v)
    · obtain ⟨bound, hbound⟩ := Signature.integerArgument_of_readAll (n := 1) h Nat.one_pos
      exact .of_ok hbound (.integerOf (fun _ ↦ keepIf_tests _ _) v)

end Integer

end Patterns

end Rulebook
