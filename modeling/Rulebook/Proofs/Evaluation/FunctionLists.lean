import Rulebook.Pattern.Matching
import Rulebook.Proofs.Catalog.Applications
import Rulebook.Proofs.Catalog.Testing
import Rulebook.Proofs.Check.Writing
import Rulebook.Proofs.Evaluation.Conjunction
import Rulebook.Proofs.Rule.RoundTrip
import Rulebook.Proofs.Equality

namespace Rulebook

open Text

namespace Rule

variable {texts : List String}

theorem checks_conjunction (texts : List String) : (conjunction texts).checks = texts := by
  rw [checks_eq, conjunction, leaves, checksIn_eq_flatMap, List.flatMap_map]
  exact List.flatMap_singleton' texts

theorem anyMixed_conjunction (texts : List String) : (conjunction texts).anyMixed = false := by
  have hleaves (ts : List String) : anyMixedIn (ts.map .check) = false := by
    induction ts with
    | nil => rfl
    | cons t ts ih => exact ih
  rw [conjunction, anyMixed, hleaves, Bool.or_false, mixes, connectives, groups,
    connectives_groupsOf]
  refine Bool.and_eq_false_iff.2 (.inr ?_)
  simp

theorem chainText_replicate_and {ps : List (List Char)} (hne : ps ≠ []) :
    chainText ps (List.replicate (ps.length - 1) .and) = " && ".toList.intercalate ps := by
  obtain ⟨p, ps, rfl⟩ := List.exists_cons_of_ne_nil hne
  induction ps generalizing p with
  | nil => simp [chainText]
  | cons q ps ih =>
    have htail := ih q (List.cons_ne_nil q ps)
    rw [List.intercalate_cons_cons, ← htail, List.append_assoc]
    rfl

theorem markedFrom_none (i : Nat) (ts : List (List Char)) : markedFrom none i ts = ts := by
  induction ts generalizing i with
  | nil => rfl
  | cons t ts ih => rw [markedFrom, ih]; rfl

theorem text_conjunction (hne : texts ≠ []) :
    (conjunction texts).text = " && ".intercalate texts := by
  have hchars : charsOf (texts.map .check) = texts.map String.toList := by
    rw [charsOf_eq_map, List.map_map]
    rfl
  have hlen : (texts.map String.toList).length =
      (List.replicate (texts.length - 1) Connective.and).length + 1 := by
    have := List.length_pos_iff.2 hne
    rw [List.length_map, List.length_replicate]
    omega
  have hmap : texts.map String.toList ≠ [] := by simpa using hne
  have hchain := chainText_replicate_and hmap
  rw [List.length_map] at hchain
  rw [text, conjunction, chars, hchars, chainChars_groupsOf none hlen, markedFrom_none, hchain,
    ← String.toList_intercalate, String.ofList_toList]

theorem not_nested_mem_conjunction (texts : List String) (t : Rule) :
    .nested t ∉ (conjunction texts).leaves := by
  intro h
  obtain ⟨_, -, hleaf⟩ := List.mem_map.1 h
  cases hleaf

theorem canonical_conjunction (hne : texts ≠ [])
    (h : ∀ t ∈ texts, CheckText t.toList ∧ t.toList.head? ≠ some '@') :
    (conjunction texts).Canonical := by
  have hlen : (List.replicate (texts.length - 1) Connective.and).length + 1 =
      (conjunction texts).leaves.length := by
    have hpos := List.length_pos_iff.2 hne
    simp only [conjunction, leaves, List.length_map, List.length_replicate]
    omega
  have hnested := not_nested_mem_conjunction texts
  refine canonical_iff.2 ⟨⟨?_, isChain_iff.2 ⟨_, hlen, rfl⟩, fun i hi ↦ ?_, fun i t hi ↦ ?_,
    fun t ht ↦ absurd ht (hnested t), fun t ht ↦ ?_⟩, fun t ht ↦ absurd ht (hnested t)⟩
  · exact fun hnil ↦ hne (List.map_eq_nil_iff.1 hnil)
  · cases hi
  · obtain ⟨t', ht', hleaf⟩ := List.mem_map.1 (List.mem_of_getElem? hi)
    cases hleaf
    exact ⟨(h t ht').1, fun hat ↦ absurd hat (h t ht').2⟩
  · exact absurd (ht ▸ List.mem_cons_self) (hnested t)

theorem read_conjunction {limits : Limits} (hne : texts ≠ [])
    (h : ∀ t ∈ texts, CheckText t.toList ∧ t.toList.head? ≠ some '@')
    (hbytes : (" && ".intercalate texts).utf8ByteSize ≤ limits.bytes) (hdepth : 0 < limits.depth) :
    read limits (" && ".intercalate texts) = .ok (conjunction texts) := by
  have hcanonical := canonical_conjunction hne h
  have hnested := not_nested_mem_conjunction texts
  rw [← text_conjunction hne] at hbytes ⊢
  refine hcanonical.read_text (fun s hs ↦ ?_) hbytes ?_
  · obtain ⟨t, ht, -⟩ := mem_inner.1 hs
    exact absurd ht (hnested t)
  · have hin : depthIn (conjunction texts).leaves ≤ 0 :=
      depthIn_le_iff.2 fun t ht ↦ absurd ht (hnested t)
    show 1 + depthIn (conjunction texts).leaves ≤ limits.depth
    omega

end Rule

namespace Engine

variable {e : Engine} {texts : List String}

theorem compile_conjunction (hne : texts ≠ [])
    (h : ∀ t ∈ texts, CheckText t.toList ∧ t.toList.head? ≠ some '@')
    (hbytes : (" && ".intercalate texts).utf8ByteSize ≤ e.limits.bytes)
    (hdepth : 0 < e.limits.depth) (hcheck : ∀ t ∈ texts, e.catalog.check t = .ok ()) :
    (e.compile (" && ".intercalate texts)).result = .ok (.conjunction texts) := by
  refine compile_eq_ok_iff.2 ⟨Rule.read_conjunction hne h hbytes hdepth, fun hmixed ↦ ?_, ?_⟩
  · cases (Rule.anyMixed_conjunction texts).symm.trans hmixed
  · rwa [Rule.checks_conjunction]

theorem apply_conjunction (hne : texts ≠ [])
    (h : ∀ t ∈ texts, CheckText t.toList ∧ t.toList.head? ≠ some '@')
    (hbytes : (" && ".intercalate texts).utf8ByteSize ≤ e.limits.bytes)
    (hdepth : 0 < e.limits.depth) (hcheck : ∀ t ∈ texts, e.catalog.check t = .ok ())
    (context : Context) (input : Input) :
    (e.apply context (.text (" && ".intercalate texts)) input).result =
      (do return conjoin (← texts.mapM fun t ↦
        (e.catalog.evaluate (e.scopeFor context texts) input t).settle) : Run Outcome).result := by
  have hobtain : (e.obtain (.text (" && ".intercalate texts))).result = _ :=
    compile_conjunction hne h hbytes hdepth hcheck
  rw [apply, applyWith_result_of_obtain hobtain, applyIn, Rule.apply_conjunction hne,
    Rule.checks_conjunction]

end Engine

/-- What a check of a type with some calls does with an input. -/
def RuleType.run (type : RuleType) (scope : Scope) (input : Input) (calls : List Call) :
    Run Value := do
  type.applyCalls scope (← type.receive scope input) calls

theorem RuleType.Isolated.run {type : RuleType} (h : type.Isolated) (input : Input)
    (calls : List Call) : Run.Isolated fun scope ↦ type.run scope input calls :=
  .bind (receive_isolated h.converter input) fun v ↦ h.applyCalls v calls

theorem Engine.apply_checkText {e : Engine} {t : String} (h : CheckText t.toList)
    (hat : t.toList.head? ≠ some '@') (hbytes : t.utf8ByteSize ≤ e.limits.bytes)
    (hdepth : 0 < e.limits.depth) (hcheck : e.catalog.check t = .ok ()) (context : Context)
    (input : Input) : (e.apply context (.text t) input).result =
      (e.catalog.evaluate (e.scopeFor context [t]) input t).settle.result := by
  have hobtain : (e.obtain (.text t)).result = .ok ⟨[.check t], [.solo 0], none⟩ :=
    compile_eq_ok_iff.2 ⟨Rule.read_check h hat hbytes hdepth, nofun,
      List.forall_mem_singleton.2 hcheck⟩
  rw [apply, applyWith_result_of_obtain hobtain, applyIn, Rule.apply_check]
  rfl

section Patterns

variable [PatternLibrary]

namespace RuleType.Decisive

variable {type : RuleType} (h : type.Decisive) {calls : List Call}
  (hcalls : ∀ call ∈ calls, type.Callable call) (scope : Scope)

include h hcalls

end RuleType.Decisive

structure RuleType.CallOf (type : RuleType) (text : String) (call : Call) : Prop where
  apart : CallText text.toList
  read : Call.read text.toList = .ok call
  callable : type.Callable call

section CallLists

variable {e : Engine} {type : RuleType} (hname : Word type.name.toList)
  (hfind : e.catalog.find? (lower type.name) = some type) (h : type.Decisive) {texts : List String}
  {calls : List Call} (hcalls : List.Forall₂ type.CallOf texts calls) (hne : texts ≠ [])

include hcalls

theorem callText_of_callsOf : ∀ t ∈ texts, CallText t.toList := by
  intro t ht
  obtain ⟨call, -, hcall⟩ := exists_mem_of_forall₂ hcalls.flip ht
  exact hcall.apart

theorem callable_of_callsOf : ∀ call ∈ calls, type.Callable call := by
  intro call hcall
  obtain ⟨t, -, hcallOf⟩ := exists_mem_of_forall₂ hcalls hcall
  exact hcallOf.callable

include hname hne

theorem Check.read_callsOf :
    Check.read (checkOf type.name texts) = .ok ⟨lower type.name, calls⟩ := by
  have hread : (texts.mapM fun t ↦ Call.read t.toList) = .ok calls :=
    mapM_eq_ok_iff.2 (hcalls.imp fun _ _ hcall ↦ hcall.read)
  rw [read_checkOf hname.toName (callText_of_callsOf hcalls) hne, hread]
  rfl

include hfind

theorem Catalog.check_callsOf : e.catalog.check (checkOf type.name texts) = .ok () :=
  check_eq_ok_iff.2 ⟨_, type, Check.read_callsOf hname hcalls hne, hfind,
    fun call hcall ↦ (callable_of_callsOf hcalls call hcall).answers⟩

include h

theorem Catalog.evaluate_callsOf (scope : Scope) (input : Input) :
    e.catalog.evaluate scope input (checkOf type.name texts) = type.run scope input calls :=
  evaluate_of_requires (Check.read_callsOf hname hcalls hne) hfind h.isolated.requires

theorem Engine.apply_callsOf (hdepth : 0 < e.limits.depth)
    (hbytes : (checkOf type.name texts).utf8ByteSize ≤ e.limits.bytes) (context : Context)
    (input : Input) (scope : Scope) :
    (e.apply context (.text (checkOf type.name texts)) input).result =
      (type.run scope input calls).settle.result := by
  rw [apply_checkText (checkText_checkOf hname.toName (callText_of_callsOf hcalls))
    (head?_checkOf_ne hname) hbytes hdepth (Catalog.check_callsOf hname hfind hcalls hne),
    Catalog.evaluate_callsOf hname hfind h hcalls hne, (h.isolated.run input calls).same _ scope]

variable (hdepth : 0 < e.limits.depth)
  (hbytes : (checkOf type.name texts).utf8ByteSize ≤ e.limits.bytes)

include hdepth hbytes

end CallLists

end Patterns

end Rulebook
