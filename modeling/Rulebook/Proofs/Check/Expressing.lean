import Rulebook.Proofs.Check.Writing
import Rulebook.Proofs.Rule.RoundTrip

namespace Rulebook

open Text

theorem callText_name {name : String} (h : Name name.toList) : CallText name.toList :=
  .of_not_mem (balanced_quiet h.quiet) (not_dangles_quiet h.quiet) (h.not_mem rfl)

theorem Call.read_name {name : String} (h : Name name.toList) :
    Call.read name.toList = .ok ⟨lower name, []⟩ := by
  have hcut : cutAt '(' (name.toList.map .plain) = none := by
    rw [cutAt_eq_none_iff]
    intro hmem
    exact h.not_mem (c := '(') rfl (by simpa using hmem)
  have hne : name.toList.isEmpty = false := List.isEmpty_eq_false_iff.2 h.nonempty
  rw [Call.read, h.trimmed]
  simp only [hne, glyphs_quiet h.quiet, hcut, String.ofList_toList]
  rfl

/-- A name that is read in the letters in which it is written. -/
structure KeptName (name : String) : Prop extends Name name.toList where
  kept : lower name = name

/-- A call that can be written. White space around an argument would be lost, and a single empty
argument is written like no argument at all. -/
structure Call.Expressible (call : Call) : Prop where
  name : KeptName call.name
  trimmed : ∀ a ∈ call.arguments, trim a.toList = a.toList
  told : call.arguments ≠ [""]

/-- A check that can be written. Its type does not start like a captured check. -/
structure Check.Expressible (check : Check) : Prop where
  type : KeptName check.typeName
  uncaptured : check.typeName.toList.head? ≠ some '@'
  called : check.calls ≠ []
  calls : ∀ call ∈ check.calls, call.Expressible

/-- The ways to write a call. Without arguments the parentheses can be left out. -/
inductive Call.Writes (call : Call) : String → Prop
  | applied : Writes call (callWith call.name (call.arguments.map escaped))
  | bare : call.arguments = [] → Writes call call.name

section Writes

variable {call : Call} {text : String} (h : call.Writes text) (hcall : call.Expressible)

include h hcall

theorem Call.Writes.callText : CallText text.toList := by
  cases h with
  | applied => exact callText_callWith_escaped hcall.name.toName call.arguments
  | bare => exact callText_name hcall.name.toName

theorem Call.Writes.read : Call.read text.toList = .ok call := by
  cases h with
  | applied =>
    rw [read_callWith_escaped hcall.name.toName hcall.trimmed hcall.told, hcall.name.kept]
  | bare hnone =>
    rw [read_name hcall.name.toName, hcall.name.kept, ← hnone]

end Writes

/-- Checks with any arguments can be written. The text is read as the check, and as a rule it is the
single check with this text. -/
theorem Check.read_written {check : Check} (h : check.Expressible) {texts : List String}
    (htexts : List.Forall₂ Call.Writes check.calls texts) :
    Check.read (checkOf check.typeName texts) = .ok check ∧
      ∀ limits : Limits, (checkOf check.typeName texts).utf8ByteSize ≤ limits.bytes →
        0 < limits.depth → Rule.read limits (checkOf check.typeName texts) =
          .ok ⟨[.check (checkOf check.typeName texts)], [.solo 0], none⟩ := by
  have hwrites := (List.forall₂_and_left _ _).2 ⟨h.calls, htexts⟩
  have hne : texts ≠ [] := by
    rintro rfl
    exact h.called (List.forall₂_nil_right_iff.1 htexts)
  have hcallTexts : ∀ text ∈ texts, CallText text.toList := by
    intro text htext
    obtain ⟨call, -, hexpr, hcall⟩ := exists_mem_of_forall₂ hwrites htext
    exact hcall.callText hexpr
  have hcalls : (texts.mapM fun text ↦ Call.read text.toList) = .ok check.calls :=
    mapM_eq_ok_iff.2 (hwrites.imp fun _ _ hcall ↦ hcall.2.read hcall.1).flip
  have hname := h.type.toName
  refine ⟨?_, fun limits hbytes hdepth ↦ ?_⟩
  · rw [read_checkOf hname hcallTexts hne, hcalls, h.type.kept]
    rfl
  · have hat : (checkOf check.typeName texts).toList.head? ≠ some '@' := by
      rw [head?_checkOf hname]
      exact h.uncaptured
    exact Rule.read_check (checkText_checkOf hname hcallTexts) hat hbytes hdepth

theorem Check.read_written_brackets :
    Check.read "größe[teil(a\\)\\[,,x\\,y \\&\\& z,\\\\\\\\) & leer & p-2()]" =
      .ok ⟨"größe", [⟨"teil", ["a)[", "", "x,y && z", "\\\\"]⟩, ⟨"leer", []⟩, ⟨"p-2", []⟩]⟩ ∧
    Rule.read { bytes := 64, depth := 1 }
        "größe[teil(a\\)\\[,,x\\,y \\&\\& z,\\\\\\\\) & leer & p-2()]" =
      .ok ⟨[.check "größe[teil(a\\)\\[,,x\\,y \\&\\& z,\\\\\\\\) & leer & p-2()]"],
        [.solo 0], none⟩ := by
  have hteil : Call.Expressible ⟨"teil", ["a)[", "", "x,y && z", "\\\\"]⟩ :=
    ⟨⟨by decide, by cbv⟩, by decide, by decide⟩
  have hleer : Call.Expressible ⟨"leer", []⟩ := ⟨⟨by decide, by cbv⟩, by decide, by decide⟩
  have hp : Call.Expressible ⟨"p-2", []⟩ := ⟨⟨by decide, by cbv⟩, by decide, by decide⟩
  have hcalls : ∀ call ∈ [⟨"teil", ["a)[", "", "x,y && z", "\\\\"]⟩, ⟨"leer", []⟩, ⟨"p-2", []⟩],
      Call.Expressible call :=
    List.forall_mem_cons.2 ⟨hteil, List.forall_mem_cons.2 ⟨hleer, List.forall_mem_singleton.2 hp⟩⟩
  have h : Check.Expressible ⟨"größe", _⟩ :=
    ⟨⟨by decide, by cbv⟩, by decide, List.cons_ne_nil _ _, hcalls⟩
  obtain ⟨hcheck, hrule⟩ := read_written h (.cons .applied (.cons (.bare rfl) (.cons .applied .nil)))
  exact ⟨hcheck, hrule { bytes := 64, depth := 1 } (by decide) (by decide)⟩

end Rulebook
