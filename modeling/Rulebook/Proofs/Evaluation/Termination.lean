import Rulebook.Pattern.Matching
import Rulebook.Proofs.Evaluation.Calls
import Rulebook.Proofs.Equality

namespace Rulebook.Engine

open Text

variable {e : Engine} {context : Context} {source : Source} {input : Input} {run : Run Outcome}

/-- Applying a rule ends by itself, in a run that knows no depth: the rules that its checks apply
end first, and their runs are the answers that the checks go by. -/
inductive Ends (e : Engine) (context : Context) : Source → Input → Run Outcome → Prop
  | intro {source : Source} {input : Input} (answers : Source → Input → Run Outcome)
      (h : ∀ a, e.Calls ⟨context, answers⟩ source input a →
        Ends e context (.text a.rule) a.input (answers (.text a.rule) a.input)) :
      Ends e context source input (e.applyWith (fun _ ↦ ⟨context, answers⟩) source input)

theorem Ends.eq_apply (hc : e.catalog.Closed) (h : e.Ends context source input run) :
    run = e.apply context source input := by
  induction h with
  | @intro source input answers _ ih =>
    rw [apply_eq_applyWith hc.contained, applyWith, applyWith]
    refine Traced.bind_congr fun r hr ↦ ?_
    have happly : e.applyIn ⟨context, answers⟩ r input = e.applyIn (e.scope context) r input :=
      Rule.apply_congr fun t ht ↦ hc.simulate simulation_eq fun a ha ↦ ih a ⟨r, t, hr, ht, ha⟩
    rw [happly]

theorem ends_apply (hc : e.catalog.Closed) (context : Context) (source : Source) (input : Input) :
    e.Ends context source input (e.apply context source input) := by
  induction source, input using call_induction (e := e) (s := e.scope context) with
  | step source input ih =>
    -- the answers are those of the engine
    rw [apply_eq_applyWith hc.contained]
    exact .intro (e.apply context) ih

theorem applyWithin_of_utf8ByteSize_lt (hc : e.catalog.Closed) {depth : Nat} {text : String}
    (h : text.utf8ByteSize < depth) (context : Context) (input : Input) :
    e.applyWithin depth context (.text text) input = e.apply context (.text text) input :=
  applyWithin_eq_apply hc.contained (Nat.lt_of_le_of_lt (length_le_utf8ByteSize text) h) _ _

/-- What the arguments of a call spell out is smaller than the check, and a check is no larger than
the rule. So whatever a rule text applies is smaller than the text, and applying a rule ends, in one
way only, which is the way of the engine at every depth beyond the size of the text. -/
theorem smaller_and_ends_iff :
    (∀ t check, Check.read t = .ok check → ∀ call ∈ check.calls,
      (",".intercalate call.arguments).utf8ByteSize < t.utf8ByteSize) ∧
    (∀ limits text r, Rule.read limits text = .ok r → ∀ t ∈ r.checks,
      t.utf8ByteSize ≤ text.utf8ByteSize) ∧
    ∀ e : Engine, e.catalog.Closed → ∀ context,
      (∀ scope text input a, e.Calls scope (.text text) input a →
        a.rule.utf8ByteSize < text.utf8ByteSize) ∧
      (∀ source input run, e.Ends context source input run ↔
        run = e.apply context source input) ∧
      ∀ depth text input, text.utf8ByteSize < depth →
        e.applyWithin depth context (.text text) input = e.apply context (.text text) input := by
  refine ⟨fun t check hread call ↦ utf8ByteSize_arguments_lt hread,
    fun limits text r hr t ↦ Rule.utf8ByteSize_check_le_of_read hr, fun e hc context ↦ ?_⟩
  refine ⟨fun scope text input a ha ↦ ha.utf8ByteSize_lt, fun source input run ↦ ?_, ?_⟩
  · constructor
    · exact fun h ↦ h.eq_apply hc
    · intro h
      rw [h]
      exact ends_apply hc context source input
  · exact fun depth text input h ↦ applyWithin_of_utf8ByteSize_lt hc h context input

theorem smaller_and_ends_iff_nested :
    Check.read "dict[value(str[in(a\\,b)],, dict[key(str)] & int)]" =
      .ok ⟨"dict", [⟨"value", ["str[in(a\\,b)]", "", "dict[key(str)]", "int"]⟩]⟩ ∧
    "str[in(a\\,b)],,dict[key(str)],int".utf8ByteSize <
      "dict[value(str[in(a\\,b)],, dict[key(str)] & int)]".utf8ByteSize ∧
    Ends { catalog := .builtin } [] (.text "dict[value(int[less(x)])]")
      (.typed (.object [("a", .integer 1)]))
      ⟨[.compiled 1, .compiled 1], .error (.absence (.argument "less" 0))⟩ := by
  have hread : Check.read "dict[value(str[in(a\\,b)],, dict[key(str)] & int)]" =
      .ok ⟨"dict", [⟨"value", ["str[in(a\\,b)]", "", "dict[key(str)]", "int"]⟩]⟩ := by
    decide +kernel
  obtain ⟨hsmaller, -, hends⟩ := smaller_and_ends_iff
  obtain ⟨-, hiff, -⟩ := hends { catalog := .builtin } Catalog.closed_builtin []
  exact ⟨hread, hsmaller _ _ hread _ List.mem_cons_self, (hiff _ _ _).2 (by decide +kernel)⟩

end Rulebook.Engine
