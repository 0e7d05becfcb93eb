import Rulebook.Proofs.Catalog.Applications
import Rulebook.Proofs.Evaluation.Depth

namespace Rulebook

open Text

theorem Catalog.Closed.contained {catalog : Catalog} (hc : catalog.Closed) :
    catalog.Contained := by
  intro name type h
  by_cases hname : lower name = "dict"
  · rw [hc.dict name hname] at h
    cases h
    exact Dict.contained
  · exact (hc.isolated name type hname h).contained

namespace Engine

variable {e : Engine} {s : Scope} {input : Input} {text : String} {a : Application}

def scope (e : Engine) (context : Context) : Scope := ⟨context, e.apply context⟩

theorem apply_eq_applyWith (hc : e.catalog.Contained) (context : Context) (source : Source)
    (input : Input) :
    e.apply context source input = e.applyWith (fun _ ↦ e.scope context) source input := by
  rw [apply]
  refine applyWith_congr hc (fun _ ↦ by rw [scopeFor, scope])
    (fun r _ t ht inner input hinner ↦ ?_) input
  rw [scope]
  exact scopeFor_apply hc ht hinner context input

/-- A check of the rule applies `a` when it is evaluated. -/
def Calls (e : Engine) (s : Scope) (source : Source) (input : Input) (a : Application) : Prop :=
  ∃ r t, (e.obtain source).result = .ok r ∧ t ∈ r.checks ∧ a ∈ applications s input t

theorem Calls.utf8ByteSize_lt (h : e.Calls s (.text text) input a) :
    a.rule.utf8ByteSize < text.utf8ByteSize := by
  obtain ⟨r, t, hr, ht, ha⟩ := h
  have hcheck := Rule.utf8ByteSize_check_le_of_read (read_of_compile hr) ht
  exact Nat.lt_of_lt_of_le (utf8ByteSize_application_lt ha) hcheck

theorem call_induction {P : Source → Input → Prop}
    (step : ∀ source input, (∀ a, e.Calls s source input a → P (.text a.rule) a.input) →
      P source input) (source : Source) (input : Input) : P source input := by
  have htext (text : String) (input : Input) : P (.text text) input := by
    induction hn : text.utf8ByteSize using Nat.strong_induction_on generalizing text input with
    | _ n ih => exact step _ _ fun a ha ↦ ih a.rule.utf8ByteSize (hn ▸ ha.utf8ByteSize_lt) _ _ rfl
  exact step source input fun a _ ↦ htext a.rule a.input

end Engine

end Rulebook
