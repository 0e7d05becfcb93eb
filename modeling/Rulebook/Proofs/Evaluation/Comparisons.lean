import Rulebook.Pattern.Matching
import Rulebook.Proofs.Evaluation.FunctionLists
import Rulebook.Proofs.Equality

namespace Rulebook

open Text

inductive Comparison
  | between (least greatest : Int)
  | less (bound : Int)
  | greater (bound : Int)

namespace Comparison

def name : Comparison → String
  | .between _ _ => "between"
  | .less _ => "less"
  | .greater _ => "greater"

def bounds : Comparison → List Int
  | .between least greatest => [least, greatest]
  | .less bound => [bound]
  | .greater bound => [bound]

def Holds (n : Int) : Comparison → Prop
  | .between least greatest => least ≤ n ∧ n ≤ greatest
  | .less bound => n < bound
  | .greater bound => bound < n

instance (n : Int) : (c : Comparison) → Decidable (c.Holds n)
  | .between least greatest => inferInstanceAs (Decidable (least ≤ n ∧ n ≤ greatest))
  | .less bound => inferInstanceAs (Decidable (n < bound))
  | .greater bound => inferInstanceAs (Decidable (bound < n))

def reason : Comparison → Reason
  | .between least greatest => .outside least greatest
  | .less bound => .notLess bound
  | .greater bound => .notGreater bound

def Fits (c : Comparison) : Prop := ∀ b ∈ c.bounds, Value.minSigned ≤ b ∧ b ≤ Value.maxSigned

instance (c : Comparison) : Decidable c.Fits :=
  inferInstanceAs (Decidable (∀ b ∈ c.bounds, Value.minSigned ≤ b ∧ b ≤ Value.maxSigned))

def call (c : Comparison) : Call := ⟨c.name, c.bounds.map toString⟩

def text (c : Comparison) : String := callWith c.name (c.bounds.map toString)

end Comparison

namespace Comparison

variable {c : Comparison}

theorem integerArgument_bounds (h : c.Fits) {i : Nat} {b : Int} (hb : c.bounds[i]? = some b) :
    integerArgument (c.bounds.map .integer) i = pure b := by
  obtain ⟨hleast, hgreatest⟩ := h b (List.mem_of_getElem? hb)
  have hget : (c.bounds.map Value.integer)[i]? = some (.integer b) := by
    rw [List.getElem?_map, hb]
    rfl
  rw [integerArgument, hget, Option.bind_some, Value.signed?_integer hleast hgreatest]
  rfl

theorem word_name (c : Comparison) : Word c.name.toList ∧ lower c.name = c.name ∧
    c.name ≠ "regex" := by
  have hwords : ∀ name ∈ ["between", "less", "greater"],
      Word name.toList ∧ lower name = name ∧ name ≠ "regex" := by
    decide
  exact hwords c.name (by cases c <;> simp [name])

theorem exists_function (c : Comparison) : ∃ f, Integer.type.function? c.name = some f ∧
    f.signature = .fixed (List.replicate c.bounds.length [.integer]) ∧
    (c.Fits → ∀ scope v, f.apply scope v (c.bounds.map .integer) = (do
      let n ← integerOf v
      keepIf (c.Holds n) c.reason)) := by
  obtain ⟨-, hlower, -⟩ := c.word_name
  rw [Integer.function?_eq, hlower]
  cases c with
  | between least greatest =>
    refine ⟨_, rfl, rfl, fun h scope v ↦ ?_⟩
    have hleast := integerArgument_bounds h (i := 0) rfl
    have hgreatest := integerArgument_bounds h (i := 1) rfl
    show Integer.between scope v _ = _
    rw [Integer.between, hleast, hgreatest, pure_bind, pure_bind]
    rfl
  | less bound =>
    refine ⟨_, rfl, rfl, fun h scope v ↦ ?_⟩
    have hbound := integerArgument_bounds h (i := 0) rfl
    show Integer.less scope v _ = _
    rw [Integer.less, hbound, pure_bind]
    rfl
  | greater bound =>
    refine ⟨_, rfl, rfl, fun h scope v ↦ ?_⟩
    have hbound := integerArgument_bounds h (i := 0) rfl
    show Integer.greater scope v _ = _
    rw [Integer.greater, hbound, pure_bind]
    rfl

theorem Fits.callOf_text (h : c.Fits) : Integer.type.CallOf c.text c.call := by
  obtain ⟨hname, hlower, hregex⟩ := c.word_name
  have hbounds : ∀ a ∈ c.bounds.map toString, ArgumentText a.toList :=
    List.forall_mem_map.2 fun b _ ↦ argumentText_toString b
  obtain ⟨f, hf, hsignature, -⟩ := c.exists_function
  refine ⟨callText_callWith hname.toName hbounds, ?_, ⟨f, c.bounds.map .integer, hf, ?_⟩, fun h ↦ ?_⟩
  · rw [text, Call.read_callWith hname.toName hbounds, hlower]
    rfl
  · rw [hsignature]
    exact Signature.readAll_toString h f.name
  · exact absurd (hlower.symm.trans h) hregex

theorem Fits.run_typed (h : c.Fits) (scope : Scope) (n : Int) :
    Integer.type.run scope (.typed (.integer n)) [c.call] = (do
      let k ← integerOf (.integer n)
      return (← keepIf (c.Holds k) c.reason).getD (.integer n)) := by
  obtain ⟨f, hf, hsignature, happly⟩ := c.exists_function
  have hread : f.signature.readAll f.name (c.bounds.map toString) = .ok (c.bounds.map .integer) := by
    rw [hsignature]
    exact Signature.readAll_toString h f.name
  have hcall : Integer.type.applyCall scope (.integer n) c.call = (do
      return (← f.apply scope (.integer n) (c.bounds.map .integer)).getD (.integer n)) :=
    RuleType.applyCall_of_function hf hread
  have hreceive : Integer.type.receive scope (.typed (.integer n)) = pure (.integer n) := rfl
  rw [RuleType.run, hreceive, pure_bind, RuleType.applyCalls_singleton, hcall, happly h,
    bind_assoc]

end Comparison

/-- Comparisons decide the order of the integers for all values that fit 64 bits with a sign. What is
greater is not found to be an integer, whether the comparison holds or not. -/
theorem Engine.apply_comparison {e : Engine} (hfind : e.catalog.find? "int" = some Integer.type)
    (hdepth : 0 < e.limits.depth) {c : Comparison} (hc : c.Fits)
    (hbytes : (checkOf "int" [c.text]).utf8ByteSize ≤ e.limits.bytes) (context : Context) {n : Int}
    (hleast : Value.minSigned ≤ n) :
    (n ≤ Value.maxSigned →
      (e.apply context (.text (checkOf "int" [c.text])) (.typed (.integer n))).result =
        .ok (if c.Holds n then .valid (.integer n) else .invalid [c.reason])) ∧
    (Value.maxSigned < n →
      (e.apply context (.text (checkOf "int" [c.text])) (.typed (.integer n))).result =
        .ok (.invalid [.notInteger])) := by
  have hcalls : List.Forall₂ Integer.type.CallOf [c.text] [c.call] := .cons hc.callOf_text .nil
  have hword : Word Integer.type.name.toList := (by decide : Word "int".toList)
  have hrun := apply_callsOf hword hfind Integer.decisive hcalls (List.cons_ne_nil _ _) hdepth
    hbytes context (.typed (.integer n)) (e.scopeFor context [])
  rw [hc.run_typed] at hrun
  constructor
  · intro hgreatest
    have hread : integerOf (.integer n) = pure n := by
      rw [integerOf, Value.signed?_integer hleast hgreatest]
      rfl
    rw [hread, pure_bind] at hrun
    refine hrun.trans ?_
    by_cases hholds : c.Holds n
    · rw [if_pos hholds, decide_eq_true hholds]
      rfl
    · rw [if_neg hholds, decide_eq_false hholds]
      rfl
  · intro hgreater
    have hread : integerOf (.integer n) = .reject .notInteger := by
      rw [integerOf, Value.signed?, if_neg fun h ↦ absurd h.2 (by omega)]
    rw [hread] at hrun
    exact hrun

theorem Engine.apply_comparison_limits :
    (apply { catalog := .builtin } [] (.text "int[between(5,9223372036854775807)]")
      (.typed (.integer 9223372036854775807))).result =
        .ok (.valid (.integer 9223372036854775807)) ∧
    (apply { catalog := .builtin } [] (.text "int[greater(5)]")
      (.typed (.integer 9223372036854775808))).result = .ok (.invalid [.notInteger]) := by
  let e : Engine := { catalog := .builtin }
  have hbetween : checkOf "int" [(Comparison.between 5 9223372036854775807).text] =
      "int[between(5,9223372036854775807)]" := by
    decide +kernel
  have hgreater : checkOf "int" [(Comparison.greater 5).text] = "int[greater(5)]" := by
    decide +kernel
  constructor
  · obtain ⟨h, -⟩ := apply_comparison (e := e) (c := .between 5 9223372036854775807) (by cbv)
      (by decide) (by decide) (by rw [hbetween]; decide) [] (n := 9223372036854775807) (by decide)
    rw [hbetween] at h
    exact h (by decide)
  · obtain ⟨-, h⟩ := apply_comparison (e := e) (c := .greater 5) (by cbv)
      (by decide) (by decide) (by rw [hgreater]; decide) [] (n := 9223372036854775808) (by decide)
    rw [hgreater] at h
    exact h (by decide)

/-- An integer above the bound is refused if it does not fit 64 bits with a sign. -/
theorem Engine.not_forall_apply_comparison : ¬∀ (c : Comparison) (n : Int), c.Fits →
    Value.minSigned ≤ n → n ≤ Value.maxUnsigned →
    (apply { catalog := .builtin } [] (.text (checkOf "int" [c.text])) (.typed (.integer n))).result =
      .ok (if c.Holds n then .valid (.integer n) else .invalid [c.reason]) := by
  intro h
  have htext : checkOf "int" [(Comparison.greater 5).text] = "int[greater(5)]" := by decide +kernel
  have hrun : (apply { catalog := .builtin } [] (.text "int[greater(5)]")
      (.typed (.integer 9223372036854775808))).result = .ok (.invalid [.notInteger]) := by
    decide +kernel
  have hholds := h (.greater 5) 9223372036854775808 (by decide) (by decide) (by decide)
  rw [htext, hrun, if_pos (by decide)] at hholds
  cases hholds

end Rulebook
