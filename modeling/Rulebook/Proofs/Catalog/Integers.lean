import Rulebook.Proofs.Catalog.Formatting
import Rulebook.Proofs.Decimal.Numerals

namespace Rulebook

open Decimal Text

variable {scope : Scope} {text : String} {v : Value}

theorem Integer.convert_eq_ok_iff_spells :
    (convert scope text).result = .ok v ↔ ∃ n, v = .integer n ∧ Spells text n := by
  rw [convert_eq_ok_iff]
  simp only [signed?_trim_eq_some_iff, and_comm]

theorem ArgumentKind.read?_integer_eq_some_iff :
    ArgumentKind.integer.read? text = some v ↔ ∃ n, v = .integer n ∧ Spells text n := by
  rw [read?, Option.map_eq_some_iff]
  simp only [signed?_trim_eq_some_iff, and_comm, @eq_comm _ _ v]

theorem Integer.convert_of_not_spells (h : ¬∃ n, Spells text n) :
    convert scope text = .reject .unreadableInteger := by
  have hread : signed? (trim text.toList) = none := by
    rw [Option.eq_none_iff_forall_ne_some]
    exact fun n hn ↦ h ⟨n, signed?_trim_eq_some_iff.1 hn⟩
  rw [convert, hread]

section Written

variable {n : Int} (hleast : Value.minSigned ≤ n) (hgreatest : n ≤ Value.maxSigned)

include hleast hgreatest

theorem Decimal.spells_toString : Spells (toString n) n := by
  refine ⟨?_, hleast, hgreatest⟩
  rw [trim_toString]
  exact int?_eq_some_iff.1 (int?_toString n)

theorem Decimal.spells_padded_toString {l r : List Char} (hl : ∀ b ∈ l, isBlank b = true)
    (hr : ∀ b ∈ r, isBlank b = true) :
    Spells (String.ofList (l ++ (toString n).toList ++ r)) n := by
  have h := spells_toString hleast hgreatest
  refine ⟨?_, h.least, h.greatest⟩
  rw [String.toList_ofList, trim_append_right hr, trim_append_left hl]
  exact h.numeral

end Written

namespace Signature

variable {ns : List Int} (h : ∀ n ∈ ns, Value.minSigned ≤ n ∧ n ≤ Value.maxSigned)

include h

theorem readFrom_toString (function : String) {i count : Nat} (hcount : i + ns.length ≤ count) :
    (fixed (List.replicate count [.integer])).readFrom function i (ns.map toString) =
      .ok (ns.map .integer) := by
  induction ns generalizing i with
  | nil => rfl
  | cons n ns ih =>
    obtain ⟨⟨hleast, hgreatest⟩, hns⟩ := List.forall_mem_cons.1 h
    rw [List.length_cons] at hcount
    have hi : i < count := by omega
    have hkinds : (fixed (List.replicate count [.integer])).kindsAt i = [.integer] := by
      simp [kindsAt, hi]
    have hread : ArgumentKind.integer.read? (toString n) = some (.integer n) :=
      ArgumentKind.read?_integer_eq_some_iff.2 ⟨n, rfl, Decimal.spells_toString hleast hgreatest⟩
    rw [List.map_cons, readFrom, hkinds, List.findSome?_cons, hread, ih hns (by omega)]
    rfl

theorem readAll_toString (function : String) :
    (fixed (List.replicate ns.length [.integer])).readAll function (ns.map toString) =
      .ok (ns.map .integer) := by
  have hcount : (fixed (List.replicate ns.length [.integer])).checkCount function
      (ns.map toString).length = .ok () := by
    simp [checkCount]
  rw [readAll_of_count hcount]
  exact readFrom_toString h function (by omega)

end Signature

theorem Integer.function?_eq (name : String) : type.function? name =
    if lower name = "greater" then some ⟨"greater", "above %0", .fixed [[.integer]], greater⟩
    else if lower name = "less" then some ⟨"less", "below %0", .fixed [[.integer]], less⟩
    else if lower name = "between" then
      some ⟨"between", "between %0 and %1", .fixed [[.integer], [.integer]], between⟩
    else none := by
  rw [type, RuleType.function?_withFunction, RuleType.function?_withFunction,
    RuleType.function?_withFunction]
  rfl

/-- Integer text is read exactly. The converter and the reader of integer arguments accept the texts
that spell an integer, give that integer, and refuse all others; the digits of an integer are read
back whatever white space stands around them. -/
theorem Integer.read_exactly :
    (∀ scope text v,
      (convert scope text).result = .ok v ↔ ∃ n, v = .integer n ∧ Spells text n) ∧
    (∀ text v,
      ArgumentKind.integer.read? text = some v ↔ ∃ n, v = .integer n ∧ Spells text n) ∧
    (∀ scope text, (¬∃ n, Spells text n) →
      (convert scope text).result = .error (.invalid .unreadableInteger)) ∧
    ∀ scope n l r, Value.minSigned ≤ n → n ≤ Value.maxSigned →
      (∀ b ∈ l, isBlank b = true) → (∀ b ∈ r, isBlank b = true) →
      (convert scope (String.ofList (l ++ (Value.integer n).display.toList ++ r))).result =
        .ok (.integer n) := by
  refine ⟨fun _ _ _ ↦ convert_eq_ok_iff_spells, fun _ _ ↦ ArgumentKind.read?_integer_eq_some_iff,
    fun _ _ h ↦ ?_, fun scope n l r hleast hgreatest hl hr ↦ ?_⟩
  · rw [convert_of_not_spells h]
    rfl
  · exact convert_eq_ok_iff_spells.2 ⟨n, rfl, spells_padded_toString hleast hgreatest hl hr⟩

theorem Integer.read_exactly_limits :
    (∀ scope, (convert scope "+007").result = .ok (.integer 7)) ∧
    (∀ scope, (convert scope (String.ofList (['\u3000'] ++
      (Value.integer Value.minSigned).display.toList ++ ['\n']))).result =
      .ok (.integer Value.minSigned)) ∧
    ∀ scope, (convert scope "9223372036854775808").result =
      .error (.invalid .unreadableInteger) := by
  refine ⟨fun scope ↦ ?_, fun scope ↦ ?_, fun scope ↦ ?_⟩
  · refine (read_exactly.1 scope _ _).2 ⟨7, rfl, ?_, by decide, by decide⟩
    exact .plus (.intro [0, 0, 7] (by decide) (by decide))
  · exact read_exactly.2.2.2 scope Value.minSigned ['\u3000'] ['\n'] (by decide) (by decide)
      (List.forall_mem_singleton.2 rfl) (List.forall_mem_singleton.2 rfl)
  · have hnone : signed? (trim "9223372036854775808".toList) = none := by decide +kernel
    have hspells : ¬∃ n, Spells "9223372036854775808" n := by
      rintro ⟨n, hn⟩
      cases hnone.symm.trans (signed?_trim_eq_some_iff.2 hn)
    exact read_exactly.2.2.1 scope _ hspells

end Rulebook
