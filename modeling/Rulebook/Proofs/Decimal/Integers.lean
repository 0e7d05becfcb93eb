import Mathlib.Data.List.Infix
import Rulebook.Decimal.Reading
import Rulebook.Proofs.Text.Trimming

namespace Rulebook.Decimal

open Text

theorem le_iff_toNat_le {a b : Char} : a ≤ b ↔ a.toNat ≤ b.toNat := Iff.rfl

theorem not_isBlank_of_isDigit {c : Char} (h : isDigit c = true) : isBlank c = false := by
  rw [isDigit, Bool.and_eq_true, decide_eq_true_iff, decide_eq_true_iff] at h
  rw [← Bool.not_eq_true]
  intro hblank
  simp only [isBlank, Bool.or_eq_true, Bool.and_eq_true, decide_eq_true_iff, beq_iff_eq,
    ← Char.toNat_inj, le_iff_toNat_le, Char.reduceToNat] at hblank h
  omega

theorem splitSign_of_digits {cs : List Char} (h : ∀ c ∈ cs, isDigit c = true) :
    splitSign cs = (false, cs) := by
  unfold splitSign
  split
  · exact absurd (h '-' List.mem_cons_self) (by decide)
  · exact absurd (h '+' List.mem_cons_self) (by decide)
  · rfl

theorem isDigit_of_mem_toDigits {n : Nat} {c : Char} (h : c ∈ Nat.toDigits 10 n) :
    isDigit c = true :=
  Nat.isDigit_of_mem_toDigits (by decide) (by decide) h

theorem nat?_toDigits (n : Nat) : nat? (Nat.toDigits 10 n) = some n := by
  have hne : (Nat.toDigits 10 n).isEmpty = false := by
    rw [List.isEmpty_eq_false_iff]
    exact Nat.toDigits_ne_nil
  have hall : (Nat.toDigits 10 n).all isDigit = true :=
    List.all_eq_true.2 fun _ hc ↦ isDigit_of_mem_toDigits hc
  rw [nat?, hne, hall]
  exact congrArg some Nat.ofDigitChars_ten_toDigits

theorem length_toDigits_mono {j k : Nat} (h : j ≤ k) :
    (Nat.toDigits 10 j).length ≤ (Nat.toDigits 10 k).length := by
  have hpos : 0 < (Nat.toDigits 10 k).length := List.length_pos_iff.2 Nat.toDigits_ne_nil
  have hk := (Nat.length_toDigits_le_iff (b := 10) (n := k) (by decide) hpos).1 (Nat.le_refl _)
  exact (Nat.length_toDigits_le_iff (by decide) hpos).2 (Nat.lt_of_le_of_lt h hk)

theorem eq_of_prefix_toDigits {j k : Nat} (h : Nat.toDigits 10 k <+: Nat.toDigits 10 j)
    (hjk : j ≤ k) : j = k := by
  have hdigits := h.eq_of_length_le (length_toDigits_mono hjk)
  rw [← Nat.ofDigitChars_ten_toDigits (n := j), ← hdigits, Nat.ofDigitChars_ten_toDigits]

theorem prefix_toDigits_append {j k : Nat} {cs : List Char}
    (h : Nat.toDigits 10 k <+: Nat.toDigits 10 j ++ cs) (hjk : j ≤ k) :
    j = k ∨ (Nat.toDigits 10 j).length < (Nat.toDigits 10 k).length ∧
      ∃ d ∈ cs.head?, isDigit d = true := by
  obtain hk | hj := List.prefix_or_prefix_of_prefix h (List.prefix_append _ cs)
  · exact .inl (eq_of_prefix_toDigits hk hjk)
  · obtain ⟨ds, hds⟩ := hj
    rw [← hds, List.prefix_append_right_inj] at h
    cases ds with
    | nil =>
      rw [List.append_nil] at hds
      exact .inl (eq_of_prefix_toDigits (hds ▸ List.prefix_rfl) hjk)
    | cons d ds =>
      obtain ⟨r, rfl⟩ := h
      refine .inr ⟨?_, d, rfl, isDigit_of_mem_toDigits (n := k) ?_⟩
      · rw [← hds, List.length_append, List.length_cons]
        omega
      · rw [← hds]
        simp

theorem toList_toString (n : Int) : (toString n).toList =
    if 0 ≤ n then Nat.toDigits 10 n.toNat else '-' :: Nat.toDigits 10 (-n).toNat := by
  have hrepr : toString n = n.repr := rfl
  rw [hrepr, Int.repr_eq_if]
  split <;> simp

theorem int?_toString (n : Int) : int? (toString n).toList = some n := by
  rw [toList_toString]
  split
  · next hn =>
    have hnat : (n.toNat : Int) = n := by omega
    rw [int?, splitSign_of_digits fun _ hc ↦ isDigit_of_mem_toDigits hc]
    simp only [nat?_toDigits]
    exact congrArg some hnat
  · next hn =>
    have hnat : -((-n).toNat : Int) = n := by omega
    rw [int?, splitSign]
    simp only [nat?_toDigits]
    exact congrArg some hnat

theorem mem_toString {n : Int} {c : Char} (h : c ∈ (toString n).toList) :
    c = '-' ∨ isDigit c = true := by
  rw [toList_toString] at h
  split at h
  · exact .inr (isDigit_of_mem_toDigits h)
  · obtain rfl | h := List.mem_cons.1 h
    · exact .inl rfl
    · exact .inr (isDigit_of_mem_toDigits h)

theorem trim_toString (n : Int) : trim (toString n).toList = (toString n).toList := by
  have hblank : ∀ c ∈ (toString n).toList, isBlank c = false := by
    intro c hc
    obtain rfl | hc := mem_toString hc
    · rfl
    · exact not_isBlank_of_isDigit hc
  refine trim_eq_self_iff.2 ⟨fun c hc ↦ ?_, fun c hc ↦ ?_⟩
  · exact hblank c (List.mem_of_mem_head? hc)
  · exact hblank c (List.mem_of_mem_getLast? hc)

theorem signed?_toString {cs : List Char} {n : Int} (h : signed? cs = some n) :
    signed? (trim (toString n).toList) = some n := by
  obtain ⟨-, hrange⟩ := Option.filter_eq_some_iff.1 h
  rw [trim_toString]
  exact Option.filter_eq_some_iff.2 ⟨int?_toString n, hrange⟩

end Rulebook.Decimal
