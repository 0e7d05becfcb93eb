import Mathlib.Data.Nat.Digits.Defs
import Rulebook.Proofs.Decimal.Integers
import Rulebook.Value

namespace Rulebook.Decimal

open Text

inductive Numeral : List Char → Nat → Prop
  | intro (ds : List Nat) (hne : ds ≠ []) (hlt : ∀ d ∈ ds, d < 10) :
    Numeral (ds.map Nat.digitChar) (Nat.ofDigits 10 ds.reverse)

inductive SignedNumeral : List Char → Int → Prop
  | unsigned {cs : List Char} {n : Nat} (h : Numeral cs n) : SignedNumeral cs n
  | plus {cs : List Char} {n : Nat} (h : Numeral cs n) : SignedNumeral ('+' :: cs) n
  | minus {cs : List Char} {n : Nat} (h : Numeral cs n) : SignedNumeral ('-' :: cs) (-n)

/-- A text that says which integer of 64 bits is meant, blanks around it aside. -/
structure Spells (text : String) (n : Int) : Prop where
  numeral : SignedNumeral (trim text.toList) n
  least : Value.minSigned ≤ n
  greatest : n ≤ Value.maxSigned

theorem isDigit_iff {c : Char} : isDigit c = true ↔ 48 ≤ c.toNat ∧ c.toNat ≤ 57 := by
  rw [isDigit, Bool.and_eq_true, decide_eq_true_iff, decide_eq_true_iff]
  rfl

theorem digitValue_lt {c : Char} (h : isDigit c = true) : digitValue c < 10 := by
  obtain ⟨hleast, hgreatest⟩ := isDigit_iff.1 h
  show c.toNat - 48 < 10
  omega

theorem digitChar_digitValue {c : Char} (h : isDigit c = true) :
    Nat.digitChar (digitValue c) = c := by
  obtain ⟨hleast, -⟩ := isDigit_iff.1 h
  refine Char.toNat_inj.1 ?_
  rw [Nat.toNat_digitChar_of_lt_ten (digitValue_lt h)]
  show 48 + (c.toNat - 48) = c.toNat
  omega

theorem isDigit_digitChar {d : Nat} (h : d < 10) : isDigit (Nat.digitChar d) = true := by
  rw [isDigit_iff, Nat.toNat_digitChar_of_lt_ten h]
  omega

theorem natOf_digits {ds : List Nat} (h : ∀ d ∈ ds, d < 10) :
    natOf (ds.map Nat.digitChar) = Nat.ofDigits 10 ds.reverse := by
  show Nat.ofDigitChars 10 (ds.map Nat.digitChar) 0 = _
  induction ds with
  | nil => rfl
  | cons d ds ih =>
    obtain ⟨hd, hds⟩ := List.forall_mem_cons.1 h
    rw [List.map_cons, Nat.ofDigitChars_cons_digitChar_of_lt_ten hd,
      Nat.ofDigitChars_eq_ofDigitChars_zero, ih hds, List.length_map, Nat.ofDigits_reverse_cons,
      Nat.mul_zero, Nat.zero_add, Nat.add_comm]

theorem nat?_eq_some_iff {cs : List Char} {n : Nat} : nat? cs = some n ↔ Numeral cs n := by
  constructor
  · intro h
    rw [nat?] at h
    split at h
    · next hcs =>
      cases h
      rw [Bool.and_eq_true, Bool.not_eq_true', List.isEmpty_eq_false_iff, List.all_eq_true] at hcs
      obtain ⟨hne, hdigits⟩ := hcs
      have hlt : ∀ d ∈ cs.map digitValue, d < 10 :=
        List.forall_mem_map.2 fun c hc ↦ digitValue_lt (hdigits c hc)
      have htext : (cs.map digitValue).map Nat.digitChar = cs := by
        rw [List.map_map]
        exact (List.map_congr_left fun c hc ↦ digitChar_digitValue (hdigits c hc)).trans
          (List.map_id' cs)
      have hnumeral := Numeral.intro (cs.map digitValue) (by simpa using hne) hlt
      rwa [← natOf_digits hlt, htext] at hnumeral
    · cases h
  · intro h
    cases h with
    | intro ds hne hlt =>
      have hempty : (ds.map Nat.digitChar).isEmpty = false := by simpa using hne
      have hall : (ds.map Nat.digitChar).all isDigit = true :=
        List.all_eq_true.2 (List.forall_mem_map.2 fun d hd ↦ isDigit_digitChar (hlt d hd))
      rw [nat?, hempty, hall, natOf_digits hlt]
      rfl

theorem Numeral.isDigit {cs : List Char} {n : Nat} (h : Numeral cs n) :
    ∀ c ∈ cs, Decimal.isDigit c = true := by
  cases h with
  | intro ds hne hlt => exact List.forall_mem_map.2 fun d hd ↦ isDigit_digitChar (hlt d hd)

theorem int?_eq_some_iff {cs : List Char} {n : Int} : int? cs = some n ↔ SignedNumeral cs n := by
  have hint : int? cs = some n ↔
      ∃ m, nat? (splitSign cs).2 = some m ∧ (if (splitSign cs).1 then -(m : Int) else m) = n := by
    cases hread : nat? (splitSign cs).2 with
    | none => simp [int?, hread]
    | some m => simp [int?, hread]
  rw [hint]
  simp only [nat?_eq_some_iff]
  constructor
  · intro h
    obtain ⟨m, hm, rfl⟩ := h
    unfold splitSign at hm ⊢
    split at hm
    · exact .minus hm
    · exact .plus hm
    · exact .unsigned hm
  · intro h
    cases h with
    | unsigned h =>
      rw [splitSign_of_digits h.isDigit]
      exact ⟨_, h, rfl⟩
    | plus h => exact ⟨_, h, rfl⟩
    | minus h => exact ⟨_, h, rfl⟩

theorem signed?_trim_eq_some_iff {text : String} {n : Int} :
    signed? (trim text.toList) = some n ↔ Spells text n := by
  rw [signed?, Option.filter_eq_some_iff, int?_eq_some_iff, decide_eq_true_iff]
  constructor
  · intro h
    obtain ⟨hnumeral, hleast, hgreatest⟩ := h
    exact ⟨hnumeral, hleast, hgreatest⟩
  · intro h
    exact ⟨h.numeral, h.least, h.greatest⟩

end Rulebook.Decimal
