import Mathlib
import Rulebook.Text.Lowercase

namespace Rulebook.Text

namespace CapitalRun

variable {r : CapitalRun} {n k k' : Nat} {rs : List CapitalRun}

def has (r : CapitalRun) (n : Nat) : Bool :=
  r.first.ble n && n.ble r.last && ((n - r.first) % r.step).beq 0

def target (r : CapitalRun) (k : Nat) : Nat :=
  (((r.first + k * r.step : Nat) : Int) + r.shift).toNat

/-- The small forms of one run are no capitals of another: they all stand before them or behind
them, or between them. -/
def avoids (r q : CapitalRun) : Bool :=
  (r.target (r.count - 1)).blt q.first || q.last.blt (r.target 0) ||
    (List.range (r.count - 1 + 1)).all fun k ↦ !q.has (r.target k)

theorem has_iff : r.has n = true ↔ r.first ≤ n ∧ n ≤ r.last ∧ (n - r.first) % r.step = 0 := by
  rw [has, Bool.and_eq_true, Bool.and_eq_true, Nat.ble_eq, Nat.ble_eq, Nat.beq_eq, and_assoc]

theorem target_le (h : k ≤ k') : r.target k ≤ r.target k' := by
  have hmul := Nat.mul_le_mul_right r.step h
  rw [target, target]
  omega

theorem has_target_of_avoids {q : CapitalRun} (h : r.avoids q = true) (hk : k ≤ r.count - 1) :
    q.has (r.target k) = false := by
  rw [← Bool.not_eq_true, has_iff]
  rintro ⟨hfirst, hlast, hstep⟩
  have hlow : r.target 0 ≤ r.target k := target_le (Nat.zero_le k)
  have hhigh : r.target k ≤ r.target (r.count - 1) := target_le hk
  simp only [avoids, Bool.or_eq_true, Nat.blt_eq, List.all_eq_true, Bool.not_eq_true'] at h
  obtain (hbefore | hafter) | hbetween := h
  · omega
  · omega
  · have hnot := hbetween k (List.mem_range.2 (Nat.lt_succ_of_le hk))
    rw [has_iff.2 ⟨hfirst, hlast, hstep⟩] at hnot
    cases hnot

theorem smallIn_eq_self (h : ∀ r ∈ rs, r.has n = false) : smallIn n rs = n := by
  induction rs with
  | nil => rfl
  | cons r rs ih =>
    obtain ⟨hr, hrs⟩ := List.forall_mem_cons.1 h
    rw [smallIn]
    split_ifs with hfirst hlast hstep
    · rfl
    · rw [has_iff.2 ⟨Nat.le_of_not_lt hfirst, hlast, hstep⟩] at hr
      cases hr
    · rfl
    · exact ih hrs

theorem smallIn_cases (n : Nat) (rs : List CapitalRun) :
    smallIn n rs = n ∨ ∃ r ∈ rs, ∃ k ≤ r.count - 1, smallIn n rs = r.target k := by
  induction rs with
  | nil => exact .inl rfl
  | cons r rs ih =>
    rw [smallIn]
    split_ifs with hfirst hlast hstep
    · exact .inl rfl
    · refine .inr ⟨r, List.mem_cons_self, ?_⟩
      obtain ⟨k, hk⟩ := Nat.dvd_of_mod_eq_zero hstep
      rw [Nat.mul_comm] at hk
      rw [last] at hlast
      obtain hzero | hpos := Nat.eq_zero_or_pos r.step
      · refine ⟨0, Nat.zero_le _, ?_⟩
        rw [hzero, Nat.mul_zero] at hk
        rw [target, Nat.zero_mul, Nat.add_zero, show n = r.first by omega]
      · refine ⟨k, Nat.le_of_mul_le_mul_right (by omega) hpos, ?_⟩
        rw [target, show n = r.first + k * r.step by omega]
    · exact .inl rfl
    · obtain h | ⟨r', hr', h⟩ := ih
      · exact .inl h
      · exact .inr ⟨r', List.mem_cons_of_mem r hr', h⟩

end CapitalRun

structure IsSmall (c : Char) : Prop where
  small_eq : small c = c
  ne_sigma : c ≠ 'Σ'
  ne_dotted : c ≠ 'İ'

instance : DecidablePred IsSmall := fun c ↦
  decidable_of_iff (small c = c ∧ c ≠ 'Σ' ∧ c ≠ 'İ')
    ⟨fun h ↦ ⟨h.1, h.2.1, h.2.2⟩, fun h ↦ ⟨h.1, h.2, h.3⟩⟩

def allCapitals : List CapitalRun := ⟨0x41, 26, 1, 32⟩ :: ⟨0x130, 1, 1, 0⟩ :: capitalRuns

theorem avoids_allCapitals : (capitalRuns.all fun r ↦ allCapitals.all r.avoids) = true := by
  decide +kernel

theorem isSmall_toLower : ∀ n < 0x80, IsSmall (Char.ofNat n).toLower := by
  decide +kernel

theorem toLower_eq_self : ∀ n < 0x80, CapitalRun.has ⟨0x41, 26, 1, 32⟩ n = false →
    (Char.ofNat n).toLower = Char.ofNat n := by
  decide +kernel

theorem toNat_ofNat_or (n : Nat) : (Char.ofNat n).toNat = n ∨ Char.ofNat n = '\x00' := by
  rw [Char.ofNat]
  split
  · exact .inl rfl
  · exact .inr rfl

theorem isSmall_ofNat {n : Nat} (h : ∀ r ∈ allCapitals, r.has n = false) :
    IsSmall (Char.ofNat n) := by
  obtain hn | hnull := toNat_ofNat_or n
  · have hne (c : Char) (hc : ∃ r ∈ allCapitals, r.has c.toNat = true) : Char.ofNat n ≠ c := by
      rintro rfl
      obtain ⟨r, hr, htrue⟩ := hc
      rw [hn, h r hr] at htrue
      cases htrue
    refine ⟨?_, hne 'Σ' (by decide +kernel), hne 'İ' (by decide +kernel)⟩
    obtain ⟨hascii, htables⟩ := List.forall_mem_cons.1 h
    rw [small, hn]
    split_ifs with hlow
    · exact toLower_eq_self n hlow hascii
    · rw [CapitalRun.smallIn_eq_self (List.forall_mem_cons.1 htables).2]
  · rw [hnull]
    decide +kernel

theorem isSmall_small {c : Char} (hsigma : c ≠ 'Σ') (hdotted : c ≠ 'İ') : IsSmall (small c) := by
  by_cases hlow : c.toNat < 0x80
  · have hsmall := isSmall_toLower c.toNat hlow
    rw [Char.ofNat_toNat] at hsmall
    rwa [small, if_pos hlow]
  · obtain hself | ⟨r, hr, k, hk, htarget⟩ := CapitalRun.smallIn_cases c.toNat capitalRuns
    · have hsmall : small c = c := by rw [small, if_neg hlow, hself, Char.ofNat_toNat]
      rw [hsmall]
      exact ⟨hsmall, hsigma, hdotted⟩
    · rw [small, if_neg hlow, htarget]
      refine isSmall_ofNat fun q hq ↦ ?_
      have havoids := List.all_eq_true.1 (List.all_eq_true.1 avoids_allCapitals r hr) q hq
      exact CapitalRun.has_target_of_avoids havoids hk

theorem isSmall_of_mem_smallForm {before after : List Char} {c d : Char}
    (h : d ∈ smallForm before c after) : IsSmall d := by
  rw [smallForm] at h
  split_ifs at h with hsigma hfinal hdotted
  · obtain rfl := List.mem_singleton.1 h
    decide +kernel
  · obtain rfl := List.mem_singleton.1 h
    decide +kernel
  · have hdot : ∀ d ∈ ['i', '\u0307'], IsSmall d :=
      List.forall_mem_cons.2 ⟨by decide +kernel, List.forall_mem_singleton.2 (by decide +kernel)⟩
    exact hdot d h
  · obtain rfl := List.mem_singleton.1 h
    exact isSmall_small hsigma hdotted

theorem smallForm_eq {c : Char} (h : IsSmall c) (before after : List Char) :
    smallForm before c after = [c] := by
  rw [smallForm, if_neg h.ne_sigma, if_neg h.ne_dotted, h.small_eq]

theorem isSmall_of_mem_lowerFrom {before acc cs : List Char} (hacc : ∀ c ∈ acc, IsSmall c) :
    ∀ d ∈ lowerFrom before acc cs, IsSmall d := by
  induction cs generalizing before acc with
  | nil =>
    rw [lowerFrom]
    exact fun d hd ↦ hacc d (List.mem_reverse.1 hd)
  | cons c r ih =>
    rw [lowerFrom]
    refine ih fun d hd ↦ ?_
    obtain hd | hd := List.mem_append.1 hd
    · exact isSmall_of_mem_smallForm (List.mem_reverse.1 hd)
    · exact hacc d hd

theorem lowerFrom_eq {cs : List Char} (h : ∀ c ∈ cs, IsSmall c) (before acc : List Char) :
    lowerFrom before acc cs = acc.reverse ++ cs := by
  induction cs generalizing before acc with
  | nil => rw [lowerFrom, List.append_nil]
  | cons c r ih =>
    obtain ⟨hc, hr⟩ := List.forall_mem_cons.1 h
    rw [lowerFrom, smallForm_eq hc, ih hr, List.reverse_append]
    simp

@[simp] theorem lower_lower (s : String) : lower (lower s) = lower s := by
  have hsmall : ∀ c ∈ lowerFrom [] [] s.toList, IsSmall c :=
    isSmall_of_mem_lowerFrom (List.forall_mem_nil _)
  rw [lower, lower, String.toList_ofList, lowerFrom_eq hsmall]
  rfl

end Rulebook.Text
