import Mathlib.Tactic.Ring
import Rulebook.Proofs.Text.Weight
import Rulebook.Text.Lossy
import Rulebook.Text.Search

namespace Rulebook.Text

variable {n : Nat} {l : Lead} {bs : List UInt8}

theorem toNat_val_ofNat (h : n.isValidChar) : (Char.ofNat n).val.toNat = n := by
  rw [Char.ofNat, dif_pos h]
  rfl

theorem le_utf8Size_ofNat {k : Nat} (h : n.isValidChar) (hk : k = 0 ∨ k = 1 ∧ 0x80 ≤ n ∨
    k = 2 ∧ 0x800 ≤ n ∨ k = 3 ∧ 0x10000 ≤ n) : k + 1 ≤ (Char.ofNat n).utf8Size := by
  rw [Char.utf8Size]
  simp only [UInt32.le_iff_toNat_le, toNat_val_ofNat h]
  simp only [UInt32.toNat_ofNatLT]
  split_ifs <;> omega

theorem follow_eq_some {c : Char} (h : (follow (n + 1) l bs).1 = some c) :
    bs.length = (follow (n + 1) l bs).2.length + (n + 1) ∧ ∃ value, c = Char.ofNat value ∧
      (l.value * 64 + (l.least - 0x80)) * 64 ^ n ≤ value ∧
      value < (l.value * 64 + (l.greatest - 0x80) + 1) * 64 ^ n := by
  induction n generalizing l bs with
  | zero =>
    cases bs with
    | nil => cases h
    | cons b bs =>
      rw [follow] at h ⊢
      split_ifs at h ⊢ with hb
      rw [follow] at h ⊢
      refine ⟨List.length_cons, _, (Option.some.inj h).symm, ?_, ?_⟩
      · rw [pow_zero, Nat.mul_one]
        exact Nat.add_le_add_left (Nat.sub_le_sub_right hb.1 _) _
      · rw [pow_zero, Nat.mul_one]
        exact Nat.lt_succ_of_le (Nat.add_le_add_left (Nat.sub_le_sub_right hb.2 _) _)
  | succ n ih =>
    cases bs with
    | nil => cases h
    | cons b bs =>
      rw [follow] at h ⊢
      split_ifs at h ⊢ with hb
      obtain ⟨hlength, value, rfl, hleast, hgreatest⟩ := ih h
      simp only [Nat.reduceSub, Nat.add_zero] at hleast hgreatest
      refine ⟨congrArg (· + 1) hlength, value, rfl, ?_, ?_⟩
      · calc (l.value * 64 + (l.least - 0x80)) * 64 ^ (n + 1)
            ≤ (l.value * 64 + (b.toNat - 0x80)) * 64 ^ (n + 1) :=
              Nat.mul_le_mul_right _ (by omega)
          _ = (l.value * 64 + (b.toNat - 0x80)) * 64 * 64 ^ n := by ring
          _ ≤ value := hleast
      · calc value
            < ((l.value * 64 + (b.toNat - 0x80)) * 64 + 63 + 1) * 64 ^ n := hgreatest
          _ = (l.value * 64 + (b.toNat - 0x80) + 1) * 64 ^ (n + 1) := by ring
          _ ≤ (l.value * 64 + (l.greatest - 0x80) + 1) * 64 ^ (n + 1) :=
              Nat.mul_le_mul_right _ (by omega)

theorem follow_eq_none (h : (follow n l bs).1 = none) :
    bs.length < (follow n l bs).2.length + n := by
  induction n generalizing l bs with
  | zero => cases bs <;> cases h
  | succ n ih =>
    cases bs with
    | nil => exact Nat.succ_pos _
    | cons b bs =>
      rw [follow] at h ⊢
      split_ifs at h ⊢ with hb
      · exact Nat.succ_lt_succ (ih h)
      · exact Nat.lt_add_of_pos_right (Nat.succ_pos n)

theorem lead?_eq_some {b : Nat} (h : lead? b = some l) :
    b < 0x80 ∧ l = { value := b, more := 0 } ∨
    0xC2 ≤ b ∧ b < 0xE0 ∧ l = { value := b - 0xC0, more := 1 } ∨
    l = { value := 0, more := 2, least := 0xA0 } ∨
    l = { value := 0xD, more := 2, greatest := 0x9F } ∨
    0xE0 < b ∧ b < 0xF0 ∧ b ≠ 0xED ∧ l = { value := b - 0xE0, more := 2 } ∨
    l = { value := 0, more := 3, least := 0x90 } ∨
    0xF0 < b ∧ b < 0xF4 ∧ l = { value := b - 0xF0, more := 3 } ∨
    l = { value := 4, more := 3, greatest := 0x8F } := by
  rw [lead?] at h
  grind

theorem bounds_of_lead? {b : Nat} (h : lead? b = some l) : l.more = 0 ∧ l.value < 0x80 ∨
    l.more = 1 ∧ 0x80 ≤ l.value * 64 + (l.least - 0x80) ∧
      l.value * 64 + (l.greatest - 0x80) < 0x800 ∨
    l.more = 2 ∧ 0x800 ≤ (l.value * 64 + (l.least - 0x80)) * 64 ∧
      ((l.value * 64 + (l.greatest - 0x80) + 1) * 64 ≤ 0xD800 ∨
        0xE000 ≤ (l.value * 64 + (l.least - 0x80)) * 64 ∧
          (l.value * 64 + (l.greatest - 0x80) + 1) * 64 ≤ 0x10000) ∨
    l.more = 3 ∧ 0x10000 ≤ (l.value * 64 + (l.least - 0x80)) * 4096 ∧
      (l.value * 64 + (l.greatest - 0x80) + 1) * 4096 ≤ 0x110000 := by
  obtain ⟨_, rfl⟩ | ⟨_, _, rfl⟩ | rfl | rfl | ⟨_, _, _, rfl⟩ | rfl | ⟨_, _, rfl⟩ | rfl :=
    lead?_eq_some h <;> dsimp only <;> omega

theorem size_replacement : '\ufffd'.utf8Size = 3 := by decide

theorem length_follow_of_some {b : Nat} {c : Char} (hlead : lead? b = some l)
    (h : (follow l.more l bs).1 = some c) :
    bs.length + 1 ≤ (follow l.more l bs).2.length + c.utf8Size := by
  have hbounds := bounds_of_lead? hlead
  cases hmore : l.more with
  | zero =>
    rw [follow]
    exact Nat.add_le_add_left c.utf8Size_pos _
  | succ n =>
    rw [hmore] at h hbounds
    obtain ⟨hlength, value, rfl, hleast, hgreatest⟩ := follow_eq_some h
    have hsize : n + 1 + 1 ≤ (Char.ofNat value).utf8Size := by
      obtain rfl | rfl | rfl : n = 0 ∨ n = 1 ∨ n = 2 := by omega
      all_goals
        simp only [pow_zero, pow_one, Nat.mul_one, Nat.reducePow] at hleast hgreatest
        have hvalid : value < 0xD800 ∨ 0xDFFF < value ∧ value < 0x110000 := by omega
        exact le_utf8Size_ofNat hvalid (by omega)
    omega

theorem length_le_size_lossy (bs : List UInt8) : bs.length ≤ size (lossy bs) := by
  induction bs using lossy.induct with
  | case1 => exact Nat.zero_le _
  | case2 b bs hlead ih =>
    rw [lossy, hlead]
    show bs.length + 1 ≤ size ('\ufffd' :: lossy bs)
    rw [size_cons, size_replacement]
    omega
  | case3 b bs l hlead hshorter ih =>
    rw [lossy, hlead]
    show bs.length + 1 ≤ size ((follow l.more l bs).1.getD '\ufffd' :: lossy (follow l.more l bs).2)
    rw [size_cons]
    have hbounds := bounds_of_lead? hlead
    cases hc : (follow l.more l bs).1 with
    | none =>
      have hlength := follow_eq_none hc
      rw [Option.getD_none, size_replacement]
      omega
    | some c =>
      rw [Option.getD_some]
      have hc' := length_follow_of_some hlead hc
      omega

theorem toNat_mark (n : Nat) : (UInt8.ofNat (n % 64 + 0x80)).toNat = n % 64 + 0x80 :=
  toNat_remainder (by decide) (by decide) n

theorem follow_mark {w : Nat} (hl : l.value = w / 64) (h : l.least ≤ w % 64 + 0x80)
    (h' : w % 64 + 0x80 ≤ l.greatest) (bs : List UInt8) :
    follow (n + 1) l (UInt8.ofNat (w % 64 + 0x80) :: bs) = follow n { value := w, more := n } bs := by
  have hvalue : w / 64 * 64 + (w % 64 + 0x80 - 0x80) = w := by omega
  rw [follow, toNat_mark, if_pos ⟨h, h'⟩, hl, hvalue]

theorem follow_mark_more {v w : Nat} (hv : v = w / 64) (bs : List UInt8) :
    follow (n + 1) { value := v, more := n + 1 } (UInt8.ofNat (w % 64 + 0x80) :: bs) =
      follow n { value := w, more := n } bs :=
  follow_mark hv (Nat.le_add_left _ _) (by dsimp only; omega) bs

theorem lossy_of_lead? {b : UInt8} {c : Char} {bs rest : List UInt8} (hlead : lead? b.toNat = some l)
    (h : follow l.more l bs = (some c, rest)) : lossy (b :: bs) = c :: lossy rest := by
  rw [lossy, hlead]
  show (follow l.more l bs).1.getD '\ufffd' :: lossy (follow l.more l bs).2 = c :: lossy rest
  rw [h]
  rfl

theorem lead?_two {v : Nat} (h : 0x7F < v) (h' : v ≤ 0x7FF) :
    lead? (v / 64 % 32 + 0xC0) = some { value := v / 64, more := 1 } := by
  rw [lead?, if_neg (by omega), if_neg (by omega), if_pos (by omega), Nat.add_sub_cancel,
    Nat.mod_eq_of_lt (by omega)]

theorem lead?_three {v : Nat} (h : 0x7FF < v) (h' : v ≤ 0xFFFF)
    (hvalid : v < 0xD800 ∨ 0xDFFF < v) :
    ∃ l, lead? (v / 4096 % 16 + 0xE0) = some l ∧ l.more = 2 ∧ l.value = v / 4096 ∧
      l.least ≤ v / 64 % 64 + 0x80 ∧ v / 64 % 64 + 0x80 ≤ l.greatest := by
  rw [lead?, if_neg (by omega), if_neg (by omega), if_neg (by omega)]
  by_cases hfirst : v / 4096 % 16 + 0xE0 = 0xE0
  · rw [if_pos hfirst]
    exact ⟨_, rfl, rfl, by dsimp only; omega⟩
  · rw [if_neg hfirst]
    by_cases hsurrogate : v / 4096 % 16 + 0xE0 = 0xED
    · rw [if_pos hsurrogate]
      exact ⟨_, rfl, rfl, by dsimp only; omega⟩
    · rw [if_neg hsurrogate, if_pos (by omega)]
      exact ⟨_, rfl, rfl, by dsimp only; omega⟩

theorem lead?_four {v : Nat} (h : 0xFFFF < v) (h' : v < 0x110000) :
    ∃ l, lead? (v / 262144 % 8 + 0xF0) = some l ∧ l.more = 3 ∧ l.value = v / 262144 ∧
      l.least ≤ v / 4096 % 64 + 0x80 ∧ v / 4096 % 64 + 0x80 ≤ l.greatest := by
  rw [lead?, if_neg (by omega), if_neg (by omega), if_neg (by omega), if_neg (by omega),
    if_neg (by omega), if_neg (by omega)]
  by_cases hfirst : v / 262144 % 8 + 0xF0 = 0xF0
  · rw [if_pos hfirst]
    exact ⟨_, rfl, rfl, by dsimp only; omega⟩
  · rw [if_neg hfirst]
    by_cases hbelow : v / 262144 % 8 + 0xF0 < 0xF4
    · rw [if_pos hbelow]
      exact ⟨_, rfl, rfl, by dsimp only; omega⟩
    · rw [if_neg hbelow, if_pos (by omega)]
      exact ⟨_, rfl, rfl, by dsimp only; omega⟩

theorem lossy_utf8EncodeChar (c : Char) (bs : List UInt8) :
    lossy (String.utf8EncodeChar c ++ bs) = c :: lossy bs := by
  have hvalid : c.val.toNat < 0xD800 ∨ 0xDFFF < c.val.toNat ∧ c.val.toNat < 0x110000 := c.valid
  have hc : Char.ofNat c.val.toNat = c := Char.ofNat_toNat c
  rw [String.utf8EncodeChar]
  generalize c.val.toNat = v at hvalid hc
  subst hc
  split_ifs with h1 h2 h3
  · have hb : (UInt8.ofNat v).toNat = v := by
      rw [UInt8.toNat_ofNat', Nat.mod_eq_of_lt (by omega)]
    refine lossy_of_lead? (l := { value := v, more := 0 }) ?_ rfl
    rw [hb, lead?, if_pos (by omega)]
  · refine lossy_of_lead? (l := { value := v / 64, more := 1 }) ?_ (follow_mark_more rfl bs)
    rw [toNat_remainder (by decide) (by decide), lead?_two (by omega) h2]
  · obtain ⟨l, hlead, hmore, hvalue, hleast, hgreatest⟩ :=
      lead?_three (v := v) (by omega) h3 (by omega)
    rw [← toNat_remainder (by decide) (by decide)] at hlead
    refine lossy_of_lead? hlead ?_
    rw [hmore]
    exact (follow_mark (by omega) hleast hgreatest _).trans (follow_mark_more rfl bs)
  · obtain ⟨l, hlead, hmore, hvalue, hleast, hgreatest⟩ :=
      lead?_four (v := v) (by omega) (by omega)
    rw [← toNat_remainder (by decide) (by decide)] at hlead
    refine lossy_of_lead? hlead ?_
    rw [hmore]
    exact (follow_mark (by omega) hleast hgreatest _).trans
      ((follow_mark_more (by omega) _).trans (follow_mark_more rfl bs))

theorem lossy_utf8Encode (cs : List Char) : lossy (cs.flatMap String.utf8EncodeChar) = cs := by
  induction cs with
  | nil => rw [List.flatMap_nil, lossy]
  | cons c cs ih => rw [List.flatMap_cons, lossy_utf8EncodeChar, ih]

theorem le_least_of_lead? {b : Nat} (h : lead? b = some l) : 0x80 ≤ l.least := by
  obtain ⟨_, rfl⟩ | ⟨_, _, rfl⟩ | rfl | rfl | ⟨_, _, _, rfl⟩ | rfl | ⟨_, _, rfl⟩ | rfl :=
    lead?_eq_some h <;> dsimp only <;> omega

theorem follow_append_cons {b : UInt8} (hb : b.toNat < 0x80) (h : 0x80 ≤ l.least)
    (as bs : List UInt8) : follow n l (as ++ b :: bs) =
      ((follow n l as).1, (follow n l as).2 ++ b :: bs) := by
  induction n generalizing l as with
  | zero => cases as <;> rfl
  | succ n ih =>
    cases as with
    | nil => rw [List.nil_append, follow, follow, if_neg (by omega), List.nil_append]
    | cons a as =>
      rw [List.cons_append, follow, follow]
      split_ifs
      · exact ih (Nat.le_refl _) as
      · rfl

/-- A byte of ASCII stands for itself, whatever is broken off before it. -/
theorem lossy_append_cons {b : UInt8} (hb : b.toNat < 0x80) (as bs : List UInt8) :
    lossy (as ++ b :: bs) = lossy as ++ Char.ofNat b.toNat :: lossy bs := by
  induction as using lossy.induct with
  | case1 =>
    rw [List.nil_append, lossy.eq_1, List.nil_append]
    exact lossy_of_lead? (l := { value := b.toNat, more := 0 }) (by rw [lead?, if_pos hb]) rfl
  | case2 a as hlead ih =>
    rw [List.cons_append, lossy, lossy, hlead]
    exact congrArg ('\ufffd' :: ·) ih
  | case3 a as l hlead hshorter ih =>
    rw [List.cons_append, lossy, lossy, hlead]
    dsimp only
    rw [follow_append_cons hb (le_least_of_lead? hlead), List.cons_append]
    exact congrArg _ ih

theorem follow_suffix (n : Nat) (l : Lead) (bs : List UInt8) : (follow n l bs).2 <:+ bs := by
  induction n generalizing l bs with
  | zero => cases bs <;> exact List.suffix_rfl
  | succ n ih =>
    cases bs with
    | nil => exact List.suffix_rfl
    | cons b bs =>
      rw [follow]
      split_ifs
      · exact (ih _ bs).trans (List.suffix_cons b bs)
      · exact List.suffix_rfl

theorem value_eq_of_lead? {b : Nat} (h : lead? b = some l) (hmore : l.more = 0) : l.value = b := by
  obtain ⟨_, rfl⟩ | ⟨_, _, rfl⟩ | rfl | rfl | ⟨_, _, _, rfl⟩ | rfl | ⟨_, _, rfl⟩ | rfl :=
    lead?_eq_some h
  · rfl
  all_goals cases hmore

theorem eq_of_follow {b : UInt8} {c : Char} (hc : c.toNat < 0x80) (hlead : lead? b.toNat = some l)
    (h : (follow l.more l bs).1 = some c) : UInt8.ofNat c.toNat = b := by
  have hlength := length_follow_of_some hlead h
  rw [utf8Size_of_lt hc] at hlength
  cases hmore : l.more with
  | zero =>
    have hvalue := value_eq_of_lead? hlead hmore
    have hbounds := bounds_of_lead? hlead
    rw [hmore, follow] at h
    obtain rfl := Option.some.inj h
    have hb : (Char.ofNat l.value).toNat = b.toNat :=
      (toNat_val_ofNat (.inl (by omega))).trans hvalue
    rw [hb, UInt8.ofNat_toNat]
  | succ n =>
    -- more than one byte was read for the character, so it is not in ASCII
    rw [hmore] at h hlength
    have hrest := (follow_eq_some h).1
    omega

theorem mem_of_mem_lossy {c : Char} (hc : c.toNat < 0x80) (h : c ∈ lossy bs) :
    UInt8.ofNat c.toNat ∈ bs := by
  induction bs using lossy.induct with
  | case1 =>
    rw [lossy] at h
    cases h
  | case2 b bs hlead ih =>
    rw [lossy, hlead] at h
    obtain rfl | h := List.mem_cons.1 h
    · exact absurd hc (by decide)
    · exact List.mem_cons_of_mem _ (ih h)
  | case3 b bs l hlead hshorter ih =>
    rw [lossy, hlead] at h
    obtain rfl | h := List.mem_cons.1 h
    · cases hfollow : (follow l.more l bs).1 with
      | none =>
        rw [hfollow] at hc
        exact absurd hc (by decide)
      | some c =>
        rw [hfollow] at hc
        exact List.mem_cons.2 (.inl (eq_of_follow hc hlead hfollow))
    · exact List.mem_cons_of_mem _ ((follow_suffix _ _ _).subset (ih h))

theorem splitAt_eq_splitOn (separator : Char) (cs : List Char) :
    splitAt separator cs = cs.splitOn separator := by
  induction cs with
  | nil => rfl
  | cons c cs ih =>
    rw [splitAt, List.splitOn_cons_eq_if_modifyHead, ih]
    simp only [beq_iff_eq]
    congr 1
    cases hsplit : cs.splitOn separator with
    | nil => exact absurd hsplit (List.splitOn_ne_nil _ _)
    | cons part parts => rfl

theorem splitAt_lossy (bs : List UInt8) :
    splitAt '/' (lossy bs) = (bs.splitOn 0x2f).map lossy := by
  rw [splitAt_eq_splitOn]
  induction h : bs.length using Nat.strong_induction_on generalizing bs with
  | _ k ih =>
    by_cases hmem : (0x2f : UInt8) ∈ bs
    · obtain ⟨as, rest, rfl, has⟩ := List.eq_append_cons_of_mem hmem
      have hnot : '/' ∉ lossy as := fun h ↦ has (mem_of_mem_lossy (by decide) h)
      have hslash : Char.ofNat (0x2f : UInt8).toNat = '/' := rfl
      rw [lossy_append_cons (by decide), hslash, List.splitOn_append_cons_self_of_not_mem hnot,
        List.splitOn_append_cons_self_of_not_mem has, List.map_cons,
        ih rest.length (by rw [← h, List.length_append, List.length_cons]; omega) rest rfl]
    · have hnot : '/' ∉ lossy bs := fun h ↦ hmem (mem_of_mem_lossy (by decide) h)
      rw [List.splitOn_eq_singleton hnot, List.splitOn_eq_singleton hmem]
      rfl

end Rulebook.Text
