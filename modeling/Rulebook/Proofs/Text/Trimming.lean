import Mathlib.Data.List.DropRight
import Rulebook.Text.Blank

namespace Rulebook.Text

theorem isBlank_of_mem_space : ∀ b ∈ [' '], isBlank b = true := by
  intro b hb
  obtain rfl := List.mem_singleton.1 hb
  rfl

theorem trimEnd_eq (cs : List Char) : trimEnd cs = cs.rdropWhile isBlank := rfl

theorem trimEnd_concat {b : Char} (hb : isBlank b = true) (cs : List Char) :
    trimEnd (cs ++ [b]) = trimEnd cs := by
  rw [trimEnd_eq, List.rdropWhile_concat_pos _ _ _ hb, trimEnd_eq]

theorem trimEnd_append_cons {x : Char} (hx : isBlank x = false) (a b : List Char) :
    trimEnd (a ++ x :: b) = a ++ x :: trimEnd b := by
  induction b using List.reverseRecOn with
  | nil => exact List.rdropWhile_concat_neg _ _ _ (by simpa using hx)
  | append_singleton b y ih =>
    rw [← List.cons_append, ← List.append_assoc]
    by_cases hy : isBlank y = true
    · rw [trimEnd_concat hy, trimEnd_concat hy, ih]
    · have hneg (l : List Char) : trimEnd (l ++ [y]) = l ++ [y] :=
        List.rdropWhile_concat_neg _ _ _ hy
      rw [hneg, hneg]
      simp

theorem trimStart_append_cons {x : Char} (hx : isBlank x = false) (a b : List Char) :
    trimStart (a ++ x :: b) = trimStart a ++ x :: b := by
  rw [trimStart, List.dropWhile_append, List.dropWhile_cons_of_neg (by simpa using hx)]
  split
  · rename_i h
    rw [trimStart, List.isEmpty_iff.1 h, List.nil_append]
  · rfl

theorem exists_trimEnd (cs : List Char) :
    ∃ r, cs = trimEnd cs ++ r ∧ ∀ b ∈ r, isBlank b = true :=
  ⟨cs.rtakeWhile isBlank, (List.rdropWhile_append_rtakeWhile ..).symm,
    fun _ hb ↦ List.mem_rtakeWhile_imp hb⟩

theorem exists_trim (cs : List Char) :
    ∃ l r, cs = l ++ trim cs ++ r ∧ (∀ b ∈ l, isBlank b = true) ∧ ∀ b ∈ r, isBlank b = true := by
  obtain ⟨r, hr, hb⟩ := exists_trimEnd (trimStart cs)
  refine ⟨cs.takeWhile isBlank, r, ?_, fun _ h ↦ List.mem_takeWhile_imp h, hb⟩
  calc
    cs = cs.takeWhile isBlank ++ trimStart cs := List.takeWhile_append_dropWhile.symm
    _ = cs.takeWhile isBlank ++ trim cs ++ r := by
      rw [List.append_assoc]; exact congrArg _ hr

theorem trim_ne_nil {cs : List Char} {c : Char} (hc : c ∈ cs) (h : isBlank c = false) :
    trim cs ≠ [] := by
  obtain ⟨l, r, hcs, hl, hr⟩ := exists_trim cs
  intro hnil
  rw [hnil, List.append_nil] at hcs
  rw [hcs, List.mem_append] at hc
  cases h.symm.trans (hc.elim (hl c) (hr c))

theorem trim_eq_self_iff {cs : List Char} :
    trim cs = cs ↔ (∀ c ∈ cs.head?, isBlank c = false) ∧ ∀ c ∈ cs.getLast?, isBlank c = false := by
  constructor
  · intro h
    have hlen := congrArg List.length h
    have hstart : trimStart cs = cs :=
      (List.dropWhile_suffix isBlank).eq_of_length_le (hlen ▸ length_trimEnd_le _)
    have hend : cs.rdropWhile isBlank = cs := by rwa [trim, hstart] at h
    constructor
    · intro c hc
      obtain ⟨r, rfl⟩ := List.head?_eq_some_iff.1 hc
      exact eq_false_of_ne_true (List.dropWhile_eq_self_iff.1 hstart (by simp))
    · intro c hc
      obtain ⟨r, rfl⟩ := List.getLast?_eq_some_iff.1 hc
      simpa using List.rdropWhile_eq_self_iff.1 hend (by simp)
  · rintro ⟨hhead, hlast⟩
    have hstart : trimStart cs = cs := by
      refine List.dropWhile_eq_self_iff.2 fun hl ↦ ?_
      simpa using hhead cs[0] (by simp [List.head?_eq_getElem?, hl])
    rw [trim, hstart]
    refine List.rdropWhile_eq_self_iff.2 fun hl ↦ ?_
    simpa using hlast (cs.getLast hl) (List.getLast?_eq_getLast_of_ne_nil hl)

theorem trim_eq_self_of_ends {b c : Char} (hb : isBlank b = false) (hc : isBlank c = false)
    (cs : List Char) : trim (b :: cs ++ [c]) = b :: cs ++ [c] := by
  refine trim_eq_self_iff.2 ⟨?_, ?_⟩
  · intro x hx
    cases hx
    exact hb
  · intro x hx
    rw [List.getLast?_concat] at hx
    cases hx
    exact hc

theorem trim_append_left {l : List Char} (hl : ∀ b ∈ l, isBlank b = true) (cs : List Char) :
    trim (l ++ cs) = trim cs := by
  rw [trim, trimStart, List.dropWhile_append_of_pos hl]
  rfl

theorem trim_concat {b : Char} (hb : isBlank b = true) (cs : List Char) :
    trim (cs ++ [b]) = trim cs := by
  rw [trim, trimStart, List.dropWhile_append]
  split
  · rename_i hnil
    rw [List.isEmpty_iff] at hnil
    rw [trim, trimStart, hnil, List.dropWhile_cons_of_pos hb]
    rfl
  · exact trimEnd_concat hb _

theorem trim_append_right {r : List Char} (hr : ∀ b ∈ r, isBlank b = true) (cs : List Char) :
    trim (cs ++ r) = trim cs := by
  induction r using List.reverseRecOn with
  | nil => rw [List.append_nil]
  | append_singleton r b ih =>
    obtain ⟨hr, hb⟩ := List.forall_mem_append.1 hr
    rw [← List.append_assoc, trim_concat (hb b List.mem_cons_self), ih hr]

theorem isBlank_head {cs r : List Char} {c : Char} (h : trimStart cs = c :: r) :
    isBlank c = false := by
  have hstart := List.dropWhile_eq_self_iff.1 (List.dropWhile_idempotent isBlank cs)
  rw [← trimStart, h] at hstart
  exact eq_false_of_ne_true (hstart (by simp))

theorem trimStart_trim (cs : List Char) : trimStart (trim cs) = trim cs := by
  obtain ⟨r, hr, -⟩ := exists_trimEnd (trimStart cs)
  rw [trim]
  cases h : trimEnd (trimStart cs) with
  | nil => rfl
  | cons c t =>
    rw [h] at hr
    exact List.dropWhile_cons_of_neg (by simp [isBlank_head hr])

@[simp] theorem trim_trim (cs : List Char) : trim (trim cs) = trim cs := by
  rw [trim, trimStart_trim]
  exact List.rdropWhile_idempotent _ _

theorem strip_strip (s : String) : strip (strip s) = strip s := by
  rw [strip, strip, String.toList_ofList, trim_trim]

end Rulebook.Text
