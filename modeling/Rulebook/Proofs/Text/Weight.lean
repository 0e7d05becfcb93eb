import Mathlib.Algebra.Order.BigOperators.Group.List
import Mathlib.Algebra.Order.Ring.Nat
import Mathlib.Data.String.Basic
import Rulebook.Proofs.Text.Escaping

namespace Rulebook.Text

variable {w : Char → Nat} {a b : List Char}

def weigh (w : Char → Nat) (cs : List Char) : Nat := (cs.map w).sum

@[simp] theorem weigh_nil (w : Char → Nat) : weigh w [] = 0 := rfl

@[simp] theorem weigh_cons (w : Char → Nat) (c : Char) (cs : List Char) :
    weigh w (c :: cs) = w c + weigh w cs := by
  rw [weigh, List.map_cons, List.sum_cons, weigh]

@[simp] theorem weigh_append (w : Char → Nat) (a b : List Char) :
    weigh w (a ++ b) = weigh w a + weigh w b := by
  rw [weigh, List.map_append, List.sum_append, weigh, weigh]

theorem weigh_le_of_sublist (h : a.Sublist b) (w : Char → Nat) : weigh w a ≤ weigh w b :=
  (h.map w).sum_le_sum fun _ _ ↦ Nat.zero_le _

theorem weigh_one (cs : List Char) : weigh (fun _ ↦ 1) cs = cs.length := by
  induction cs with
  | nil => rfl
  | cons c cs ih => rw [weigh_cons, ih, List.length_cons, Nat.add_comm]

theorem weigh_utf8Size (cs : List Char) : weigh Char.utf8Size cs = String.utf8Len cs := by
  induction cs with
  | nil => rfl
  | cons c cs ih => rw [weigh_cons, ih, String.utf8Len_cons, Nat.add_comm]

theorem utf8ByteSize_eq_weigh (s : String) : s.utf8ByteSize = weigh Char.utf8Size s.toList := by
  rw [weigh_utf8Size, ← String.utf8ByteSize_ofList, String.ofList_toList]

theorem length_le_utf8ByteSize (s : String) : s.length ≤ s.utf8ByteSize := by
  rw [utf8ByteSize_eq_weigh, ← String.length_toList, ← weigh_one]
  exact List.sum_le_sum fun c _ ↦ Char.utf8Size_pos c

theorem trim_sublist (cs : List Char) : (trim cs).Sublist cs := by
  obtain ⟨l, r, hcs, -⟩ := exists_trim cs
  exact List.IsInfix.sublist ⟨l, r, hcs.symm⟩

def size (cs : List Char) : Nat := weigh Char.utf8Size cs

@[simp] theorem size_nil : size [] = 0 := rfl

@[simp] theorem size_cons (c : Char) (cs : List Char) : size (c :: cs) = c.utf8Size + size cs :=
  weigh_cons _ c cs

@[simp] theorem size_append (a b : List Char) : size (a ++ b) = size a + size b :=
  weigh_append _ a b

theorem size_pos {cs : List Char} (h : cs ≠ []) : 0 < size cs := by
  obtain ⟨c, r, rfl⟩ := List.exists_cons_of_ne_nil h
  rw [size_cons]
  exact Nat.add_pos_left c.utf8Size_pos _

theorem utf8ByteSize_ofList (cs : List Char) : (String.ofList cs).utf8ByteSize = size cs := by
  rw [utf8ByteSize_eq_weigh, String.toList_ofList, size]

theorem utf8Size_of_lt {c : Char} (h : c.toNat < 128) : c.utf8Size = 1 :=
  Char.utf8Size_eq_one_iff.2 (UInt32.le_iff_toNat_le.2 (Nat.le_of_lt_succ h))

/-- Bytes behind the first one of a character are remainders added to a mark. -/
theorem toNat_remainder {m k : Nat} (hm : 0 < m) (h : m + k ≤ 256) (n : Nat) :
    (UInt8.ofNat (n % m + k)).toNat = n % m + k := by
  have hmod := Nat.mod_lt n hm
  rw [UInt8.toNat_ofNat', Nat.mod_eq_of_lt (by omega)]

theorem width_eq_size (gs : List Glyph) : width gs = size (chars gs) := by
  induction gs with
  | nil => rfl
  | cons g gs ih =>
    have hg : g.width = size g.chars := by cases g <;> rfl
    rw [width, ih, hg, chars_cons, size_append]

end Rulebook.Text
