import Mathlib.Data.List.Basic
import Rulebook.Proofs.Slicing.Slice
import Rulebook.Text.Glyph

namespace Rulebook.Text

/-- What a scanner does at a byte: it stops with a result, or it goes on in a state, perhaps passing
over the next byte. -/
inductive Move (σ ρ : Type)
  | stop (result : ρ)
  | go (state : σ)
  | skip (state : σ)

/-- Bytes are told by the characters of their numbers. Those outside ASCII are of no interest. -/
structure Scanner (σ ρ : Type) where
  /-- The move in a state at an offset, given the byte there and the one after it. -/
  move : σ → Nat → Char → Option Char → Move σ ρ
  /-- The result where the text ends. -/
  finish : σ → ρ
  move_wide : ∀ s i c next, 128 ≤ c.toNat → move s i c next = .go s
  move_next_wide : ∀ s i c d d', 128 ≤ d.toNat → 128 ≤ d'.toNat →
    move s i c (some d) = move s i c (some d')

theorem ne_of_wide {c d : Char} (hc : 128 ≤ c.toNat) (hd : d.toNat < 128) : c ≠ d := by
  rintro rfl
  exact absurd hd (Nat.not_lt_of_le hc)

def bytes (cs : List Char) : List Char := (cs.flatMap String.utf8EncodeChar).map Char.ofUInt8

theorem bytes_cons (c : Char) (cs : List Char) :
    bytes (c :: cs) = (String.utf8EncodeChar c).map Char.ofUInt8 ++ bytes cs := by
  rw [bytes, List.flatMap_cons, List.map_append, bytes]

theorem bytes_cons_of_lt {c : Char} (h : c.toNat < 128) (cs : List Char) :
    bytes (c :: cs) = c :: bytes cs := by
  have hbyte : (Char.ofUInt8 c.val.toUInt8).toNat = c.toNat := by
    change c.val.toUInt8.toNat = c.toNat
    rw [UInt32.toNat_toUInt8]
    exact Nat.mod_eq_of_lt (Nat.lt_of_lt_of_le h (by decide))
  rw [bytes_cons, String.utf8EncodeChar_eq_singleton (utf8Size_of_lt h), List.map_singleton,
    Char.toNat_inj.1 hbyte]
  rfl

theorem le_byte {k l : Nat} (hk : 128 ≤ k) (hl : 0 < l) (h : l + k ≤ 256) (n : Nat) :
    128 ≤ (UInt8.ofNat (n % l + k)).toNat := by
  rw [toNat_remainder hl h]
  exact Nat.le_add_left_of_le hk

theorem le_of_mem_utf8EncodeChar {c : Char} (h : 128 ≤ c.toNat) :
    ∀ b ∈ String.utf8EncodeChar c, 128 ≤ b.toNat := by
  have hlong : ¬c.val.toNat ≤ 127 := Nat.not_le_of_lt h
  rw [String.utf8EncodeChar]
  simp only [if_neg hlong]
  -- every byte of an encoding of two, three or four is a remainder added to a mark
  split_ifs <;> simp (disch := decide) only [List.forall_mem_cons, List.not_mem_nil,
    false_imp_iff, implies_true, le_byte, and_self]

theorem exists_bytes_cons {c : Char} (h : 128 ≤ c.toNat) (cs : List Char) :
    ∃ (b : Char) (bs : List Char), bytes (c :: cs) = b :: (bs ++ bytes cs) ∧ 128 ≤ b.toNat ∧
      (∀ d ∈ bs, 128 ≤ d.toNat) ∧ bs.length + 1 = c.utf8Size := by
  have hwide : ∀ d ∈ (String.utf8EncodeChar c).map Char.ofUInt8, 128 ≤ d.toNat :=
    List.forall_mem_map.2 (le_of_mem_utf8EncodeChar h)
  have hlength : ((String.utf8EncodeChar c).map Char.ofUInt8).length = c.utf8Size := by
    rw [List.length_map, String.length_utf8EncodeChar]
  rw [bytes_cons]
  generalize (String.utf8EncodeChar c).map Char.ofUInt8 = encoded at hwide hlength
  cases encoded with
  | nil => exact absurd hlength (Nat.ne_of_lt c.utf8Size_pos)
  | cons b bs =>
    obtain ⟨hb, hbs⟩ := List.forall_mem_cons.1 hwide
    exact ⟨b, bs, rfl, hb, hbs, hlength⟩

namespace Scanner

variable {σ ρ : Type}

def run (S : Scanner σ ρ) (width : Char → Nat) (s : σ) (i : Nat) (skips : Bool) : List Char → ρ
  | [] => S.finish s
  | c :: r =>
    if skips then S.run width s (i + width c) false r
    else match S.move s i c r.head? with
      | .stop result => result
      | .go s => S.run width s (i + width c) false r
      | .skip s => S.run width s (i + width c) true r

def scan (S : Scanner σ ρ) (s : σ) (cs : List Char) : ρ := S.run (fun _ ↦ 1) s 0 false (bytes cs)

variable (S : Scanner σ ρ)

theorem run_wide {bs : List Char} (h : ∀ b ∈ bs, 128 ≤ b.toNat) (s : σ) (i : Nat)
    (r : List Char) :
    S.run (fun _ ↦ 1) s i false (bs ++ r) = S.run (fun _ ↦ 1) s (i + bs.length) false r := by
  induction bs generalizing i with
  | nil => rfl
  | cons b bs ih =>
    obtain ⟨hb, hbs⟩ := List.forall_mem_cons.1 h
    rw [List.cons_append, run, if_neg (by decide), S.move_wide _ _ _ _ hb, List.length_cons,
      Nat.add_comm bs.length, ← Nat.add_assoc]
    exact ih hbs (i + 1)

theorem move_head (s : σ) (i : Nat) (c : Char) (cs : List Char) :
    S.move s i c (bytes cs).head? = S.move s i c cs.head? := by
  cases cs with
  | nil => rfl
  | cons d r =>
    by_cases hd : d.toNat < 128
    · rw [bytes_cons_of_lt hd]
      rfl
    · obtain ⟨b, bs, hbytes, hb, -⟩ := exists_bytes_cons (Nat.le_of_not_lt hd) r
      rw [hbytes]
      exact S.move_next_wide s i c b d hb (Nat.le_of_not_lt hd)

theorem run_bytes (s : σ) (i : Nat) (skips : Bool) (cs : List Char) :
    S.run (fun _ ↦ 1) s i skips (bytes cs) = S.run Char.utf8Size s i skips cs := by
  induction cs generalizing s i skips with
  | nil => rfl
  | cons c r ih =>
    by_cases hc : c.toNat < 128
    · rw [bytes_cons_of_lt hc, run, run, S.move_head, utf8Size_of_lt hc]
      simp only [ih]
    · obtain ⟨b, bs, hbytes, hb, hbs, hlength⟩ := exists_bytes_cons (Nat.le_of_not_lt hc) r
      have hrest : S.run (fun _ ↦ 1) s (i + 1) false (bs ++ bytes r) =
          S.run Char.utf8Size s (i + c.utf8Size) false r := by
        rw [S.run_wide hbs, ih, ← hlength, Nat.add_assoc, Nat.add_comm 1]
      rw [hbytes, run, run, S.move_wide _ _ _ _ hb, S.move_wide _ _ _ _ (Nat.le_of_not_lt hc)]
      cases skips <;> exact hrest

theorem scan_eq (s : σ) (cs : List Char) : S.scan s cs = S.run Char.utf8Size s 0 false cs :=
  S.run_bytes s 0 false cs

theorem run_skip {s t : σ} {i : Nat} {c e : Char} (hskip : S.move s i c (some e) = .skip t)
    (r : List Char) :
    S.run Char.utf8Size s i false (c :: e :: r) =
      S.run Char.utf8Size t (i + size [c, e]) false r := by
  rw [run, if_neg (by decide), List.head?_cons, hskip]
  exact congrArg (S.run _ t · false r) (Nat.add_assoc i c.utf8Size e.utf8Size)

end Scanner

end Rulebook.Text
