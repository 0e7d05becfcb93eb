namespace Rulebook.Text

/-- The first byte of a character in UTF-8: its share of the code point, how many bytes follow, and
the bounds of the next one, which exclude longer forms than need be, surrogates, and code points
that are too great. -/
structure Lead where
  value : Nat
  more : Nat
  least : Nat := 0x80
  greatest : Nat := 0xBF

def lead? (b : Nat) : Option Lead :=
  if b < 0x80 then some { value := b, more := 0 }
  else if b < 0xC2 then none
  else if b < 0xE0 then some { value := b - 0xC0, more := 1 }
  else if b = 0xE0 then some { value := 0, more := 2, least := 0xA0 }
  else if b = 0xED then some { value := 0xD, more := 2, greatest := 0x9F }
  else if b < 0xF0 then some { value := b - 0xE0, more := 2 }
  else if b = 0xF0 then some { value := 0, more := 3, least := 0x90 }
  else if b < 0xF4 then some { value := b - 0xF0, more := 3 }
  else if b = 0xF4 then some { value := 4, more := 3, greatest := 0x8F }
  else none

def follow : Nat → Lead → List UInt8 → Option Char × List UInt8
  | 0, l, bs => (some (Char.ofNat l.value), bs)
  | _ + 1, _, [] => (none, [])
  | n + 1, l, b :: bs =>
    if l.least ≤ b.toNat ∧ b.toNat ≤ l.greatest then
      follow n { value := l.value * 64 + (b.toNat - 0x80), more := n } bs
    else (none, b :: bs)

theorem length_follow_le (n : Nat) (l : Lead) (bs : List UInt8) :
    (follow n l bs).2.length ≤ bs.length := by
  induction bs generalizing n l with
  | nil => cases n <;> exact Nat.le_refl 0
  | cons b bs ih =>
    cases n with
    | zero => exact Nat.le_refl _
    | succ n =>
      rw [follow]
      split
      · exact Nat.le_succ_of_le (ih n _)
      · exact Nat.le_refl _

/-- Bytes as characters. U+FFFD stands for each byte that begins no character and for the beginning
of each character that is not gone on with. -/
def lossy : List UInt8 → List Char
  | [] => []
  | b :: bs =>
    match lead? b.toNat with
    | none => '\ufffd' :: lossy bs
    | some l =>
      have := length_follow_le l.more l bs
      (follow l.more l bs).1.getD '\ufffd' :: lossy (follow l.more l bs).2
termination_by bs => bs.length

end Rulebook.Text
