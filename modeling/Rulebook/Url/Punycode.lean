namespace Rulebook.Url

def punycodeDigit? (c : Char) : Option Nat :=
  if 'a' ≤ c && c ≤ 'z' then some (c.toNat - 'a'.toNat)
  else if 'A' ≤ c && c ≤ 'Z' then some (c.toNat - 'A'.toNat)
  else if '0' ≤ c && c ≤ '9' then some (c.toNat - '0'.toNat + 26)
  else none

/-- The digit that ends a number at position `k`, unless a digit is at least this large. -/
def threshold (k bias : Nat) : Nat := min 26 (max 1 (k - bias))

def shrink (steps : Nat) : (fuel : Nat) → Nat → Nat × Nat
  | 0, delta => (steps, delta)
  | fuel + 1, delta => if delta > 455 then shrink (steps + 1) fuel (delta / 35) else (steps, delta)

def adapt (delta count : Nat) (isFirst : Bool) : Nat :=
  let delta := if isFirst then delta / 700 else delta / 2
  let (steps, rest) := shrink 0 64 (delta + delta / count)
  36 * steps + 36 * rest / (rest + 38)

/-- Reads one number, starting at position `k` with some weight, and adds it to `i`. -/
def delta? (bias k weight i : Nat) : List Char → Option (Nat × List Char)
  | [] => none
  | c :: r =>
    match punycodeDigit? c with
    | none => none
    | some d =>
      let t := threshold k bias
      let i := i + d * weight
      if d < t then some (i, r) else delta? bias (k + 36) (weight * (36 - t)) i r

theorem length_of_delta? {bias k weight i j : Nat} {cs r : List Char}
    (h : delta? bias k weight i cs = some (j, r)) : r.length < cs.length := by
  induction cs generalizing k weight i with
  | nil => cases h
  | cons c cs ih =>
    simp only [delta?] at h
    split at h
    · cases h
    · split at h
      · cases h; simp
      · exact Nat.lt_succ_of_lt (ih h)

def insertDeltas (n i bias : Nat) (out : List Char) (cs : List Char) : Option (List Char) :=
  match cs with
  | [] => some out
  | c :: r =>
    match _h : delta? bias 36 1 i (c :: r) with
    | none => none
    | some (j, rest) =>
      let count := out.length + 1
      let n := n + j / count
      if n.isValidChar then
        let place := j % count
        let out := out.take place ++ Char.ofNat n :: out.drop place
        insertDeltas n (place + 1) (adapt (j - i) count (i = 0)) out rest
      else none
termination_by cs.length
decreasing_by exact length_of_delta? _h

def splitPlain (cs : List Char) : List Char × List Char :=
  match cs.reverse.span (· ≠ '-') with
  | (_, []) => ([], cs)
  | (deltas, _ :: plain) => (plain.reverse, deltas.reverse)

def decodePunycode? (cs : List Char) : Option (List Char) :=
  let (plain, deltas) := splitPlain cs
  insertDeltas 128 0 72 plain deltas

end Rulebook.Url
