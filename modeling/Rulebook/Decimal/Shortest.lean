namespace Rulebook.Decimal

structure Scientific where
  digits : Nat
  exponent : Int
deriving DecidableEq, Repr

/-- The positive number `mantissa * 2 ^ exponent`. Below a power of two the neighbouring number is
only half as far away as above it. -/
structure Binary where
  mantissa : Nat
  exponent : Int
  isPowerEdge : Bool
deriving DecidableEq, Repr

def digitCount (n : Nat) : Nat := (Nat.toDigits 10 n).length

def scaled (a b : Nat) (e : Int) : Nat × Nat :=
  if 0 ≤ e then (a * Nat.pow b e.toNat, 1) else (a, Nat.pow b (-e).toNat)

def leadingExponent (num den : Nat) : Int :=
  if den ≤ num then (digitCount (num / den) : Int) - 1 else -(digitCount ((den - 1) / num) : Int)

/-- The points of the grid of multiples of `10 ^ unit` next to the number that lie among those that
round to it, the nearest one of two. -/
def Binary.onGrid? (b : Binary) (unit : Int) : Option Scientific :=
  let (up, down) := scaled 1 2 (b.exponent - 2)
  let (tens, tenths) := scaled 1 10 unit
  let scale := up * tenths
  let grid := down * tens
  let mid := 4 * b.mantissa * scale
  let low := (4 * b.mantissa - (if b.isPowerEdge then 1 else 2)) * scale
  let high := (4 * b.mantissa + 2) * scale
  let even := b.mantissa % 2 == 0
  let rounds (n : Nat) : Bool :=
    let x := n * grid
    if even then low ≤ x && x ≤ high else low < x && x < high
  let below := mid / grid
  let above := below + 1
  match below != 0 && rounds below, rounds above with
  | false, false => none
  | true, false => some ⟨below, unit⟩
  | false, true => some ⟨above, unit⟩
  | true, true =>
    let toBelow := mid - below * grid
    let toAbove := above * grid - mid
    let isBelow := toBelow < toAbove || (toBelow == toAbove && below % 2 == 0)
    some ⟨if isBelow then below else above, unit⟩

/-- Tries one digit, then two, and so on. Seventeen always suffice. -/
def Binary.shortest (b : Binary) : Scientific :=
  let (num, den) := scaled b.mantissa 2 b.exponent
  let first := leadingExponent num den
  ((List.range 17).findSome? fun (n : Nat) ↦ b.onGrid? (first - n)).getD ⟨num / den, 0⟩

def Binary.ofBits (bits : UInt64) : Binary :=
  let fraction := (bits &&& 0xFFFFFFFFFFFFF).toNat
  let biased := ((bits >>> 52) &&& 0x7FF).toNat
  if biased = 0 then ⟨fraction, -1074, false⟩
  else ⟨fraction + 0x10000000000000, (biased : Int) - 1075, fraction == 0 && biased != 1⟩

end Rulebook.Decimal
