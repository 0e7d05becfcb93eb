import Rulebook.Pattern.Basic

namespace Rulebook.Pattern

def stateSize : Nat := 32

def transitionSize : Nat := 8

def branchSize : Nat := 4

def maxSize : Nat := 10485760

def rangesBelow (p : Nat → Bool) (acc : List (Nat × Nat)) : (count next : Nat) → List (Nat × Nat)
  | 0, _ => acc
  | count + 1, n =>
    if p n then
      match acc with
      | (lo, hi) :: rest =>
        if hi + 1 = n then rangesBelow p ((lo, n) :: rest) count (n + 1)
        else rangesBelow p ((n, n) :: acc) count (n + 1)
      | [] => rangesBelow p [(n, n)] count (n + 1)
    else rangesBelow p acc count (n + 1)

def splitByLength (lo hi : Nat) : List (Nat × Nat) :=
  [(0, 0x7F), (0x80, 0x7FF), (0x800, 0xD7FF), (0xE000, 0xFFFF), (0x10000, 0x10FFFF)].filterMap
    fun (a, b) ↦ if max lo a ≤ min hi b then some (max lo a, min hi b) else none

def splitByBlock : (shift lo hi : Nat) → List (Nat × Nat)
  | 0, lo, hi => [(lo, hi)]
  | shift + 1, lo, hi =>
    let block := 1 <<< (6 * (shift + 1))
    if lo / block = hi / block then splitByBlock shift lo hi
    else
      let head :=
        if lo % block = 0 then [] else splitByBlock shift lo (lo / block * block + block - 1)
      let tail := if hi % block = block - 1 then [] else splitByBlock shift (hi / block * block) hi
      let first := (lo + block - 1) / block * block
      let last := (hi + 1) / block * block
      head ++ (if first < last then [(first, last - 1)] else []) ++ tail

def byteLength (n : Nat) : Nat :=
  if n < 0x80 then 1 else if n < 0x800 then 2 else if n < 0x10000 then 3 else 4

def bytesOf (n : Nat) : (length : Nat) → List Nat
  | 0 => []
  | 1 => [n]
  | length + 1 =>
    let tail := (List.range length).map fun i ↦ 0x80 + (n >>> (6 * (length - 1 - i))) % 64
    (0x100 - (1 <<< (7 - length)) + (n >>> (6 * length))) :: tail

def byteSequences (lo hi : Nat) : List (List (Nat × Nat)) :=
  (splitByLength lo hi).flatMap fun (a, b) ↦
    let length := byteLength a
    (splitByBlock (length - 1) a b).map fun (x, y) ↦ (bytesOf x length).zip (bytesOf y length)

def groupByFirst : List (List (Nat × Nat)) → List ((Nat × Nat) × List (List (Nat × Nat)))
  | [] => []
  | [] :: rest => groupByFirst rest
  | (first :: tail) :: rest =>
    match groupByFirst rest with
    | (label, tails) :: groups =>
      if label = first then (label, tail :: tails) :: groups
      else (first, [tail]) :: (label, tails) :: groups
    | [] => [(first, [tail])]

def statesFor : (length : Nat) → List (List (Nat × Nat)) → List (List (List (Nat × Nat)))
  | 0, _ => []
  | length + 1, sequences =>
    sequences :: (groupByFirst sequences).flatMap fun (_, tails) ↦
      if tails = [[]] then [] else statesFor length tails

def automatonSize (sequences : List (List (Nat × Nat))) : Nat :=
  let states := (statesFor 4 sequences).eraseDups
  (states.map fun s ↦ stateSize + transitionSize * (groupByFirst s).length).foldl (· + ·) stateSize

def classSize : CharClass → Nat
  | .bracket false (.range lo hi) =>
    if lo = hi then stateSize * lo.utf8Size else automatonSize (byteSequences lo.toNat hi.toNat)
  | c =>
    let holds := fun n ↦ n.isValidChar && c.has .exact (Char.ofNat n)
    automatonSize ((rangesBelow holds [] 0x110000 0).reverse.flatMap fun (lo, hi) ↦
      byteSequences lo hi)

mutual

def size (ofClass : CharClass → Nat) : Pattern → Nat
  | .empty => stateSize
  | .flags => stateSize
  | .one _ c => ofClass c
  | .look _ => stateSize
  | .group captures p => p.size ofClass + (if captures then 2 * stateSize else 0)
  | .repeated p least none => max least 1 * p.size ofClass + stateSize + 2 * branchSize
  | .repeated p least (some most) =>
    most * p.size ofClass + (most - least) * (stateSize + 2 * branchSize) + stateSize
  | .sequence ps => sizeOfAll ofClass ps
  | .choice ps => sizeOfAll ofClass ps + 2 * stateSize + ps.length * branchSize

def sizeOfAll (ofClass : CharClass → Nat) : List Pattern → Nat
  | [] => 0
  | p :: ps => p.size ofClass + sizeOfAll ofClass ps

end

def sizeBound : Nat := 65536

/-- The sizes for classes are worked out only if they matter. -/
def isTooLarge (p : Pattern) : Bool :=
  maxSize < p.size (fun _ ↦ sizeBound) && maxSize < p.size classSize

end Rulebook.Pattern
