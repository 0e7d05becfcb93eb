namespace Rulebook.Text

def lowerBound (key : Nat → Nat) (n lo hi : Nat) : Nat :=
  if lo < hi then
    let mid := (lo + hi) / 2
    if key mid < n then lowerBound key n (mid + 1) hi else lowerBound key n lo mid
  else lo
termination_by hi - lo

structure Ranges where
  bounds : Array (Nat × Nat)

def Ranges.has (r : Ranges) (n : Nat) : Bool :=
  match r.bounds[lowerBound (fun i ↦ (r.bounds.getD i (0, 0)).2) n 0 r.bounds.size]? with
  | some (lo, hi) => lo ≤ n && n ≤ hi
  | none => false

def Ranges.contains (r : Ranges) (c : Char) : Bool := r.has c.toNat

structure Points (α : Type) where
  entries : Array (Nat × α)

def Points.get? {α : Type} (p : Points α) (n : Nat) : Option α :=
  let key := fun i ↦ (p.entries[i]?).elim 0 Prod.fst
  match p.entries[lowerBound key n 0 p.entries.size]? with
  | some (k, a) => if k = n then some a else none
  | none => none

def base36Value (c : Char) : Nat :=
  if '0' ≤ c && c ≤ '9' then c.toNat - '0'.toNat else c.toNat - 'a'.toNat + 10

def base36Numbers (line : String) : List Nat :=
  let step := fun (acc : List Nat × Nat) (c : Char) ↦
    if c = ' ' then (acc.2 :: acc.1, 0) else (acc.1, 36 * acc.2 + base36Value c)
  let (ns, last) := line.foldl step ([], 0)
  (last :: ns).reverse

def rangesFrom (next : Nat) (acc : Array (Nat × Nat)) : List Nat → Array (Nat × Nat)
  | gap :: length :: rest =>
    let lo := next + gap
    rangesFrom (lo + length + 1) (acc.push (lo, lo + length)) rest
  | _ => acc

/-- Reads lines of base-36 numbers: by turns, how many code points lie between one range and the
next, and how many follow the first one of a range. -/
def Ranges.ofLines (lines : List String) : Ranges :=
  ⟨rangesFrom 0 #[] (lines.flatMap base36Numbers)⟩

def pointsFrom (next : Nat) (acc : Array (Nat × List Nat)) : (fuel : Nat) → List Nat →
    Array (Nat × List Nat)
  | fuel + 1, gap :: count :: rest =>
    let n := next + gap
    pointsFrom (n + 1) (acc.push (n, rest.take count)) fuel (rest.drop count)
  | _, _ => acc

def Points.ofLines (lines : List String) : Points (List Nat) :=
  let ns := lines.flatMap base36Numbers
  ⟨pointsFrom 0 #[] ns.length ns⟩

def runPoints (first count step value shift : Nat) : List (Nat × Nat) :=
  (List.range count).map fun i ↦ (first + i * step, value + i * shift)

def runsFrom (next : Nat) (acc : Array (Nat × Nat)) : List Nat → Array (Nat × Nat)
  | gap :: count :: step :: value :: shift :: rest =>
    let first := next + gap
    let run := runPoints first count step value shift
    runsFrom (first + (count - 1) * step + 1) (run.foldl Array.push acc) rest
  | _ => acc

def Points.ofRuns (lines : List String) : Points Nat :=
  ⟨runsFrom 0 #[] (lines.flatMap base36Numbers)⟩

end Rulebook.Text
