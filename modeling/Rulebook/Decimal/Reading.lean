import Rulebook.Decimal.Shortest

namespace Rulebook.Decimal

def isDigit (c : Char) : Bool := '0' ≤ c && c ≤ '9'

def digitValue (c : Char) : Nat := c.toNat - '0'.toNat

def natOf (ds : List Char) : Nat := ds.foldl (fun n d ↦ 10 * n + digitValue d) 0

def nat? (cs : List Char) : Option Nat :=
  if !cs.isEmpty && cs.all isDigit then some (natOf cs) else none

def splitSign : List Char → Bool × List Char
  | '-' :: r => (true, r)
  | '+' :: r => (false, r)
  | r => (false, r)

def int? (cs : List Char) : Option Int :=
  let (negative, r) := splitSign cs
  (nat? r).map fun n ↦ if negative then -(n : Int) else n

def signed? (cs : List Char) : Option Int :=
  (int? cs).filter fun n ↦ -9223372036854775808 ≤ n ∧ n ≤ 9223372036854775807

/-- The float nearest to `digits * 10 ^ exponent`. Numbers far out of range are decided without
computing the power. -/
def nearest (negative : Bool) (digits : Nat) (exponent : Int) : Float :=
  let first := (digitCount digits : Int) + exponent
  let x : Float :=
    if digits = 0 ∨ first < -400 then 0.0
    else if 400 < first then 1.0 / 0.0
    else if 0 ≤ exponent then Float.ofScientific digits false exponent.toNat
    else Float.ofScientific digits true (-exponent).toNat
  if negative then -x else x

def exponent? : List Char → Option Int
  | [] => some 0
  | c :: r => if c = 'e' ∨ c = 'E' then int? r else none

def finite? (cs : List Char) : Option Float :=
  let (negative, r) := splitSign cs
  let (whole, r) := r.span isDigit
  let (fraction, r) :=
    match r with
    | '.' :: s => s.span isDigit
    | _ => ([], r)
  if whole.isEmpty && fraction.isEmpty then none
  else do
    let e ← exponent? r
    let x := nearest negative (natOf (whole ++ fraction)) (e - fraction.length)
    if x.isFinite then some x else none

end Rulebook.Decimal
