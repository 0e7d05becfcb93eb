import Rulebook.Decimal.Reading
import Rulebook.Text.Hex
import Rulebook.Text.Search
import Rulebook.Toml.Node

namespace Rulebook.Toml

open Decimal Text

def grouped? (isDigit : Char → Bool) (cs : List Char) : Option (List Char) :=
  let groups := splitAt '_' cs
  if groups.all fun g ↦ !g.isEmpty && g.all isDigit then some groups.flatten else none

def plainGrouped? (cs : List Char) : Option (List Char) :=
  (grouped? isDigit cs).filter fun ds ↦ ds.length = 1 || ds.head? ≠ some '0'

def inBase (base : Nat) (ds : List Char) : Nat :=
  ds.foldl (fun n d ↦ base * n + (hexValue? d).getD 0) 0

def signedOf (negative : Bool) (n : Nat) : Int := if negative then -(n : Int) else n

/-- Integers in base 10 may have a sign; those in other bases have none. -/
def integer? (cs : List Char) : Option Int :=
  match cs with
  | '0' :: 'x' :: r => (grouped? isHexDigit r).map fun ds ↦ (inBase 16 ds : Nat)
  | '0' :: 'o' :: r => (grouped? (fun c ↦ '0' ≤ c && c ≤ '7') r).map fun ds ↦ (inBase 8 ds : Nat)
  | '0' :: 'b' :: r => (grouped? (fun c ↦ c == '0' || c == '1') r).map fun ds ↦ (inBase 2 ds : Nat)
  | _ =>
    let (negative, r) := splitSign cs
    (plainGrouped? r).map fun ds ↦ signedOf negative (natOf ds)

def exponentOf? (cs : List Char) : Option Int :=
  let (negative, r) := splitSign cs
  (grouped? isDigit r).map fun ds ↦ signedOf negative (natOf ds)

def infinity : Float := 1.0 / 0.0

def decimal? (negative : Bool) (cs : List Char) : Option Float := do
  let (mantissa, exponent) := cs.span fun c ↦ c ≠ 'e' && c ≠ 'E'
  let (whole, fraction) := mantissa.span (· ≠ '.')
  if exponent.isEmpty && fraction.isEmpty then none
  let whole ← plainGrouped? whole
  let fraction ← if fraction.isEmpty then some [] else grouped? isDigit (fraction.drop 1)
  let e ← if exponent.isEmpty then some 0 else exponentOf? (exponent.drop 1)
  let x := nearest negative (natOf (whole ++ fraction)) (e - fraction.length)
  if x.isFinite then some x else none

def float? (cs : List Char) : Option Float :=
  let (negative, r) := splitSign cs
  if r = "inf".toList then some (if negative then -infinity else infinity)
  else if r = "nan".toList then some (0.0 / 0.0)
  else decimal? negative r

def pair? : List Char → Option (Nat × List Char)
  | a :: b :: r => if isDigit a && isDigit b then some (natOf [a, b], r) else none
  | _ => none

def daysIn (year month : Nat) : Nat :=
  if month = 2 then if year % 4 = 0 ∧ (year % 100 ≠ 0 ∨ year % 400 = 0) then 29 else 28
  else if month = 4 ∨ month = 6 ∨ month = 9 ∨ month = 11 then 30
  else 31

def date? (cs : List Char) : Option (List Char × List Char) := do
  let (century, r) ← pair? cs
  let (year, r) ← pair? r
  let '-' :: r := r | none
  let (month, r) ← pair? r
  let '-' :: r := r | none
  let (day, r) ← pair? r
  let isDay := 1 ≤ month ∧ month ≤ 12 ∧ 1 ≤ day ∧ day ≤ daysIn (100 * century + year) month
  if isDay then some (cs.take 10, r) else none

def fractionText (ds : List Char) : List Char :=
  match ((ds.take 9).reverse.dropWhile (· == '0')).reverse with
  | [] => ['.', '0']
  | kept => '.' :: kept

def seconds? (cs : List Char) : Option (List Char × List Char) :=
  match cs with
  | ':' :: r => do
    let (second, rest) ← pair? r
    if 60 < second then none
    else match rest with
      | '.' :: s =>
        match s.span isDigit with
        | ([], _) => none
        | (ds, rest) => some (':' :: r.take 2 ++ fractionText ds, rest)
      | _ => some (':' :: r.take 2, rest)
  | r => some ([], r)

def time? (cs : List Char) : Option (List Char × List Char) := do
  let (hour, r) ← pair? cs
  let ':' :: r := r | none
  let (minute, r) ← pair? r
  if 23 < hour ∨ 59 < minute then none
  let (seconds, r) ← seconds? r
  some (cs.take 5 ++ seconds, r)

def offset? (cs : List Char) : Option (List Char) :=
  match cs with
  | [] => some []
  | ['z'] | ['Z'] => some ['Z']
  | sign :: r => do
    if sign ≠ '+' ∧ sign ≠ '-' then none
    let (hours, s) ← pair? r
    let ':' :: s := s | none
    let (minutes, s) ← pair? s
    if 24 < hours ∨ 59 < minutes ∨ !s.isEmpty then none
    some ((if hours = 0 ∧ minutes = 0 then '+' else sign) :: r)

def isDateEnd (c : Char) : Bool := c == 'T' || c == 't' || c == ' '

/-- A date, a time, or both, perhaps with an offset; in the form in which they are written. -/
def moment? (cs : List Char) : Option String :=
  match date? cs with
  | some (date, []) => some (String.ofList date)
  | some (date, c :: r) => do
    if !isDateEnd c then none
    let (time, r) ← time? r
    let offset ← offset? r
    some (String.ofList (date ++ 'T' :: time ++ offset))
  | none =>
    match time? cs with
    | some (time, []) => some (String.ofList time)
    | _ => none

def scalar? (cs : List Char) : Option Node :=
  if cs = "true".toList then some (.bool true)
  else if cs = "false".toList then some (.bool false)
  else match integer? cs, float? cs, moment? cs with
    | some n, _, _ => some (.integer n)
    | none, some x, _ => some (.float x)
    | none, none, some t => some (.moment t)
    | none, none, none => none

end Rulebook.Toml
