import Rulebook.Decimal.Reading
import Rulebook.Text.Hex
import Rulebook.Text.Search

namespace Rulebook.Url

open Decimal Text

def octalNumber (ds : List Char) : Nat := ds.foldl (fun n d ↦ 8 * n + digitValue d) 0

def isOctalDigit (d : Char) : Bool := '0' ≤ d && d ≤ '7'

def ipv4Number? (cs : List Char) : Option Nat :=
  match cs with
  | [] => none
  | ['0'] => some 0
  | '0' :: c :: r =>
    if c = 'x' ∨ c = 'X' then if r.all isHexDigit then some (hexNumber r) else none
    else if (c :: r).all isOctalDigit then some (octalNumber (c :: r)) else none
  | _ => nat? cs

def dropFinalEmpty (labels : List (List Char)) : List (List Char) :=
  if labels.getLast? = some [] then labels.dropLast else labels

/-- A host whose last label is a number is meant as an address. -/
def endsInNumber (labels : List (List Char)) : Bool :=
  match (dropFinalEmpty labels).getLast? with
  | some last => (!last.isEmpty && last.all isDigit) || (ipv4Number? last).isSome
  | none => false

/-- Up to four numbers, of which the last one fills all bytes that are left. -/
def isIpv4 (labels : List (List Char)) : Bool :=
  let labels := dropFinalEmpty labels
  match labels.mapM ipv4Number? with
  | none => false
  | some numbers =>
    numbers.length ≤ 4 &&
      match numbers.reverse with
      | [] => false
      | last :: others => last < 1 <<< (8 * (4 - others.length)) && others.all (· ≤ 255)

def isByte (cs : List Char) : Bool :=
  !cs.isEmpty && cs.length ≤ 3 && cs.all isDigit && (cs.length = 1 || cs.head? ≠ some '0') &&
    natOf cs ≤ 255

def isDottedQuad (cs : List Char) : Bool :=
  let parts := splitAt '.' cs
  parts.length = 4 && parts.all isByte

/-- Reads on after some groups; `compressed` tells whether a doubled colon stood for more. -/
def ipv6Rest (groups : Nat) (compressed : Bool) : (fuel : Nat) → List Char → Bool
  | _, [] => compressed || groups = 8
  | 0, _ => false
  | fuel + 1, c :: r =>
    if groups = 8 then false
    else if c = ':' then !compressed && ipv6Rest (groups + 1) true fuel r
    else
      let digits := ((c :: r).take 4).takeWhile isHexDigit
      match (c :: r).drop digits.length with
      | [] => ipv6Rest (groups + 1) compressed fuel []
      | ':' :: s => !s.isEmpty && ipv6Rest (groups + 1) compressed fuel s
      | '.' :: _ =>
        !digits.isEmpty && groups ≤ 6 && isDottedQuad (c :: r) && (compressed || groups = 6)
      | _ => false

def isIpv6 (cs : List Char) : Bool :=
  match cs with
  | ':' :: r =>
    match r with
    | ':' :: s => ipv6Rest 1 true (cs.length + 1) s
    | _ => false
  | _ => ipv6Rest 0 false (cs.length + 1) cs

end Rulebook.Url
