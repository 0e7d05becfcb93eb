import Rulebook.Decimal.Shortest

namespace Rulebook.Decimal

structure Layout where
  least : Int
  greatest : Int

/-- Numbers are positional from `0.00001` to below `1e+16`. -/
def layout : Layout := ⟨-5, 15⟩

def zeros (n : Nat) : String := String.ofList (List.replicate n '0')

def exponentText (e : Int) : String :=
  if e < 0 then "e-" ++ toString e.natAbs else "e+" ++ toString e.natAbs

def Scientific.strip (s : Scientific) : List Char × Int :=
  let ds := Nat.toDigits 10 s.digits
  let kept := (ds.reverse.dropWhile (· == '0')).reverse
  (kept, s.exponent + (ds.length - kept.length : Nat))

def Layout.text (l : Layout) (s : Scientific) : String :=
  let (ds, e) := s.strip
  let first : Int := e + ds.length - 1
  if l.least ≤ first ∧ first ≤ l.greatest then
    if 0 ≤ e then String.ofList ds ++ zeros e.toNat ++ ".0"
    else if 0 ≤ first then
      String.ofList (ds.take (first.toNat + 1)) ++ "." ++ String.ofList (ds.drop (first.toNat + 1))
    else "0." ++ zeros (-first - 1).toNat ++ String.ofList ds
  else
    match ds with
    | [] => exponentText first
    | [d] => String.singleton d ++ exponentText first
    | d :: rest => String.singleton d ++ "." ++ String.ofList rest ++ exponentText first

def floatText (x : Float) : String :=
  if !x.isFinite then "null"
  else
    let bits := x.toBits
    let magnitude := bits &&& 0x7FFFFFFFFFFFFFFF
    let sign := if magnitude == bits then "" else "-"
    if magnitude == 0 then sign ++ "0.0"
    else sign ++ layout.text (Binary.ofBits magnitude).shortest

end Rulebook.Decimal
