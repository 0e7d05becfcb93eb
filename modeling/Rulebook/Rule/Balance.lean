import Rulebook.Rule.ReadError
import Rulebook.Text.Glyph

namespace Rulebook

open Text

def Bracket.opening : Bracket → Char
  | .round => '('
  | .square => '['

def Bracket.closing : Bracket → Char
  | .round => ')'
  | .square => ']'

def opens? : Glyph → Option Bracket
  | .plain c => if c = '(' then some .round else if c = '[' then some .square else none
  | _ => none

def closes? : Glyph → Option Bracket
  | .plain c => if c = ')' then some .round else if c = ']' then some .square else none
  | _ => none

/-- Reads on from byte `pos` with the open brackets on a stack, the innermost first. The first
closer that does not fit is at fault, or else the innermost bracket left open. -/
def balance (open_ : List (Bracket × Nat)) (pos : Nat) : List Glyph → Except ReadError Unit
  | [] =>
    match open_ with
    | [] => .ok ()
    | (b, p) :: _ => .error (.unbalanced b p)
  | g :: r =>
    match opens? g, closes? g with
    | some b, _ => balance ((b, pos) :: open_) (pos + g.width) r
    | none, some b =>
      match open_ with
      | (b', _) :: rest =>
        if b' = b then balance rest (pos + g.width) r else .error (.unbalanced b pos)
      | [] => .error (.unbalanced b pos)
    | none, none => balance open_ (pos + g.width) r

def checkBalance (gs : List Glyph) : Except ReadError Unit := balance [] 0 gs

/-- The depth of unescaped brackets of either kind after a glyph, never below zero. -/
def depthAfter (depth : Nat) (g : Glyph) : Nat :=
  if (opens? g).isSome then depth + 1
  else if (closes? g).isSome then depth - 1
  else depth

end Rulebook
