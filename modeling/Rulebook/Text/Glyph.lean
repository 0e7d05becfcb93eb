namespace Rulebook.Text

inductive Glyph
  | plain (c : Char)
  | escaped (c : Char)
  /-- A backslash with nothing after it. -/
  | dangling
deriving DecidableEq, Repr

def Glyph.chars : Glyph → List Char
  | .plain c => [c]
  | .escaped c => ['\\', c]
  | .dangling => ['\\']

def Glyph.width : Glyph → Nat
  | .plain c => c.utf8Size
  | .escaped c => 1 + c.utf8Size
  | .dangling => 1

def glyphs : List Char → List Glyph
  | [] => []
  | c :: r =>
    if c = '\\' then
      match r with
      | [] => [.dangling]
      | d :: s => .escaped d :: glyphs s
    else .plain c :: glyphs r

def chars (gs : List Glyph) : List Char := gs.flatMap Glyph.chars

def width : List Glyph → Nat
  | [] => 0
  | g :: gs => g.width + width gs

end Rulebook.Text
