import Rulebook.Rule.Balance
import Rulebook.Rule.Tree
import Rulebook.Text.Blank

namespace Rulebook

open Text

def connectiveAt? : List Glyph → Option (Connective × List Glyph)
  | .plain a :: .plain b :: r =>
    if a = '&' ∧ b = '&' then some (.and, r)
    else if a = '|' ∧ b = '|' then some (.or, r)
    else none
  | _ => none

/-- Cuts a text at its first connective outside brackets. -/
def cutAtConnective (depth : Nat) : List Glyph → Option (List Glyph × Connective × List Glyph)
  | [] => none
  | g :: r =>
    match (if depth = 0 then connectiveAt? (g :: r) else none) with
    | some (c, after) => some ([], c, after)
    | none =>
      (cutAtConnective (depthAfter depth g) r).map fun (before, c, after) ↦ (g :: before, c, after)

def hasConnective (cs : List Char) : Bool := (cutAtConnective 0 (glyphs cs)).isSome

structure Segment where
  offset : Nat
  glyphs : List Glyph
deriving DecidableEq, Repr

theorem length_of_connectiveAt? {gs r : List Glyph} {c : Connective}
    (h : connectiveAt? gs = some (c, r)) : r.length < gs.length := by
  unfold connectiveAt? at h
  split at h
  · split at h
    · cases h; simp only [List.length_cons]; omega
    · split at h
      · cases h; simp only [List.length_cons]; omega
      · cases h
  · cases h

theorem length_of_cutAtConnective {depth : Nat} {gs before after : List Glyph} {c : Connective}
    (h : cutAtConnective depth gs = some (before, c, after)) : after.length < gs.length := by
  induction gs generalizing depth before with
  | nil => cases h
  | cons g r ih =>
    simp only [cutAtConnective] at h
    split at h
    · rename_i hc
      cases h
      split at hc
      · exact length_of_connectiveAt? hc
      · cases hc
    · obtain ⟨⟨before', c', after'⟩, hcut, heq⟩ := Option.map_eq_some_iff.1 h
      cases heq
      exact Nat.lt_succ_of_lt (ih hcut)

/-- The segments of a text that starts at a byte offset, and the connectives between them. -/
def segments (offset : Nat) (gs : List Glyph) : List Segment × List Connective :=
  match _h : cutAtConnective 0 gs with
  | none => ([⟨offset, gs⟩], [])
  | some (before, c, after) =>
    let (rest, cs) := segments (offset + width before + 2) after
    (⟨offset, before⟩ :: rest, c :: cs)
termination_by gs.length
decreasing_by exact length_of_cutAtConnective _h

/-- A single leaf stands alone; otherwise each connective joins the leaves on its two sides. -/
def groupsOf (cs : List Connective) : List Group :=
  if cs.isEmpty then [.solo 0] else cs.zipIdx.map fun (c, i) ↦ .combine c i (i + 1)

/-- Whether the parenthesis opened just before a text is closed by the last glyph of the text.
`depth` counts the parentheses opened since; square brackets do not matter here. -/
def closesAtEnd (depth : Nat) : List Glyph → Bool
  | [] => false
  | g :: r =>
    if closes? g = some .round then
      match depth with
      | 0 => r.isEmpty
      | d + 1 => closesAtEnd d r
    else closesAtEnd (if opens? g = some .round then depth + 1 else depth) r

/-- Trims a text and removes parentheses that span all of it, as often as there are any. -/
def unwrap (cs : List Char) : List Char :=
  match _h : trim cs with
  | [] => []
  | c :: r => if c = '(' ∧ closesAtEnd 0 (glyphs r) then unwrap r.dropLast else c :: r
termination_by cs.length
decreasing_by
  have := length_trim_le cs
  rw [_h] at this
  simp at this ⊢
  omega

end Rulebook
