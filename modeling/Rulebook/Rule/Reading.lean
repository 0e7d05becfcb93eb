import Rulebook.Rule.Segment

namespace Rulebook

open Text

/-- What a rule text may cost: its size in bytes and its nesting depth. -/
structure Limits where
  bytes : Nat := 65536
  depth : Nat := 32
deriving DecidableEq, Repr

/-- What follows the capture marker of a trimmed segment. The marker may stand inside parentheses
around a single check. -/
def captured? (text : List Char) : Option (List Char) :=
  match text with
  | '@' :: r => some r
  | _ =>
    let inner := unwrap text
    if hasConnective inner then none
    else match inner with
      | '@' :: r => some r
      | _ => none

/-- The leaf texts of a chain whose first leaf has number `i`, markers removed, and the captured
leaf, which may have been found before. -/
def leafTexts (i : Nat) (capture : Option Nat) :
    List Segment → Except ReadError (List (List Char) × Option Nat)
  | [] => .ok ([], capture)
  | s :: rest => do
    let text := trim (chars s.glyphs)
    let (text, capture) ← match captured? text, capture with
      | none, _ => .ok (text, capture)
      | some inner, none => .ok (trim inner, some i)
      | some _, some _ => .error (.secondCapture s.offset)
    if (unwrap text).isEmpty then .error (.emptyCheck s.offset)
    let (texts, capture) ← leafTexts (i + 1) capture rest
    .ok (text :: texts, capture)

/-- Reads one level with `levels` left of the `limit` allowed. -/
def readLevel (limit : Nat) : (levels : Nat) → List Char → Except ReadError Rule
  | 0, _ => .error (.tooDeep limit (limit + 1))
  | levels + 1, cs => do
    let text := unwrap cs
    if text.isEmpty then .error .empty
    let (segs, connectives) := segments 0 (glyphs text)
    let (texts, capture) ← leafTexts 0 none segs
    let leaves ← texts.mapM fun t ↦
      let inner := unwrap t
      if hasConnective inner then Leaf.nested <$> readLevel limit levels inner
      else .ok (.check (String.ofList inner))
    .ok ⟨leaves, groupsOf connectives, capture⟩

/-- Size is checked first, then balance, then the depth of each level as it is reached. -/
def Rule.read (limits : Limits) (text : String) : Except ReadError Rule := do
  if text.utf8ByteSize > limits.bytes then .error (.tooLarge limits.bytes text.utf8ByteSize)
  checkBalance (glyphs text.toList)
  readLevel limits.depth limits.depth text.toList

end Rulebook
