import Mathlib
import Rulebook.Proofs.Rule.Joining
import Rulebook.Proofs.Slicing.Rule

namespace Rulebook

open Text

/-- Finds all connectives outside brackets. The number of open brackets, and the connectives so far
with their offsets, the latest first, are carried on from the beginning of the text to its end. -/
def chainScanner : Scanner (Nat × List (Nat × Connective)) (List (Nat × Connective)) where
  move s i c next :=
    if c = '\\' then .skip s
    else if c = '(' ∨ c = '[' then .go (s.1 + 1, s.2)
    else if c = ')' ∨ c = ']' then .go (s.1 - 1, s.2)
    else if c = '&' ∧ s.1 = 0 ∧ next = some '&' then .skip (s.1, (i, .and) :: s.2)
    else if c = '|' ∧ s.1 = 0 ∧ next = some '|' then .skip (s.1, (i, .or) :: s.2)
    else .go s
  finish s := s.2.reverse
  move_wide s i c next hc := by simp (disch := decide) [ne_of_wide hc]
  move_next_wide s i c d d' hd hd' := by simp (disch := decide) [ne_of_wide hd, ne_of_wide hd']

/-- The connectives of a text outside brackets, with their byte offsets. -/
def cuts (cs : List Char) : List (Nat × Connective) := chainScanner.scan (0, []) cs

/-- What the cuts leave of a text between two offsets: where each stretch starts and stops. A
connective takes two bytes. -/
def stretches (start stop : Nat) : List (Nat × Connective) → List (Nat × Nat)
  | [] => [(start, stop)]
  | (p, _) :: cuts => (start, p) :: stretches (p + 2) stop cuts

def Segment.stop (s : Segment) : Nat := s.offset + width s.glyphs

/-- The pass goes on where the search for one connective would stop. -/
theorem chainScanner_move_eq (d : Nat) (found : List (Nat × Connective)) (i : Nat) (c : Char)
    (next : Option Char) :
    chainScanner.move (d, found) i c next =
      match connectiveScanner.move d i c next with
      | .stop (some cut) => .skip (d, cut :: found)
      | .stop none => .go (d, found)
      | .go d => .go (d, found)
      | .skip d => .skip (d, found) := by
  simp only [chainScanner, connectiveScanner]
  split_ifs <;> rfl

theorem chainScanner_move (d : Nat) (found : List (Nat × Connective)) (i : Nat) {c : Char}
    (hc : c ≠ '\\') (r : List Char) :
    chainScanner.move (d, found) i c r.head? =
      match (if d = 0 then connectiveAt? (.plain c :: glyphs r) else none) with
      | some (k, _) => .skip (d, (i, k) :: found)
      | none => .go (depthAfter d (.plain c), found) := by
  rw [chainScanner_move_eq, connective_move d i hc]
  cases (if d = 0 then connectiveAt? (.plain c :: glyphs r) else none) <;> rfl

def foundFrom (found : List (Nat × Connective)) (i : Nat) :
    Option (List Glyph × Connective × List Glyph) → List (Nat × Connective)
  | none => found.reverse
  | some (before, c, after) => chainScanner.run Char.utf8Size
      (0, (i + width before, c) :: found) (i + width before + 2) false (chars after)

theorem foundFrom_map (found : List (Nat × Connective)) (i : Nat) (g : Glyph)
    (cut : Option (List Glyph × Connective × List Glyph)) :
    foundFrom found i (cut.map fun (before, c, after) ↦ (g :: before, c, after)) =
      foundFrom found (i + g.width) cut := by
  cases cut with
  | none => rfl
  | some p =>
    have hwidth : i + width (g :: p.1) = i + g.width + width p.1 := by rw [width, Nat.add_assoc]
    simp only [Option.map_some, foundFrom, hwidth]

theorem run_chainScanner (d : Nat) (found : List (Nat × Connective)) (i : Nat) (cs : List Char) :
    chainScanner.run Char.utf8Size (d, found) i false cs =
      foundFrom found i (cutAtConnective d (glyphs cs)) := by
  induction cs using glyph_induction generalizing d i with
  | nil => rfl
  | dangling => cases d <;> rfl
  | escaped e r ih =>
    rw [chainScanner.run_skip (c := '\\') rfl, ih, glyphs_escaped,
      cutAtConnective_next fun _ ↦ rfl, foundFrom_map]
    rfl
  | plain c r hc ih =>
    rw [glyphs_plain hc]
    obtain ⟨k, after, rfl, h⟩ | h := cutAtConnective_cases d (.plain c) (glyphs r)
    · have hone : k.sign.utf8Size = 1 := by cases k <;> rfl
      have hchars := congrArg chars h
      simp only [chars_cons, chars_glyphs, Glyph.chars, List.singleton_append] at hchars
      obtain ⟨rfl, rfl⟩ := List.cons.inj hchars
      have hskip : chainScanner.move (0, found) i k.sign (some k.sign) =
          .skip (0, (i, k) :: found) := by
        cases k <;> rfl
      rw [chainScanner.run_skip hskip, h, cutAtConnective_here]
      simp [foundFrom, width, size, hone]
    · have hnone : (if d = 0 then connectiveAt? (.plain c :: glyphs r) else none) = none := by
        split
        · rename_i hd
          exact h hd
        · rfl
      rw [Scanner.run, if_neg (by decide), chainScanner_move d found i hc, hnone,
        cutAtConnective_next h, foundFrom_map, ← ih]
      rfl

theorem run_chainScanner_segments {cs : List Char} {gs : List Glyph} (hcs : glyphs cs = gs)
    (offset : Nat) (found : List (Nat × Connective)) :
    chainScanner.run Char.utf8Size (0, found) offset false cs = found.reverse ++
      ((segments offset gs).1.map Segment.stop).zip (segments offset gs).2 := by
  induction offset, gs using segments.induct generalizing cs found with
  | case1 offset gs h =>
    rw [run_chainScanner, hcs, h, segments_of_none h]
    simp [foundFrom]
  | case2 offset gs before c after h _ _ _ ih =>
    have hafter : glyphs (chars after) = after :=
      (glyphs_chars_of_append (a := [.plain c.sign, .plain c.sign])
        (glyphs_chars_of_append (hcs.trans (cutAtConnective_some h).1)).2).2
    rw [run_chainScanner, hcs, h, foundFrom, ih hafter, segments_of_some h]
    simp [Segment.stop]

theorem cuts_eq (cs : List Char) :
    cuts cs =
      ((segments 0 (glyphs cs)).1.map Segment.stop).zip (segments 0 (glyphs cs)).2 := by
  rw [cuts, Scanner.scan_eq, run_chainScanner_segments rfl]
  rfl

theorem stretches_segments (offset : Nat) (gs : List Glyph) :
    stretches offset (offset + width gs)
        (((segments offset gs).1.map Segment.stop).zip (segments offset gs).2) =
      (segments offset gs).1.map fun s ↦ (s.offset, s.stop) := by
  induction offset, gs using segments.induct with
  | case1 offset gs h =>
    rw [segments_of_none h]
    rfl
  | case2 offset gs before c after h _ _ _ ih =>
    have hstop : offset + width gs = offset + width before + 2 + width after := by
      have hsign : c.sign.utf8Size = 1 := by cases c <;> rfl
      rw [width_eq_size, (cutAtConnective_some h).1, width_eq_size, width_eq_size]
      simp [Glyph.chars, hsign]
      omega
    rw [segments_of_some h, List.map_cons, List.zip_cons_cons, stretches, hstop]
    exact congrArg _ ih

theorem exists_append_of_mem_segments {offset : Nat} {gs : List Glyph} {s : Segment}
    (hs : s ∈ (segments offset gs).1) : ∃ a b, chars gs = a ++ s.text ++ b ∧
      offset + size a = s.offset := by
  induction offset, gs using segments.induct with
  | case1 offset gs h =>
    rw [segments_of_none h] at hs
    obtain rfl := List.mem_singleton.1 hs
    exact ⟨[], [], by simp [Segment.text], rfl⟩
  | case2 offset gs before c after h _ _ _ ih =>
    have hgs := (cutAtConnective_some h).1
    rw [segments_of_some h] at hs
    obtain rfl | hs := List.mem_cons.1 hs
    · exact ⟨[], chars (.plain c.sign :: .plain c.sign :: after), by simp [hgs, Segment.text], rfl⟩
    · obtain ⟨a, b, hafter, hsize⟩ := ih hs
      have hsign : size [c.sign, c.sign] = 2 := by cases c <;> rfl
      refine ⟨chars before ++ [c.sign, c.sign] ++ a, b, ?_, ?_⟩
      · rw [hgs, chars_append, chars_cons, chars_cons, hafter]
        simp [Glyph.chars]
      · rw [← hsize, size_append, size_append, hsign, width_eq_size]
        omega

theorem leafOf_eq_error {i : Nat} {capture : Option Nat} {s : Segment} {e : ReadError}
    (h : leafOf i capture s = .error e) :
    e = .emptyCheck s.offset ∨ e = .secondCapture s.offset := by
  obtain h | ⟨leaf, -, h⟩ := bind_eq_error_iff.1 h
  · cases hc : captured? (trim (chars s.glyphs)) <;> cases capture <;> rw [hc] at h <;> cases h
    exact .inr rfl
  · split at h
    · cases h
      exact .inl rfl
    · cases h

theorem leafTexts_eq_error {i : Nat} {capture : Option Nat} {segs : List Segment} {e : ReadError}
    (h : leafTexts i capture segs = .error e) :
    ∃ a s b texts capture', segs = a ++ s :: b ∧ leafTexts i capture a = .ok (texts, capture') ∧
      leafOf (i + a.length) capture' s = .error e ∧
      (e = .emptyCheck s.offset ∨ e = .secondCapture s.offset) := by
  induction segs generalizing i capture with
  | nil => cases h
  | cons s segs ih =>
    rw [leafTexts_cons] at h
    obtain h | ⟨leaf, hleaf, h⟩ := bind_eq_error_iff.1 h
    · exact ⟨[], s, segs, [], capture, rfl, rfl, h, leafOf_eq_error h⟩
    obtain h | ⟨chain, -, h⟩ := bind_eq_error_iff.1 h
    · obtain ⟨a, s', b, texts, capture', rfl, ha, hs', he⟩ := ih h
      refine ⟨s :: a, s', b, leaf.1 :: texts, capture', rfl, ?_, ?_, he⟩
      · rw [leafTexts_cons, hleaf]
        exact bind_eq_ok_iff.2 ⟨leaf, rfl, bind_eq_ok_iff.2 ⟨_, ha, rfl⟩⟩
      · rwa [List.length_cons, Nat.add_comm a.length, ← Nat.add_assoc]
    · cases h

/-- Looking for the first connective anew after each cut gives what one pass over the text finds:
the segments are the stretches between its cuts, they stand at their offsets and rebuild the text
with the connectives between them, and a chain is refused at the offset of its first segment that
makes no leaf. -/
theorem splitChain_of_cuts (cs : List Char) :
    Yields (Sliced.splitChain 0 none 0 cs) (do
        let chain ← leafTexts 0 none (segments 0 (glyphs cs)).1
        .ok (chain.1, (segments 0 (glyphs cs)).2, chain.2)) ∧
      (segments 0 (glyphs cs)).2 = (cuts cs).map Prod.snd ∧
      List.Forall₂ (fun range s ↦ s.offset = range.1 ∧
          ∃ piece, slice cs range.1 range.2 = .ok piece ∧ piece.val = s.text)
        (stretches 0 (size cs) (cuts cs)) (segments 0 (glyphs cs)).1 ∧
      joinTexts ((segments 0 (glyphs cs)).1.map Segment.text) (segments 0 (glyphs cs)).2 = cs ∧
      ∀ e, leafTexts 0 none (segments 0 (glyphs cs)).1 = .error e →
        ∃ a s b texts capture, (segments 0 (glyphs cs)).1 = a ++ s :: b ∧
          leafTexts 0 none a = .ok (texts, capture) ∧ leafOf a.length capture s = .error e ∧
          (e = .emptyCheck s.offset ∨ e = .secondCapture s.offset) := by
  refine ⟨Sliced.splitChain_yields rfl 0 none 0, ?_, ?_, ?_, fun e he ↦ ?_⟩
  · rw [cuts_eq, List.map_snd_zip]
    rw [List.length_map, length_segments]
    exact Nat.le_succ _
  · have hsize : size cs = 0 + width (glyphs cs) := by
      rw [Nat.zero_add, width_eq_size, chars_glyphs]
    rw [cuts_eq, hsize, stretches_segments, List.forall₂_map_left_iff, List.forall₂_same]
    intro s hs
    obtain ⟨a, b, htext, ha⟩ := exists_append_of_mem_segments hs
    rw [chars_glyphs] at htext
    rw [Nat.zero_add] at ha
    exact ⟨rfl, _, slice_eq htext ha (by rw [Segment.stop, width_eq_size, Segment.text]), rfl⟩
  · rw [joinTexts_segments, chars_glyphs]
  · obtain ⟨a, s, b, texts, capture, hsegs, ha, hs, hposition⟩ := leafTexts_eq_error he
    rw [Nat.zero_add] at hs
    exact ⟨a, s, b, texts, capture, hsegs, ha, hs, hposition⟩

example : cuts "a&&&\\&&&(b||c)".toList = [(1, .and), (6, .and)] := by cbv

end Rulebook
