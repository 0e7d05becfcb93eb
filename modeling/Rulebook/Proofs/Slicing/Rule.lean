import Rulebook.Proofs.Rule.Reading
import Rulebook.Proofs.Slicing.Scanner

namespace Rulebook

open Text

/-- Finds the first connective outside brackets. The state is the number of open brackets. -/
def connectiveScanner : Scanner Nat (Option (Nat × Connective)) where
  move depth i c next :=
    if c = '\\' then .skip depth
    else if c = '(' ∨ c = '[' then .go (depth + 1)
    else if c = ')' ∨ c = ']' then .go (depth - 1)
    else if c = '&' ∧ depth = 0 ∧ next = some '&' then .stop (some (i, .and))
    else if c = '|' ∧ depth = 0 ∧ next = some '|' then .stop (some (i, .or))
    else .go depth
  finish _ := none
  move_wide s i c next hc := by simp (disch := decide) [ne_of_wide hc]
  move_next_wide s i c d d' hd hd' := by simp (disch := decide) [ne_of_wide hd, ne_of_wide hd']

/-- Finds the parenthesis that closes the first one. Square brackets do not matter. -/
def closingScanner : Scanner Nat (Option Nat) where
  move depth i c _ :=
    if c = '\\' then .skip depth
    else if c = '(' then .go (depth + 1)
    else if c = ')' then if depth - 1 = 0 then .stop (some i) else .go (depth - 1)
    else .go depth
  finish _ := none
  move_wide s i c next hc := by simp (disch := decide) [ne_of_wide hc]
  move_next_wide _ _ _ _ _ _ _ := rfl

theorem head?_glyphs {a : Char} (ha : a ≠ '\\') (r : List Char) :
    (glyphs r).head? = some (.plain a) ↔ r.head? = some a := by
  cases r using glyph_induction with
  | nil => simp
  | dangling => simp [ha.symm]
  | escaped d r => simp [ha.symm]
  | plain c r hc => simp [glyphs_plain hc]

theorem connectiveAt?_sign (k : Connective) (gs : List Glyph) :
    connectiveAt? (.plain k.sign :: gs) =
      if gs.head? = some (.plain k.sign) then some (k, gs.tail) else none := by
  split
  · rename_i h
    obtain ⟨r, rfl⟩ := List.head?_eq_some_iff.1 h
    exact connectiveAt?_eq_some_iff.2 rfl
  · rename_i h
    refine connectiveAt?_eq_none_iff.2 fun k' r hgs ↦ h ?_
    obtain ⟨hk, rfl⟩ := List.cons.inj hgs
    rw [hk]
    rfl

theorem connective_move (d i : Nat) {c : Char} (hc : c ≠ '\\') (r : List Char) :
    connectiveScanner.move d i c r.head? =
      match (if d = 0 then connectiveAt? (.plain c :: glyphs r) else none) with
      | some (k, _) => .stop (some (i, k))
      | none => .go (depthAfter d (.plain c)) := by
  by_cases hsign : ∃ k : Connective, c = k.sign
  · obtain ⟨k, rfl⟩ := hsign
    simp only [connectiveAt?_sign, head?_glyphs hc]
    by_cases hd : d = 0 <;> by_cases hr : r.head? = some k.sign <;> cases k <;>
      simp_all [connectiveScanner, Connective.sign, depthAfter, opens?, closes?]
  · have hne (k : Connective) : c ≠ k.sign := fun h ↦ hsign ⟨k, h⟩
    rw [connectiveAt?_of_ne fun k h ↦ hne k (Glyph.plain.inj h), ite_self]
    simp only [connectiveScanner, if_neg hc]
    by_cases hopen : c = '(' ∨ c = '['
    · obtain rfl | rfl := hopen <;> rfl
    · by_cases hclose : c = ')' ∨ c = ']'
      · obtain rfl | rfl := hclose <;> rfl
      · rw [if_neg hopen, if_neg hclose, if_neg fun h ↦ hne .and h.1, if_neg fun h ↦ hne .or h.1]
        simp_all [depthAfter, opens?, closes?]

theorem run_connectiveScanner (d i : Nat) (cs : List Char) :
    connectiveScanner.run Char.utf8Size d i false cs =
      (cutAtConnective d (glyphs cs)).map fun (before, c, _) ↦ (i + size (chars before), c) := by
  induction cs using glyph_induction generalizing d i with
  | nil => rfl
  | dangling => cases d <;> rfl
  | escaped e r ih =>
    rw [connectiveScanner.run_skip (c := '\\') rfl, ih, glyphs_escaped,
      cutAtConnective_next fun _ ↦ rfl]
    simp only [Option.map_map, Function.comp_def, chars_cons, size_append, Nat.add_assoc]
    rfl
  | plain c r hc ih =>
    have hsize : size (Glyph.plain c).chars = c.utf8Size := rfl
    rw [Scanner.run, if_neg (by decide), connective_move d i hc, glyphs_plain hc, cutAtConnective]
    cases (if d = 0 then connectiveAt? (.plain c :: glyphs r) else none) with
    | some p => rfl
    | none =>
      simp only [ih, Option.map_map, Function.comp_def, chars_cons, size_append, hsize,
        Nat.add_assoc]

theorem closesAtEnd_cons (d : Nat) (g : Glyph) (r : List Glyph) :
    closesAtEnd d (g :: r) =
      if g = .plain ')' then
        match d with
        | 0 => r.isEmpty
        | d + 1 => closesAtEnd d r
      else closesAtEnd (if g = .plain '(' then d + 1 else d) r := by
  have hopen : opens? g = some .round ↔ g = .plain '(' := by
    cases g with
    | plain c => by_cases h : c = '(' <;> by_cases h' : c = '[' <;> simp [opens?, h, h']
    | escaped c => simp [opens?]
    | dangling => simp [opens?]
  by_cases hg : g = .plain ')'
  · subst hg
    cases d <;> rfl
  · have hclose : ¬closes? g = some .round := fun h ↦ hg (closes?_eq_round.1 h)
    rw [closesAtEnd.eq_def, if_neg hg]
    exact (if_neg hclose).trans (congrArg (closesAtEnd · r) (if_congr hopen rfl rfl))

theorem run_closingScanner (d i : Nat) (cs : List Char) :
    closingScanner.run Char.utf8Size (d + 1) i false cs = some (i + size cs - 1) ↔
      closesAtEnd d (glyphs cs) = true := by
  induction cs using glyph_induction generalizing d i with
  | nil => exact iff_of_false nofun nofun
  | dangling => exact iff_of_false nofun nofun
  | escaped e r ih =>
    have hend : i + size ('\\' :: e :: r) - 1 = i + size ['\\', e] + size r - 1 := by
      rw [Nat.add_assoc, ← size_append]
      rfl
    rw [closingScanner.run_skip (c := '\\') rfl, hend, ih, glyphs_escaped]
    rfl
  | plain c r hc ih =>
    have hend : i + size (c :: r) - 1 = i + c.utf8Size + size r - 1 := by
      rw [size_cons, Nat.add_assoc]
    rw [Scanner.run, if_neg (by decide), glyphs_plain hc, hend, closesAtEnd_cons]
    simp only [closingScanner, if_neg hc, Glyph.plain.injEq]
    by_cases hopen : c = '('
    · subst hopen
      exact ih (d + 1) (i + 1)
    · rw [if_neg hopen, if_neg hopen]
      by_cases hclose : c = ')'
      · subst hclose
        cases d with
        | zero =>
          have hone : Char.utf8Size ')' = 1 := rfl
          change some i = some _ ↔ (glyphs r).isEmpty = true
          rw [hone, List.isEmpty_iff, Option.some_inj]
          constructor
          · intro h
            cases r with
            | nil => rfl
            | cons c r =>
              have hpos := c.utf8Size_pos
              rw [size_cons] at h
              omega
          · intro h
            obtain rfl : r = [] := by rw [← chars_glyphs r, h]; rfl
            rfl
        | succ d => exact ih d (i + 1)
      · rw [if_neg hclose, if_neg hclose]
        exact ih d (i + c.utf8Size)

theorem exists_of_closesAtEnd {d : Nat} {gs : List Glyph} (h : closesAtEnd d gs = true) :
    ∃ m, gs = m ++ [.plain ')'] := by
  induction gs generalizing d with
  | nil => cases h
  | cons g r ih =>
    rw [closesAtEnd_cons] at h
    split at h
    · rename_i hg
      subst hg
      cases d with
      | zero => exact ⟨[], by rw [List.isEmpty_iff.1 h]; rfl⟩
      | succ d =>
        obtain ⟨m, rfl⟩ := ih h
        exact ⟨.plain ')' :: m, rfl⟩
    · obtain ⟨m, rfl⟩ := ih h
      exact ⟨g :: m, rfl⟩

/-- Leaf `i` is captured if something follows a marker, unless another leaf was captured before. -/
def mark (i offset : Nat) (text : List Char) :
    Option (List Char) → Option Nat → Except ReadError (List Char × Option Nat)
  | none, capture => .ok (text, capture)
  | some inner, none => .ok (trim inner, some i)
  | some _, some _ => .error (.secondCapture offset)

def leafOf (i : Nat) (capture : Option Nat) (s : Segment) :
    Except ReadError (List Char × Option Nat) := do
  let text := trim (chars s.glyphs)
  let leaf ← mark i s.offset text (captured? text) capture
  if (unwrap leaf.1).isEmpty then .error (.emptyCheck s.offset) else .ok leaf

theorem leafTexts_cons (i : Nat) (capture : Option Nat) (s : Segment) (rest : List Segment) :
    leafTexts i capture (s :: rest) = (do
      let leaf ← leafOf i capture s
      let chain ← leafTexts (i + 1) leaf.2 rest
      .ok (leaf.1 :: chain.1, chain.2)) := by
  cases hmarked : captured? (trim (chars s.glyphs)) with
  | none =>
    simp only [leafTexts, leafOf, mark, hmarked, bind, Except.bind]
    split <;> rfl
  | some inner =>
    cases capture with
    | none =>
      simp only [leafTexts, leafOf, mark, hmarked, bind, Except.bind]
      split <;> rfl
    | some j => simp only [leafTexts, leafOf, mark, hmarked, bind, Except.bind]

namespace Sliced

def unwrap (cs : List Char) : Except BadSlice (List Char) :=
  let text := trim cs
  if _h : text.head? = some '(' ∧ closingScanner.scan 0 text = some (size text - 1) then do
    let inner ← slice text 1 (size text - 1)
    unwrap inner.val
  else .ok text
termination_by size cs
decreasing_by
  have _hinner := inner.property
  have htrim : size text ≤ size cs := weigh_le_of_sublist (trim_sublist cs) _
  have hpos : 0 < size text := size_pos fun h ↦ by simp [h] at _h
  omega

def findConnective (cs : List Char) : Option (Nat × Connective) := connectiveScanner.scan 0 cs

def captured? (text inner : List Char) : Option (List Char) :=
  match text, inner with
  | '@' :: r, _ => some r
  | _, '@' :: r => if (findConnective inner).isNone then some r else none
  | _, _ => none

def leafText (i : Nat) (capture : Option Nat) (raw : List Char) (offset : Nat) :
    Guarded ReadError (List Char × Option Nat) := do
  let text := trim raw
  let inner ← unwrap text
  let leaf ← liftExcept (mark i offset text (captured? text inner) capture)
  let inner ← unwrap leaf.1
  if inner.isEmpty then throw (.emptyCheck offset) else return leaf

/-- The leaf texts of a chain, its connectives and the captured leaf. Each leaf is dealt with before
the rest is sliced off. -/
def splitChain (i : Nat) (capture : Option Nat) (offset : Nat) (text : List Char) :
    Guarded ReadError (List (List Char) × List Connective × Option Nat) :=
  match _h : findConnective text with
  | none => do
    let (leaf, capture) ← leafText i capture text offset
    return ([leaf], [], capture)
  | some (position, connective) => do
    let before ← slice text 0 position
    let (leaf, capture) ← leafText i capture before.val offset
    let rest ← slice text (position + 2) (size text)
    let (leaves, connectives, capture) ←
      splitChain (i + 1) capture (offset + position + 2) rest.val
    return (leaf :: leaves, connective :: connectives, capture)
termination_by size text
decreasing_by
  have _hrest := rest.property
  have hpos : 0 < size text := size_pos fun h ↦ by rw [h] at _h; cases _h
  omega

def readLevel (limit : Nat) : (levels : Nat) → List Char → Guarded ReadError Rule
  | 0, _ => throw (.tooDeep limit (limit + 1))
  | levels + 1, cs => do
    let text ← unwrap cs
    if text.isEmpty then throw .empty
    let (texts, connectives, capture) ← splitChain 0 none 0 text
    let leaves ← texts.mapM fun t ↦ do
      let inner ← unwrap t
      if (findConnective inner).isSome then Leaf.nested <$> readLevel limit levels inner
      else return .check (String.ofList inner)
    return ⟨leaves, groupsOf connectives, capture⟩

def readRule (limits : Limits) (text : String) : Guarded ReadError Rule := do
  if text.utf8ByteSize > limits.bytes then throw (.tooLarge limits.bytes text.utf8ByteSize)
  liftExcept (checkBalance (glyphs text.toList))
  readLevel limits.depth limits.depth text.toList

theorem closingScanner_scan (c : Char) (r : List Char) :
    ((c :: r).head? = some '(' ∧ closingScanner.scan 0 (c :: r) = some (size (c :: r) - 1)) ↔
      c = '(' ∧ closesAtEnd 0 (glyphs r) = true := by
  rw [List.head?_cons, Option.some_inj]
  refine and_congr_right fun hc ↦ ?_
  subst hc
  rw [Scanner.scan_eq]
  exact run_closingScanner 0 1 r

theorem unwrap_eq (cs : List Char) : unwrap cs = .ok (Rulebook.unwrap cs) := by
  induction hn : cs.length using Nat.strong_induction_on generalizing cs with
  | _ n ih =>
    rw [unwrap]
    cases ht : trim cs with
    | nil => rw [dif_neg (by simp), unwrap_nil ht]
    | cons c r =>
      rw [unwrap_cons ht]
      simp only [closingScanner_scan]
      by_cases hend : c = '(' ∧ closesAtEnd 0 (glyphs r) = true
      · obtain ⟨m, hm⟩ := exists_of_closesAtEnd hend.2
        have hr : r = r.dropLast ++ [')'] := by
          rw [← chars_glyphs r, hm]
          simp [Glyph.chars]
        have hlen := length_trim_le cs
        rw [ht, List.length_cons] at hlen
        have hone : size [c] = 1 := by rw [hend.1]; rfl
        have hsize : 1 + size r.dropLast = size (c :: r) - 1 := by
          rw [← List.singleton_append, size_append, hone, hr, size_append, List.dropLast_concat]
          rfl
        have hslice : slice (c :: r) 1 (size (c :: r) - 1) = .ok ⟨r.dropLast, _⟩ :=
          slice_eq (a := [c]) (c := [')']) (by rw [List.append_assoc, ← hr]; rfl) hone hsize
        rw [dif_pos hend, if_pos hend, hslice]
        exact ih r.dropLast.length (by rw [List.length_dropLast]; omega) r.dropLast rfl
      · rw [dif_neg hend, if_neg hend]

theorem findConnective_eq (cs : List Char) :
    findConnective cs =
      (cutAtConnective 0 (glyphs cs)).map fun (before, c, _) ↦ (size (chars before), c) := by
  rw [findConnective, Scanner.scan_eq, run_connectiveScanner]
  simp only [Nat.zero_add]

theorem isSome_findConnective (cs : List Char) :
    (findConnective cs).isSome = hasConnective cs := by
  rw [findConnective_eq, Option.isSome_map, hasConnective]

theorem captured?_eq (text : List Char) :
    captured? text (Rulebook.unwrap text) = Rulebook.captured? text := by
  have hnone : (findConnective (Rulebook.unwrap text)).isNone =
      !hasConnective (Rulebook.unwrap text) := by
    rw [← isSome_findConnective, Option.not_isSome]
  unfold captured? Rulebook.captured?
  dsimp only
  rw [hnone]
  generalize hasConnective (Rulebook.unwrap text) = isChain
  generalize Rulebook.unwrap text = inner
  by_cases hat : text.head? = some '@'
  · obtain ⟨r, rfl⟩ := List.head?_eq_some_iff.1 hat
    rfl
  · cases isChain <;> split <;> simp_all

theorem leafText_yields (i : Nat) (capture : Option Nat) (s : Segment) :
    Yields (leafText i capture (chars s.glyphs) s.offset) (leafOf i capture s) := by
  refine Yields.lift_bind (unwrap_eq _) ?_
  rw [captured?_eq]
  refine Yields.bind (Yields.liftExcept _) fun leaf _ ↦ Yields.lift_bind (unwrap_eq leaf.1) ?_
  split <;> rfl

theorem splitChain_yields {cs : List Char} {gs : List Glyph} (hcs : glyphs cs = gs) (i : Nat)
    (capture : Option Nat) (offset : Nat) :
    Yields (splitChain i capture offset cs) (do
      let chain ← leafTexts i capture (segments offset gs).1
      .ok (chain.1, (segments offset gs).2, chain.2)) := by
  induction offset, gs using segments.induct generalizing cs i capture with
  | case1 offset gs h =>
    have hfind : findConnective cs = none := by rw [findConnective_eq, hcs, h]; rfl
    have hchars : cs = chars gs := by rw [← hcs, chars_glyphs]
    rw [segments_of_none h, leafTexts_cons, splitChain]
    split
    · rw [bind_assoc, hchars]
      exact (leafText_yields i capture ⟨offset, gs⟩).bind fun leaf _ ↦ Yields.pure _
    · rename_i hsome
      cases hfind.symm.trans hsome
  | case2 offset gs before c after h _ _ _ ih =>
    obtain ⟨hgs, -⟩ := cutAtConnective_some h
    have hfind : findConnective cs = some (size (chars before), c) := by
      rw [findConnective_eq, hcs, h]
      rfl
    have hchars : cs = chars before ++ [c.sign, c.sign] ++ chars after := by
      rw [← chars_glyphs cs, hcs, hgs]
      simp [Glyph.chars]
    have hafter : glyphs (chars after) = after :=
      (glyphs_chars_of_append (a := [.plain c.sign, .plain c.sign])
        (glyphs_chars_of_append (hcs.trans hgs)).2).2
    rw [segments_of_some h, leafTexts_cons, splitChain]
    split
    · rename_i hnone
      cases hfind.symm.trans hnone
    · rename_i position connective hsome
      cases hfind.symm.trans hsome
      refine Yields.lift_bind (slice_front (hchars.trans (List.append_assoc ..))) ?_
      rw [bind_assoc]
      refine (leafText_yields i capture ⟨offset, before⟩).bind fun leaf _ ↦ ?_
      have hsign : size [c.sign, c.sign] = 2 := by cases c <;> rfl
      refine Yields.lift_bind (slice_back hchars (by rw [size_append, hsign])) ?_
      have hrest := ih hafter (i + 1) leaf.2
      rw [width_eq_size] at hrest ⊢
      have := hrest.bind fun chain _ ↦ Yields.pure (leaf.1 :: chain.1, c :: chain.2.1, chain.2.2)
      rw [bind_assoc] at this
      rw [bind_assoc]
      exact this

theorem readLevel_yields (limit levels : Nat) (cs : List Char) :
    Yields (readLevel limit levels cs) (Rulebook.readLevel limit levels cs) := by
  induction levels generalizing cs with
  | zero => exact Yields.throw _
  | succ levels ih =>
    rw [readLevel, Rulebook.readLevel]
    refine Yields.lift_bind (unwrap_eq cs) ?_
    dsimp only
    split
    · exact Yields.throw _
    · have hleaf (t : List Char) : Yields (do
            let inner ← unwrap t
            if (findConnective inner).isSome then Leaf.nested <$> readLevel limit levels inner
            else return .check (String.ofList inner) : Guarded ReadError Leaf)
          (readLeaf limit levels t) := by
        refine Yields.lift_bind (unwrap_eq t) ?_
        rw [isSome_findConnective, readLeaf]
        split
        · exact (ih (Rulebook.unwrap t)).bind fun r _ ↦ Yields.pure (Leaf.nested r)
        · exact Yields.pure _
      have hchain := splitChain_yields (rfl : glyphs (Rulebook.unwrap cs) = _) 0 none 0
      have hlevel := hchain.bind
        fun chain _ ↦ (Yields.mapM (l := chain.1) fun t _ ↦ hleaf t).bind
          fun leaves _ ↦ Yields.pure (⟨leaves, groupsOf chain.2.1, chain.2.2⟩ : Rule)
      rw [bind_assoc] at hlevel
      exact hlevel

theorem readRule_yields (limits : Limits) (text : String) :
    Yields (readRule limits text) (Rule.read limits text) := by
  rw [readRule, Rule.read]
  split
  · exact Yields.throw _
  · exact (Yields.liftExcept _).bind fun _ _ ↦ readLevel_yields _ _ _

end Sliced

end Rulebook
