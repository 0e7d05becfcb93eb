import Rulebook.Proofs.Check.Carrying
import Rulebook.Proofs.Slicing.Rule

namespace Rulebook

open Text

def openingScanner (b : Bracket) : Scanner Unit (Option Nat) where
  move _ i c _ :=
    if c = '\\' then .skip ()
    else if c = b.opening then .stop (some i)
    else .go ()
  finish _ := none
  move_wide _ i c _ hc := by
    have hb : c ≠ b.opening := ne_of_wide hc (by cases b <;> decide)
    simp (disch := decide) [ne_of_wide hc, hb]
  move_next_wide _ _ _ _ _ _ _ := rfl

/-- Where a split has got to: how many brackets are open, where the last part began, and between
which offsets the parts before it stand. -/
structure Split where
  depth : Nat := 0
  start : Nat := 0
  ranges : List (Nat × Nat) := []

/-- Finds the parts between separators outside brackets. A doubled `&` never separates. -/
def splitScanner (separates : Char → Bool) (stop : Nat) : Scanner Split (List (Nat × Nat)) where
  move s i c next :=
    if c = '\\' then .skip s
    else if c = '(' ∨ c = '[' then .go { s with depth := s.depth + 1 }
    else if c = ')' ∨ c = ']' then .go { s with depth := s.depth - 1 }
    else if c = '&' ∧ next = some '&' then .skip s
    else if s.depth = 0 ∧ c.toNat < 128 ∧ separates c then
      .go { s with start := i + 1, ranges := s.ranges ++ [(s.start, i)] }
    else .go s
  finish s := s.ranges ++ [(s.start, stop)]
  move_wide s i c next hc := by
    have hlt : ¬c.toNat < 128 := Nat.not_lt_of_le hc
    simp (disch := decide) [ne_of_wide hc, hlt]
  move_next_wide s i c d d' hd hd' := by simp (disch := decide) [ne_of_wide hd, ne_of_wide hd']

theorem run_openingScanner (b : Bracket) (i : Nat) (cs : List Char) :
    (openingScanner b).run Char.utf8Size () i false cs =
      (cutAt b.opening (glyphs cs)).map fun (before, _) ↦ i + size (chars before) := by
  induction cs using glyph_induction generalizing i with
  | nil => rfl
  | dangling => rfl
  | escaped e r ih =>
    rw [(openingScanner b).run_skip (c := '\\') rfl, ih, glyphs_escaped, cutAt, if_neg (by simp)]
    simp only [Option.map_map, Function.comp_def, chars_cons, size_append, Nat.add_assoc]
    rfl
  | plain c r hc ih =>
    have hsize : size (Glyph.plain c).chars = c.utf8Size := rfl
    have hmove (next : Option Char) : (openingScanner b).move () i c next =
        if c = b.opening then .stop (some i) else .go () := if_neg hc
    rw [Scanner.run, if_neg (by decide), hmove, glyphs_plain hc, cutAt]
    by_cases hb : c = b.opening
    · rw [if_pos hb, if_pos (congrArg _ hb)]
      rfl
    · rw [if_neg hb, if_neg fun h ↦ hb (Glyph.plain.inj h)]
      simp only [ih, Option.map_map, Function.comp_def, chars_cons, size_append, hsize,
        Nat.add_assoc]

def pieceAt (text : List Char) (range : Nat × Nat) : Except BadSlice (List Char) :=
  Subtype.val <$> slice text range.1 range.2

theorem pieceAt_eq {text a b c : List Char} {start stop : Nat} (htext : text = a ++ b ++ c)
    (hstart : size a = start) (hstop : size (a ++ b) = stop) :
    pieceAt text (start, stop) = .ok b := by
  rw [pieceAt, slice_eq htext hstart (by rw [← hstart, ← hstop, size_append])]
  rfl

/-- A split has got to the rest of a text: the pieces stand in what is done, and behind it the part
is read that still goes on. -/
structure Split.Reaches (s : Split) (text : List Char) (pieces : List (List Char))
    (done current rest : List Char) : Prop where
  text_eq : text = done ++ current ++ rest
  start_eq : s.start = size done
  ranges_eq : s.ranges.mapM (pieceAt text) = .ok pieces

namespace Split.Reaches

variable {s : Split} {text done current rest w : List Char} {pieces : List (List Char)} {c : Char}

theorem read (h : s.Reaches text pieces done current (w ++ rest)) (depth : Nat) :
    ({ s with depth } : Split).Reaches text pieces done (current ++ w) rest where
  text_eq := by rw [h.text_eq]; simp
  start_eq := h.start_eq
  ranges_eq := h.ranges_eq

theorem mapM_ranges {stop : Nat} (h : s.Reaches text pieces done current rest)
    (hstop : size (done ++ current) = stop) :
    (s.ranges ++ [(s.start, stop)]).mapM (pieceAt text) = .ok (pieces ++ [current]) := by
  rw [List.mapM_append, h.ranges_eq, List.mapM_cons, pieceAt_eq h.text_eq h.start_eq.symm hstop]
  rfl

theorem cut (h : s.Reaches text pieces done current (c :: rest)) (hc : c.utf8Size = 1) :
    ({ s with
      start := size (done ++ current) + 1
      ranges := s.ranges ++ [(s.start, size (done ++ current))] } : Split).Reaches text
        (pieces ++ [current]) (done ++ current ++ [c]) [] rest where
  text_eq := by rw [h.text_eq]; simp
  start_eq := by rw [size_append _ [c], size_cons, hc, size_nil]
  ranges_eq := h.mapM_ranges rfl

theorem finish (h : s.Reaches text pieces done current []) :
    (s.ranges ++ [(s.start, size text)]).mapM (pieceAt text) = .ok (pieces ++ [current]) :=
  h.mapM_ranges (by rw [h.text_eq, List.append_nil])

end Split.Reaches

section

variable {separates : Char → Bool} (hsep : ∀ c, separates c = true → c = ',' ∨ c = '&')

include hsep

theorem split_move {c : Char} {next : Option Char} (hc : c ≠ '\\')
    (hpair : ¬(c = '&' ∧ next = some '&')) (stop : Nat) (s : Split) (i : Nat) :
    (splitScanner separates stop).move s i c next =
      .go (if s.depth = 0 ∧ separates c then
        { s with start := i + 1, ranges := s.ranges ++ [(s.start, i)] }
      else { s with depth := depthAfter s.depth (.plain c) }) := by
  simp only [splitScanner, if_neg hc, if_neg hpair]
  by_cases hs : separates c = true
  · obtain rfl | rfl := hsep c hs <;> by_cases hd : s.depth = 0 <;>
      simp [hs, hd, depthAfter, opens?, closes?]
  · by_cases hopen : c = '(' ∨ c = '['
    · obtain rfl | rfl := hopen <;> simp [hs, depthAfter, opens?]
    · by_cases hclose : c = ')' ∨ c = ']'
      · obtain rfl | rfl := hclose <;> simp [hs, depthAfter, opens?, closes?]
      · rw [not_or] at hopen hclose
        simp [hs, depthAfter, opens?, closes?, hopen, hclose]

theorem run_splitScanner {s : Split} {text done current rest : List Char}
    {pieces : List (List Char)} (h : s.Reaches text pieces done current rest) :
    ((splitScanner separates (size text)).run Char.utf8Size s (size (done ++ current)) false
        rest).mapM (pieceAt text) =
      .ok (pieces ++ (current ++ chars (partsFrom separates s.depth (glyphs rest)).1) ::
        (partsFrom separates s.depth (glyphs rest)).2.map chars) := by
  induction hn : rest.length using Nat.strong_induction_on
    generalizing s done current rest pieces with
  | _ n ih =>
    cases rest using glyph_induction with
    | nil =>
      rw [glyphs_nil, partsFrom, chars_nil, List.append_nil]
      exact h.finish
    | dangling => exact (h.read s.depth).finish
    | escaped e r =>
      simp only [List.length_cons] at hn
      have hrest := ih r.length (by omega) (h.read (w := ['\\', e]) s.depth) rfl
      have hnext : partsFrom separates s.depth (.escaped e :: glyphs r) =
          extendFirst [.escaped e] (partsFrom separates s.depth (glyphs r)) :=
        partsFrom_next (by simp) (by simp)
      rw [Scanner.run_skip _ rfl, glyphs_escaped, hnext]
      simpa [extendFirst, Glyph.chars, Nat.add_assoc] using hrest
    | plain c r hc =>
      by_cases hpair : c = '&' ∧ r.head? = some '&'
      · -- both characters are passed at once, as neither of them may separate
        obtain ⟨rfl, hr⟩ := hpair
        obtain ⟨r, rfl⟩ := List.head?_eq_some_iff.1 hr
        simp only [List.length_cons] at hn
        have hrest := ih r.length (by omega) (h.read (w := ['&', '&']) s.depth) rfl
        rw [Scanner.run_skip _ rfl, glyphs_plain hc, glyphs_plain hc, partsFrom_pair]
        simpa [extendFirst, Glyph.chars, Nat.add_assoc] using hrest
      · have hpair' : c = '&' → (glyphs r).head? ≠ some (.plain '&') := fun hc h ↦
          hpair ⟨hc, (head?_glyphs (by decide) r).1 h⟩
        simp only [List.length_cons] at hn
        rw [Scanner.run, if_neg (by decide), split_move hsep hc hpair, glyphs_plain hc]
        dsimp only
        split
        · rename_i hs
          have hone : c.utf8Size = 1 := by obtain rfl | rfl := hsep c hs.2 <;> rfl
          have hrest := ih r.length (by omega) (h.cut hone) rfl
          rw [hs.1] at hrest ⊢
          rw [partsFrom_split hpair' hs.2]
          simpa [hone, Nat.add_assoc] using hrest
        · rename_i hs
          have hrest := ih r.length (by omega)
            (h.read (w := [c]) (depthAfter s.depth (.plain c))) rfl
          rw [partsFrom_next (fun h ↦ hpair' (Glyph.plain.inj h)) fun hd c' h ↦ ?_]
          · simpa [extendFirst, Glyph.chars, Nat.add_assoc] using hrest
          · obtain rfl := Glyph.plain.inj h
            exact eq_false_of_ne_true fun h ↦ hs ⟨hd, h⟩

end

theorem scan_openingScanner (b : Bracket) (text : List Char) :
    (openingScanner b).scan () text =
      (cutAt b.opening (glyphs text)).map fun (before, _) ↦ size (chars before) := by
  rw [Scanner.scan_eq, run_openingScanner]
  simp only [Nat.zero_add]

theorem append_of_cutAt_glyphs {c : Char} {text : List Char} {before after : List Glyph}
    (h : cutAt c (glyphs text) = some (before, after)) :
    text = chars before ++ [c] ++ chars after := by
  rw [← chars_glyphs text, eq_append_of_cutAt h]
  simp [Glyph.chars]

namespace Sliced

def splitTopLevel (separates : Char → Bool) (text : List Char) :
    Except BadSlice (List (List Char)) :=
  ((splitScanner separates (size text)).scan {} text).mapM (pieceAt text)

def readCall (text : List Char) : Guarded Mistake Call := do
  let text := trim text
  if text.isEmpty then throw .emptyCall
  else match (openingScanner .round).scan () text with
  | none => return ⟨lower (String.ofList text), []⟩
  | some opening => do
    let before ← slice text 0 opening
    let name := lower (String.ofList (trim before.val))
    let after ← slice text (opening + 1) (size text)
    match dropLast? ')' after.val with
    | none => throw (.openCall name)
    | some body =>
      if (trim body).isEmpty then return ⟨name, []⟩
      else do
        let arguments ← splitTopLevel (fun c ↦ c = ',' || c = '&') body
        return ⟨name, arguments.map fun a ↦ String.ofList (resolveEscapes (trim a))⟩

def readCheck (text : String) : Guarded Mistake Check := do
  let text := trim text.toList
  match (openingScanner .square).scan () text with
  | none => do
    let type ← liftExcept (readTypeName text)
    return ⟨type, []⟩
  | some opening => do
    let clause ← slice text (opening + 1) (size text)
    match dropLast? ']' clause.val with
    | none => throw .openBracket
    | some inner => do
      let parts ← splitTopLevel (· = '&') inner
      let calls ← parts.mapM readCall
      let before ← slice text 0 opening
      let type ← liftExcept (readTypeName before.val)
      return ⟨type, calls⟩

theorem splitTopLevel_eq {separates : Char → Bool}
    (hsep : ∀ c, separates c = true → c = ',' ∨ c = '&') (text : List Char) :
    splitTopLevel separates text = .ok (parts separates text) := by
  rw [splitTopLevel, Scanner.scan_eq]
  have hstart : Split.Reaches {} text [] [] [] text := ⟨rfl, rfl, rfl⟩
  exact run_splitScanner hsep hstart

theorem readCall_yields (text : List Char) : Yields (readCall text) (Call.read text) := by
  rw [readCall, Call.read]
  dsimp only
  generalize trim text = text
  have hscan : (openingScanner .round).scan () text =
      (cutAt '(' (glyphs text)).map fun (before, _) ↦ size (chars before) :=
    scan_openingScanner .round text
  rw [hscan]
  split
  · exact Yields.throw _
  · cases h : cutAt '(' (glyphs text) with
    | none => exact Yields.pure _
    | some p =>
      obtain ⟨before, after⟩ := p
      have htext := append_of_cutAt_glyphs h
      refine Yields.lift_bind (slice_front (htext.trans (List.append_assoc ..))) ?_
      refine Yields.lift_bind (slice_back htext (by rw [size_append]; rfl)) ?_
      dsimp only
      cases dropLast? ')' (chars after) with
      | none => exact Yields.throw _
      | some body =>
        dsimp only
        rw [argumentsOf]
        split
        · exact Yields.pure _
        · exact Yields.lift_bind (splitTopLevel_eq (fun c h ↦ by simpa using h) body)
            (Yields.pure _)

theorem readCheck_yields (text : String) : Yields (readCheck text) (Check.read text) := by
  rw [readCheck, Check.read]
  generalize trim text.toList = text
  have hscan : (openingScanner .square).scan () text =
      (cutAt '[' (glyphs text)).map fun (before, _) ↦ size (chars before) :=
    scan_openingScanner .square text
  rw [hscan]
  cases h : cutAt '[' (glyphs text) with
  | none => exact (Yields.liftExcept _).bind fun type _ ↦ Yields.pure _
  | some p =>
    obtain ⟨before, after⟩ := p
    have htext := append_of_cutAt_glyphs h
    refine Yields.lift_bind (slice_back htext (by rw [size_append]; rfl)) ?_
    dsimp only
    cases dropLast? ']' (chars after) with
    | none => exact Yields.throw _
    | some inner =>
      refine Yields.lift_bind (splitTopLevel_eq (fun c h ↦ .inr (by simpa using h)) inner) ?_
      refine (Yields.mapM fun part _ ↦ readCall_yields part).bind fun calls _ ↦ ?_
      refine Yields.lift_bind (slice_front (htext.trans (List.append_assoc ..))) ?_
      exact (Yields.liftExcept _).bind fun type _ ↦ Yields.pure _

end Sliced

end Rulebook
