import Mathlib.Data.List.Forall2
import Rulebook.Proofs.Rule.Splitting

namespace Rulebook

open Text

def Segment.text (s : Segment) : List Char := chars s.glyphs

/-- Texts with connectives between them, of which there is one less. -/
def joinTexts : List (List Char) → List Connective → List Char
  | t :: ts, c :: cs => t ++ c.token.toList ++ joinTexts ts cs
  | [t], [] => t
  | _, _ => []

theorem joinTexts_segments (offset : Nat) (gs : List Glyph) :
    joinTexts ((segments offset gs).1.map Segment.text) (segments offset gs).2 = chars gs := by
  induction offset, gs using segments.induct with
  | case1 offset gs h =>
    rw [segments_of_none h]
    rfl
  | case2 offset gs before c after h _ _ _ ih =>
    obtain ⟨rfl, -, -⟩ := cutAtConnective_some h
    rw [segments_of_some h, List.map_cons, joinTexts, ih, c.toList_token, Segment.text]
    simp [Glyph.chars]

theorem cutAtConnective_exchange {d : Nat} {gs before after : List Glyph} {c : Connective}
    (h : cutAtConnective d gs = some (before, c, after)) (rest : List Glyph) :
    cutAtConnective d (before ++ .plain c.sign :: .plain c.sign :: rest) =
      some (before, c, rest) := by
  induction gs generalizing d before with
  | nil => cases h
  | cons g r ih =>
    obtain ⟨c', after', rfl, hg⟩ | hn := cutAtConnective_cases d g r
    · rw [hg, cutAtConnective_here] at h
      cases h
      exact cutAtConnective_here c rest
    · rw [cutAtConnective_next hn] at h
      obtain ⟨⟨before', c', after'⟩, hcut, heq⟩ := Option.map_eq_some_iff.1 h
      cases heq
      obtain ⟨rfl, -, -⟩ := cutAtConnective_some hcut
      have hseam : d = 0 → connectiveAt?
          (g :: (before' ++ .plain c.sign :: .plain c.sign :: rest)) = none := by
        intro hd
        refine connectiveAt?_eq_none_iff.2 fun k r hk ↦ ?_
        -- only the first glyph after `g` counts, and it is the same as before
        cases before' with
        | nil =>
          obtain ⟨rfl, ht⟩ := List.cons.inj hk
          obtain ⟨hsign, -⟩ := List.cons.inj ht
          exact connectiveAt?_eq_none_iff.1 (hn hd) k _ (by rw [List.nil_append, hsign])
        | cons x before' =>
          obtain ⟨rfl, ht⟩ := List.cons.inj hk
          obtain ⟨rfl, -⟩ := List.cons.inj ht
          exact connectiveAt?_eq_none_iff.1 (hn hd) k _ rfl
      rw [List.cons_append, cutAtConnective_next hseam, ih hcut]
      rfl

/-- A text after which a connective is found as the first one, whatever follows. -/
structure EndsAt (c : Connective) (q : List Char) : Prop where
  not_dangles : ¬ Dangles q
  cut : ∀ rest, cutAtConnective 0 (glyphs q ++ .plain c.sign :: .plain c.sign :: rest) =
    some (glyphs q, c, rest)

/-- Texts that are found again where they are joined. -/
inductive Splits : List (List Char) → List Connective → Prop
  | last {q : List Char} : hasConnective q = false → Splits [q] []
  | cons {q : List Char} {qs : List (List Char)} {c : Connective} {cs : List Connective} :
    EndsAt c q → Splits qs cs → Splits (q :: qs) (c :: cs)

theorem not_dangles_of_append {cs : List Char} {a b : List Glyph} {g : Glyph}
    (h : glyphs cs = a ++ g :: b) : ¬ Dangles (chars a) := by
  intro hd
  obtain ⟨ha, hb⟩ := glyphs_chars_of_append h
  obtain ⟨x, r, hx⟩ : ∃ x r, chars (g :: b) = x :: r := by
    refine List.exists_cons_of_ne_nil fun hnil ↦ ?_
    rw [hnil] at hb
    cases hb
  have hcs : cs = chars a ++ x :: r := by rw [← hx, ← chars_append, ← h, chars_glyphs]
  rw [hcs, glyphs_append_of_dangles hd, ha] at h
  -- the last glyph of `a` would have to be the escape of `x` as well
  have hlast := (dangles_iff _).1 hd
  rw [ha] at hlast
  obtain ⟨a', rfl⟩ := List.getLast?_eq_some_iff.1 hlast
  rw [List.dropLast_concat, List.append_assoc, List.append_cancel_left_eq] at h
  cases h

theorem splits_segments {cs : List Char} {gs : List Glyph} (hcs : glyphs cs = gs) (offset : Nat) :
    Splits ((segments offset gs).1.map Segment.text) (segments offset gs).2 := by
  induction offset, gs using segments.induct generalizing cs with
  | case1 offset gs h =>
    rw [segments_of_none h]
    refine .last (hasConnective_eq_false_iff.2 ?_)
    rw [Segment.text, ← hcs, chars_glyphs, hcs]
    exact h
  | case2 offset gs before c after h _ _ _ ih =>
    have hgs := hcs.trans (cutAtConnective_some h).1
    obtain ⟨hbefore, hrest⟩ := glyphs_chars_of_append hgs
    rw [segments_of_some h]
    refine .cons ⟨not_dangles_of_append hgs, fun rest ↦ ?_⟩
      (ih (glyphs_chars_of_append (a := [.plain c.sign, .plain c.sign]) hrest).2)
    rw [Segment.text, hbefore]
    exact cutAtConnective_exchange h rest

theorem glyphs_joinTexts_cons {c : Connective} {q : List Char} (h : EndsAt c q)
    (qs : List (List Char)) (cs : List Connective) :
    glyphs (joinTexts (q :: qs) (c :: cs)) =
      glyphs q ++ .plain c.sign :: .plain c.sign :: glyphs (joinTexts qs cs) := by
  rw [joinTexts, c.toList_token, List.append_assoc, glyphs_append h.not_dangles]
  rw [List.cons_append, List.cons_append, List.nil_append, glyphs_plain c.sign_ne_backslash,
    glyphs_plain c.sign_ne_backslash]

namespace Splits

variable {qs : List (List Char)} {cs : List Connective}

theorem segments_joinTexts (h : Splits qs cs) (offset : Nat) :
    (segments offset (glyphs (joinTexts qs cs))).2 = cs ∧
      (segments offset (glyphs (joinTexts qs cs))).1.map Segment.text = qs := by
  induction h generalizing offset with
  | last h =>
    rw [joinTexts, segments_of_none (hasConnective_eq_false_iff.1 h)]
    exact ⟨rfl, by simp [Segment.text]⟩
  | cons hq _ ih =>
    obtain ⟨hcs, hqs⟩ := ih (offset + width (glyphs _) + 2)
    rw [glyphs_joinTexts_cons hq, segments_of_some (hq.cut _)]
    exact ⟨congrArg _ hcs, by rw [List.map_cons, hqs, Segment.text, chars_glyphs]⟩

theorem exchange {R : List Char → List Char → Prop} {qs' : List (List Char)} (h : Splits qs cs)
    (hends : ∀ q q' c, R q q' → EndsAt c q → EndsAt c q')
    (hsingle : ∀ q q', R q q' → hasConnective q = false → hasConnective q' = false)
    (hqs : List.Forall₂ R qs qs') : Splits qs' cs := by
  induction h generalizing qs' with
  | last h =>
    obtain ⟨q', _, hq, hnil, rfl⟩ := List.forall₂_cons_left_iff.1 hqs
    obtain rfl := List.forall₂_nil_left_iff.1 hnil
    exact .last (hsingle _ q' hq h)
  | cons hends' _ ih =>
    obtain ⟨q', qs', hq, hrest, rfl⟩ := List.forall₂_cons_left_iff.1 hqs
    exact .cons (hends _ q' _ hq hends') (ih hrest)

theorem balanced (h : Splits qs cs) (hqs : ∀ q ∈ qs, Balanced (glyphs q)) :
    Balanced (glyphs (joinTexts qs cs)) := by
  induction h with
  | @last q h => exact hqs q (by simp)
  | @cons q qs c cs hq _ ih =>
    obtain ⟨hbq, hqs⟩ := List.forall_mem_cons.1 hqs
    rw [glyphs_joinTexts_cons hq, Balanced, openBrackets_append, hbq.openBrackets_eq,
      Option.bind_some, openBrackets_cons, bracketStep_sign, Option.bind_some, openBrackets_cons,
      bracketStep_sign]
    exact ih hqs

end Splits

end Rulebook
