import Rulebook.Proofs.Rule.Nesting
import Rulebook.Rule.Segment

namespace Rulebook

open Text

def Connective.sign : Connective → Char
  | .and => '&'
  | .or => '|'

theorem Connective.toList_token (c : Connective) : c.token.toList = [c.sign, c.sign] := by
  cases c <;> rfl

theorem Connective.sign_ne_backslash (c : Connective) : c.sign ≠ '\\' := by cases c <;> decide

theorem bracketStep_sign (c : Connective) (s : List Bracket) :
    bracketStep s (.plain c.sign) = some s := by cases c <;> rfl

theorem connectiveAt?_eq_some_iff {gs r : List Glyph} {c : Connective} :
    connectiveAt? gs = some (c, r) ↔ gs = .plain c.sign :: .plain c.sign :: r := by
  constructor
  · intro h
    unfold connectiveAt? at h
    split at h
    · rename_i a b r
      split at h
      · rename_i hab
        cases h
        rw [hab.1, hab.2]
        rfl
      · split at h
        · rename_i hab
          cases h
          rw [hab.1, hab.2]
          rfl
        · cases h
    · cases h
  · rintro rfl
    cases c <;> rfl

theorem connectiveAt?_of_ne {g : Glyph} (h : ∀ c : Connective, g ≠ .plain c.sign)
    (r : List Glyph) : connectiveAt? (g :: r) = none := by
  cases hp : connectiveAt? (g :: r) with
  | none => rfl
  | some p => exact absurd (List.cons.inj (connectiveAt?_eq_some_iff.1 hp)).1 (h p.1)

theorem connectiveAt?_eq_none_iff {gs : List Glyph} :
    connectiveAt? gs = none ↔
      ∀ (c : Connective) (r : List Glyph), gs ≠ .plain c.sign :: .plain c.sign :: r := by
  simp only [Option.eq_none_iff_forall_ne_some, Prod.forall, ne_eq, connectiveAt?_eq_some_iff]

theorem cutAtConnective_here (c : Connective) (r : List Glyph) :
    cutAtConnective 0 (.plain c.sign :: .plain c.sign :: r) = some ([], c, r) := by
  rw [cutAtConnective, if_pos rfl, connectiveAt?_eq_some_iff.2 rfl]

theorem cutAtConnective_next {d : Nat} {g : Glyph} {r : List Glyph}
    (h : d = 0 → connectiveAt? (g :: r) = none) :
    cutAtConnective d (g :: r) =
      (cutAtConnective (depthAfter d g) r).map fun (before, c, after) ↦ (g :: before, c, after) := by
  have hn : (if d = 0 then connectiveAt? (g :: r) else none) = none := by
    split
    · rename_i hd
      exact h hd
    · rfl
  rw [cutAtConnective, hn]

theorem cutAtConnective_cases (d : Nat) (g : Glyph) (r : List Glyph) :
    (∃ (c : Connective) (after : List Glyph), d = 0 ∧
      g :: r = .plain c.sign :: .plain c.sign :: after) ∨
    (d = 0 → connectiveAt? (g :: r) = none) := by
  by_cases hd : d = 0
  · cases h : connectiveAt? (g :: r) with
    | none => exact .inr fun _ ↦ rfl
    | some p => exact .inl ⟨p.1, p.2, hd, connectiveAt?_eq_some_iff.1 h⟩
  · exact .inr fun h ↦ absurd h hd

theorem cutAtConnective_cons_eq_none {d : Nat} {g : Glyph} {r : List Glyph} :
    cutAtConnective d (g :: r) = none ↔
      (d = 0 → connectiveAt? (g :: r) = none) ∧ cutAtConnective (depthAfter d g) r = none := by
  obtain ⟨c, after, rfl, h⟩ | h := cutAtConnective_cases d g r
  · rw [h, cutAtConnective_here]
    simp [connectiveAt?_eq_some_iff.2 rfl]
  · rw [cutAtConnective_next h, Option.map_eq_none_iff]
    exact ⟨fun hr ↦ ⟨h, hr⟩, fun hr ↦ hr.2⟩

theorem hasConnective_eq_false_iff {cs : List Char} :
    hasConnective cs = false ↔ cutAtConnective 0 (glyphs cs) = none := by
  simp [hasConnective]

theorem cutAtConnective_some {d : Nat} {gs before after : List Glyph} {c : Connective}
    (h : cutAtConnective d gs = some (before, c, after)) :
    gs = before ++ .plain c.sign :: .plain c.sign :: after ∧ before.foldl depthAfter d = 0 ∧
      cutAtConnective d before = none := by
  induction gs generalizing d before with
  | nil => cases h
  | cons g r ih =>
    obtain ⟨c', after', rfl, hg⟩ | hn := cutAtConnective_cases d g r
    · rw [hg, cutAtConnective_here] at h
      cases h
      exact ⟨hg, rfl, rfl⟩
    · rw [cutAtConnective_next hn] at h
      obtain ⟨⟨before', c', after'⟩, hcut, heq⟩ := Option.map_eq_some_iff.1 h
      cases heq
      obtain ⟨rfl, hd, hb⟩ := ih hcut
      refine ⟨rfl, hd, cutAtConnective_cons_eq_none.2 ⟨fun h0 ↦ ?_, hb⟩⟩
      refine connectiveAt?_eq_none_iff.2 fun c r hg ↦ ?_
      -- the two signs would begin a connective of the longer text as well
      exact connectiveAt?_eq_none_iff.1 (hn h0) c _ (by rw [← List.cons_append, hg]; rfl)

theorem cutAtConnective_append {d : Nat} {a : List Glyph} (h : cutAtConnective d a = none)
    (hs : ∀ g ∈ a.getLast?, ∀ c : Connective, g ≠ .plain c.sign) (b : List Glyph) :
    cutAtConnective d (a ++ b) = (cutAtConnective (a.foldl depthAfter d) b).map
      fun (before, c, after) ↦ (a ++ before, c, after) := by
  induction a generalizing d with
  | nil => exact Option.map_id'.symm
  | cons g a ih =>
    obtain ⟨hg, ha⟩ := cutAtConnective_cons_eq_none.1 h
    have hseam : d = 0 → connectiveAt? (g :: (a ++ b)) = none := by
      intro hd
      cases a with
      | nil => exact connectiveAt?_of_ne (hs g rfl) _
      | cons g' a =>
        refine connectiveAt?_eq_none_iff.2 fun c r hp ↦ ?_
        obtain ⟨rfl, ht⟩ := List.cons.inj hp
        obtain ⟨rfl, -⟩ := List.cons.inj ht
        exact connectiveAt?_eq_none_iff.1 (hg hd) c a rfl
    have hs' : ∀ g' ∈ a.getLast?, ∀ c : Connective, g' ≠ .plain c.sign := by
      intro g' hg'
      refine hs g' ?_
      rw [List.getLast?_cons, Option.mem_def.1 hg']
      rfl
    rw [List.cons_append, cutAtConnective_next hseam, ih ha hs', Option.map_map]
    rfl

theorem cutAtConnective_inside {s t x : List Bracket} {m : List Glyph} (hx : x ≠ [])
    (h : openBrackets s m = some t) (b : List Glyph) :
    cutAtConnective (s ++ x).length (m ++ b) = (cutAtConnective (t ++ x).length b).map
      fun (before, c, after) ↦ (m ++ before, c, after) := by
  induction m generalizing s with
  | nil =>
    cases h
    exact Option.map_id'.symm
  | cons g m ih =>
    rw [openBrackets_cons] at h
    obtain ⟨u, hu, h⟩ := Option.bind_eq_some_iff.1 h
    have hd : (s ++ x).length ≠ 0 := by simp [hx]
    rw [List.cons_append, cutAtConnective_next fun h0 ↦ absurd h0 hd,
      depthAfter_bracketStep (bracketStep_frame hu x), ih h, Option.map_map]
    rfl

theorem cutAtConnective_concat {g : Glyph} (hg : ∀ c : Connective, g ≠ .plain c.sign) (d : Nat)
    (a : List Glyph) : cutAtConnective d (a ++ [g]) = none ↔ cutAtConnective d a = none := by
  induction a generalizing d with
  | nil => exact iff_of_true (cutAtConnective_cons_eq_none.2
      ⟨fun _ ↦ connectiveAt?_of_ne hg [], rfl⟩) rfl
  | cons x a ih =>
    have hx : connectiveAt? (x :: (a ++ [g])) = none ↔ connectiveAt? (x :: a) = none := by
      rw [connectiveAt?_eq_none_iff, connectiveAt?_eq_none_iff]
      cases a with
      | nil => simp [hg]
      | cons y a => simp
    rw [List.cons_append, cutAtConnective_cons_eq_none, cutAtConnective_cons_eq_none, ih, hx]

theorem cutAtConnective_bracket {m : List Glyph} (h : Balanced m) (b : Bracket) :
    cutAtConnective 0 (.plain b.opening :: m ++ [.plain b.closing]) = none := by
  have hopen : ∀ c : Connective, Glyph.plain b.opening ≠ .plain c.sign := by
    intro c
    cases b <;> cases c <;> decide
  have hclose : ∀ c : Connective, Glyph.plain b.closing ≠ .plain c.sign := by
    intro c
    cases b <;> cases c <;> decide
  have hdepth : depthAfter 0 (.plain b.opening) = ([] ++ [b]).length :=
    depthAfter_bracketStep (bracketStep_open (opens?_opening b) [])
  have hend : cutAtConnective ([] ++ [b]).length [.plain b.closing] = none :=
    cutAtConnective_cons_eq_none.2 ⟨fun _ ↦ connectiveAt?_of_ne hclose [], rfl⟩
  rw [List.cons_append, cutAtConnective_next fun _ ↦ connectiveAt?_of_ne hopen _, hdepth,
    cutAtConnective_inside (by simp) h, hend]
  rfl

theorem cutAtConnective_paren {m : List Glyph} (h : Balanced m) :
    cutAtConnective 0 (.plain '(' :: m ++ [.plain ')']) = none :=
  cutAtConnective_bracket h .round

section Blanks

variable {b : Char} (hb : isBlank b = true)

include hb

theorem plain_ne_sign_of_isBlank (c : Connective) : Glyph.plain b ≠ .plain c.sign := by
  rintro ⟨⟩
  cases c <;> exact absurd hb (by decide)

theorem cutAtConnective_blank_after (d : Nat) (cs : List Char) :
    cutAtConnective d (glyphs (cs ++ [b])) = none ↔ cutAtConnective d (glyphs cs) = none := by
  by_cases hd : Dangles cs
  · rw [glyphs_append_of_dangles hd, glyphs_of_dangles hd, List.dropLast_concat, glyphs_nil,
      cutAtConnective_concat (g := .escaped b) fun _ ↦ nofun,
      cutAtConnective_concat (g := .dangling) fun _ ↦ nofun]
  · rw [glyphs_append hd, glyphs_plain (ne_backslash_of_isBlank hb), glyphs_nil,
      cutAtConnective_concat (plain_ne_sign_of_isBlank hb)]

theorem last_ne_sign (cs : List Char) :
    ∀ g ∈ (glyphs (cs ++ [b])).getLast?, ∀ c : Connective, g ≠ .plain c.sign := by
  intro g hg c
  by_cases hd : Dangles cs
  · rw [glyphs_append_of_dangles hd, glyphs_nil, List.getLast?_concat] at hg
    cases hg
    exact nofun
  · rw [glyphs_append hd, glyphs_plain (ne_backslash_of_isBlank hb), glyphs_nil,
      List.getLast?_concat] at hg
    cases hg
    exact plain_ne_sign_of_isBlank hb c

end Blanks

theorem cutAtConnective_blanks_before {l : List Char} (hl : ∀ b ∈ l, isBlank b = true)
    (cs : List Char) :
    cutAtConnective 0 (glyphs (l ++ cs)) = none ↔ cutAtConnective 0 (glyphs cs) = none := by
  induction l with
  | nil => rfl
  | cons b l ih =>
    have hb := hl b (by simp)
    have hd : depthAfter 0 (.plain b) = 0 := by
      simp [depthAfter, opens?_plain_of_isBlank hb, closes?_plain_of_isBlank hb]
    rw [List.cons_append, glyphs_plain (ne_backslash_of_isBlank hb), cutAtConnective_cons_eq_none,
      hd, ih fun c hc ↦ hl c (by simp [hc])]
    exact and_iff_right fun _ ↦ connectiveAt?_of_ne (plain_ne_sign_of_isBlank hb) _

theorem cutAtConnective_blanks_after {r : List Char} (hr : ∀ b ∈ r, isBlank b = true)
    (cs : List Char) :
    cutAtConnective 0 (glyphs (cs ++ r)) = none ↔ cutAtConnective 0 (glyphs cs) = none := by
  induction r using List.reverseRecOn with
  | nil => rw [List.append_nil]
  | append_singleton r b ih =>
    rw [← List.append_assoc, cutAtConnective_blank_after (hr b (by simp)),
      ih fun c hc ↦ hr c (by simp [hc])]

theorem cutAtConnective_trim (cs : List Char) :
    cutAtConnective 0 (glyphs (trim cs)) = none ↔ cutAtConnective 0 (glyphs cs) = none := by
  obtain ⟨l, r, h, hl, hr⟩ := exists_trim cs
  conv_rhs => rw [h, cutAtConnective_blanks_after hr, cutAtConnective_blanks_before hl]

theorem balanced_of_cut {gs before after : List Glyph} {c : Connective} (hb : Balanced gs)
    (h : cutAtConnective 0 gs = some (before, c, after)) : Balanced before ∧ Balanced after := by
  obtain ⟨rfl, hd, -⟩ := cutAtConnective_some h
  rw [Balanced, openBrackets_append] at hb
  obtain ⟨s, hs, hb⟩ := Option.bind_eq_some_iff.1 hb
  have hlen := depth_openBrackets hs
  obtain rfl : s = [] := List.length_eq_zero_iff.1 (hlen.symm.trans hd)
  refine ⟨hs, ?_⟩
  rw [openBrackets_cons, bracketStep_sign, Option.bind_some, openBrackets_cons,
    bracketStep_sign] at hb
  exact hb

theorem segments_of_none {gs : List Glyph} (h : cutAtConnective 0 gs = none) (offset : Nat) :
    segments offset gs = ([⟨offset, gs⟩], []) := by
  rw [segments]
  split
  · rfl
  · rename_i h'
    cases h.symm.trans h'

theorem segments_of_some {gs before after : List Glyph} {c : Connective}
    (h : cutAtConnective 0 gs = some (before, c, after)) (offset : Nat) :
    segments offset gs =
      (⟨offset, before⟩ :: (segments (offset + width before + 2) after).1,
        c :: (segments (offset + width before + 2) after).2) := by
  rw [segments]
  split
  · rename_i h'
    cases h.symm.trans h'
  · rename_i h'
    cases h.symm.trans h'
    rfl

theorem length_segments (offset : Nat) (gs : List Glyph) :
    (segments offset gs).1.length = (segments offset gs).2.length + 1 := by
  induction offset, gs using segments.induct with
  | case1 offset gs h => rw [segments_of_none h]; rfl
  | case2 offset gs before c after h _ _ _ ih =>
    rw [segments_of_some h]
    exact congrArg (· + 1) ih

theorem segments_eq_nil_iff {offset : Nat} {gs : List Glyph} :
    (segments offset gs).2 = [] ↔ cutAtConnective 0 gs = none := by
  cases h : cutAtConnective 0 gs with
  | none => simp [segments_of_none h]
  | some p => simp [segments_of_some h]

theorem infix_of_mem_segments {offset : Nat} {gs : List Glyph} {s : Segment}
    (hs : s ∈ (segments offset gs).1) : s.glyphs <:+: gs := by
  induction offset, gs using segments.induct with
  | case1 offset gs h =>
    rw [segments_of_none h] at hs
    obtain rfl := List.mem_singleton.1 hs
    exact List.infix_rfl
  | case2 offset gs before c after h _ _ _ ih =>
    obtain ⟨rfl, -, -⟩ := cutAtConnective_some h
    rw [segments_of_some h] at hs
    obtain rfl | hs := List.mem_cons.1 hs
    · exact List.infix_append' [] _ _
    · refine (ih hs).trans ?_
      exact ⟨before ++ [.plain c.sign, .plain c.sign], [], by simp⟩

theorem segment_spec {cs : List Char} {gs : List Glyph} (hcs : glyphs cs = gs) (hb : Balanced gs)
    (offset : Nat) {s : Segment} (hs : s ∈ (segments offset gs).1) :
    glyphs (chars s.glyphs) = s.glyphs ∧ Balanced s.glyphs ∧ cutAtConnective 0 s.glyphs = none := by
  induction offset, gs using segments.induct generalizing cs with
  | case1 offset gs h =>
    rw [segments_of_none h] at hs
    obtain rfl := List.mem_singleton.1 hs
    exact ⟨by rw [← hcs, chars_glyphs], hb, h⟩
  | case2 offset gs before c after h _ _ _ ih =>
    obtain ⟨hgs, -, hn⟩ := cutAtConnective_some h
    obtain ⟨hbb, hba⟩ := balanced_of_cut hb h
    obtain ⟨hl, hr⟩ := glyphs_chars_of_append (hcs.trans hgs)
    rw [segments_of_some h] at hs
    obtain rfl | hs := List.mem_cons.1 hs
    · exact ⟨hl, hbb, hn⟩
    · exact ih (glyphs_chars_of_append (a := [.plain c.sign, .plain c.sign]) hr).2 hba hs

end Rulebook
