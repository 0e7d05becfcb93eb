import Rulebook.Proofs.Rule.Nesting
import Rulebook.Rule.Segment

namespace Rulebook

open Text

/-- A text that stands in one matched pair of parentheses. -/
def Enclosed (gs : List Glyph) : Prop := ∃ m, Balanced m ∧ gs = .plain '(' :: m ++ [.plain ')']

theorem closes?_eq_round {g : Glyph} : closes? g = some .round ↔ g = .plain ')' :=
  closes?_eq_some_iff

theorem closes?_of_opens? {g : Glyph} {b : Bracket} (h : opens? g = some b) : closes? g = none := by
  rw [opens?_eq_some_iff.1 h]
  cases b <;> rfl

theorem balanced_concat_cons {s t : List Bracket} {g : Glyph} {gs : List Glyph}
    (hg : bracketStep s g = some t) (hs : s = [] → g ≠ .plain ')') :
    (∃ m, g :: gs = m ++ [.plain ')'] ∧ openBrackets s m = some []) ↔
      ∃ m, gs = m ++ [.plain ')'] ∧ openBrackets t m = some [] := by
  constructor
  · rintro ⟨_ | ⟨g', m⟩, hm, ho⟩
    · cases hm
      exact absurd rfl (hs (Option.some.inj ho))
    · obtain ⟨rfl, rfl⟩ := List.cons.inj hm
      rw [openBrackets_cons, hg] at ho
      exact ⟨m, rfl, ho⟩
  · rintro ⟨m, rfl, ho⟩
    exact ⟨g :: m, rfl, by rw [openBrackets_cons, hg]; exact ho⟩

theorem closesAtEnd_iff {s : List Bracket} {gs : List Glyph}
    (h : openBrackets (s ++ [.round]) gs = some []) :
    closesAtEnd (s.count .round) gs = true ↔
      ∃ m, gs = m ++ [.plain ')'] ∧ openBrackets s m = some [] := by
  induction gs generalizing s with
  | nil => simp at h
  | cons g gs ih =>
    rw [openBrackets_cons] at h
    obtain ⟨u, hu, h⟩ := Option.bind_eq_some_iff.1 h
    obtain ⟨b, ho, rfl⟩ | ⟨b, ho, hc, hs⟩ | ⟨ho, hc, rfl⟩ := bracketStep_cases hu
    · have hc := closes?_of_opens? ho
      have hne : g ≠ .plain ')' := fun hg ↦ by rw [hg] at ho; cases ho
      rw [balanced_concat_cons (bracketStep_open ho s) fun _ ↦ hne, ← ih (s := b :: s) h]
      cases b <;> simp [closesAtEnd, ho, hc]
    · cases s with
      | nil =>
        -- the outermost parenthesis is closed here, so nothing may follow
        obtain ⟨rfl, rfl⟩ := List.cons.inj hs
        obtain rfl := closes?_eq_round.1 hc
        constructor
        · intro hend
          obtain rfl : gs = [] := by simpa [closesAtEnd, hc] using hend
          exact ⟨[], rfl, rfl⟩
        · rintro ⟨_ | ⟨g', m⟩, hm, ho'⟩
          · obtain rfl := (List.cons.inj hm).2
            simp [closesAtEnd, hc]
          · obtain ⟨rfl, -⟩ := List.cons.inj hm
            cases ho'
      | cons b' s =>
        obtain ⟨rfl, rfl⟩ := List.cons.inj hs
        rw [balanced_concat_cons (bracketStep_close ho hc s) (fun hs ↦ nomatch hs), ← ih h]
        cases b' <;> simp [closesAtEnd, ho, hc]
    · have hne : g ≠ .plain ')' := fun hg ↦ by rw [hg] at hc; cases hc
      rw [balanced_concat_cons (bracketStep_other ho hc s) fun _ ↦ hne, ← ih h]
      simp [closesAtEnd, ho, hc]

theorem closesAtEnd_zero_iff {gs : List Glyph} (h : Balanced (.plain '(' :: gs)) :
    closesAtEnd 0 gs = true ↔ ∃ m, gs = m ++ [.plain ')'] ∧ Balanced m :=
  closesAtEnd_iff (s := []) h

theorem glyphs_paren {m : List Char} (hd : ¬ Dangles m) :
    glyphs ('(' :: m ++ [')']) = .plain '(' :: glyphs m ++ [.plain ')'] := by
  rw [List.cons_append, glyphs_plain (by decide), glyphs_append hd, glyphs_plain (by decide)]
  rfl

theorem enclosed_paren {m : List Char} (hd : ¬ Dangles m) (hb : Balanced (glyphs m)) :
    Enclosed (glyphs ('(' :: m ++ [')'])) := ⟨glyphs m, hb, glyphs_paren hd⟩

theorem Enclosed.exists_chars {cs : List Char} (h : Enclosed (glyphs cs)) :
    ∃ m, cs = '(' :: m ++ [')'] ∧ ¬ Dangles m ∧ Balanced (glyphs m) := by
  obtain ⟨gs, hb, hgs⟩ := h
  have hcs : cs = '(' :: chars gs ++ [')'] := by
    rw [← chars_glyphs cs, hgs]
    simp [Glyph.chars]
  have hm : glyphs (chars gs) = gs :=
    (glyphs_chars_of_append (a := [.plain '('])
      (glyphs_chars_of_append (a := .plain '(' :: gs) hgs).1).2
  refine ⟨chars gs, hcs, fun hd ↦ ?_, by rwa [hm]⟩
  rw [hcs, List.cons_append, glyphs_plain (by decide), glyphs_append_of_dangles hd, hm] at hgs
  have hlast := congrArg List.getLast? hgs
  simp [List.getLast?_cons] at hlast

theorem not_enclosed_append {a b : List Glyph} (ha : Balanced a) (hne : a ≠ []) (hb : b ≠ []) :
    ¬ Enclosed (a ++ b) := by
  rintro ⟨m, hm, h⟩
  obtain _ | ⟨g, a⟩ := a
  · exact hne rfl
  obtain ⟨rfl, ht⟩ := List.cons.inj h
  have hpre : a <+: m := by
    refine List.prefix_of_prefix_length_le ⟨b, ht⟩ (List.prefix_append m _) ?_
    have hlen := congrArg List.length ht
    have := List.length_pos_of_ne_nil hb
    simp only [List.append_eq, List.length_append, List.length_singleton] at hlen
    omega
  obtain ⟨m', rfl⟩ := hpre
  rw [Balanced, openBrackets_append] at hm
  obtain ⟨u, hu, -⟩ := Option.bind_eq_some_iff.1 hm
  have hopen := openBrackets_frame hu [.round]
  rw [Balanced, openBrackets_cons, bracketStep_open rfl, Option.bind_some] at ha
  cases List.append_eq_nil_iff.1 (Option.some.inj (hopen.symm.trans ha)) |>.2

theorem unwrap_nil {cs : List Char} (h : trim cs = []) : unwrap cs = [] := by
  rw [unwrap]
  split
  · rfl
  · rename_i h'
    cases h.symm.trans h'

theorem unwrap_cons {cs r : List Char} {c : Char} (h : trim cs = c :: r) :
    unwrap cs = if c = '(' ∧ closesAtEnd 0 (glyphs r) then unwrap r.dropLast else c :: r := by
  rw [unwrap]
  split
  · rename_i h'
    cases h.symm.trans h'
  · rename_i h'
    cases h.symm.trans h'
    rfl

theorem unwrap_cases {cs : List Char} (h : Balanced (glyphs cs)) :
    (unwrap cs = trim cs ∧ ¬ Enclosed (glyphs (trim cs))) ∨
    ∃ m, trim cs = '(' :: m ++ [')'] ∧ ¬ Dangles m ∧ Balanced (glyphs m) ∧
      unwrap cs = unwrap m := by
  have hb := balanced_trim.2 h
  by_cases he : Enclosed (glyphs (trim cs))
  · obtain ⟨m, hm, hd, hbm⟩ := he.exists_chars
    refine .inr ⟨m, hm, hd, hbm, ?_⟩
    have hr : glyphs (m ++ [')']) = glyphs m ++ [.plain ')'] := by
      rw [glyphs_append hd, glyphs_plain (by decide)]
      rfl
    have hend : closesAtEnd 0 (glyphs (m ++ [')'])) = true := by
      rw [closesAtEnd_zero_iff (by rwa [hm, List.cons_append, glyphs_plain (by decide)] at hb)]
      exact ⟨_, hr, hbm⟩
    rw [unwrap_cons (hm.trans List.cons_append), if_pos ⟨rfl, hend⟩, List.dropLast_concat]
  · refine .inl ⟨?_, he⟩
    cases ht : trim cs with
    | nil => exact unwrap_nil ht
    | cons c r =>
      rw [unwrap_cons ht, if_neg]
      rintro ⟨rfl, hend⟩
      rw [ht, glyphs_plain (by decide)] at hb he
      obtain ⟨m, hm, hbm⟩ := (closesAtEnd_zero_iff hb).1 hend
      exact he ⟨m, hbm, by rw [hm, List.cons_append]⟩

theorem unwrap_eq_self {cs : List Char} (hb : Balanced (glyphs cs)) (ht : trim cs = cs)
    (he : ¬ Enclosed (glyphs cs)) : unwrap cs = cs := by
  obtain ⟨h, -⟩ | ⟨m, hm, hd, hbm, -⟩ := unwrap_cases hb
  · exact h.trans ht
  · rw [ht] at hm
    exact absurd (hm ▸ enclosed_paren hd hbm) he

/-- What holds of a trimmed text that is not enclosed, and of an enclosed text whenever it holds of
what stands between the parentheses, holds of every balanced text. -/
theorem unwrap_induction {P : (cs : List Char) → Balanced (glyphs cs) → Prop}
    (bare : ∀ cs hb, unwrap cs = trim cs → ¬ Enclosed (glyphs (trim cs)) → P cs hb)
    (paren : ∀ cs hb m hbm, trim cs = '(' :: m ++ [')'] → ¬ Dangles m → unwrap cs = unwrap m →
      P m hbm → P cs hb) (cs : List Char) (hb : Balanced (glyphs cs)) : P cs hb := by
  induction hn : cs.length using Nat.strong_induction_on generalizing cs with
  | _ n ih =>
    obtain ⟨hu, he⟩ | ⟨m, hm, hd, hbm, hu⟩ := unwrap_cases hb
    · exact bare cs hb hu he
    · refine paren cs hb m hbm hm hd hu (ih m.length ?_ m hbm rfl)
      have hlen := length_trim_le cs
      rw [hm] at hlen
      simp only [List.cons_append, List.length_cons, List.length_append] at hlen
      omega

theorem unwrap_spec {cs : List Char} (h : Balanced (glyphs cs)) :
    Balanced (glyphs (unwrap cs)) ∧ trim (unwrap cs) = unwrap cs ∧
      ¬ Enclosed (glyphs (unwrap cs)) := by
  induction cs, h using unwrap_induction with
  | bare cs hb hu he =>
    rw [hu]
    exact ⟨balanced_trim.2 hb, trim_trim cs, he⟩
  | paren cs hb m hbm hm hd hu ih => rwa [hu]

theorem unwrap_unwrap {cs : List Char} (h : Balanced (glyphs cs)) :
    unwrap (unwrap cs) = unwrap cs := by
  obtain ⟨hb, ht, he⟩ := unwrap_spec h
  exact unwrap_eq_self hb ht he

theorem trim_paren (m : List Char) : trim ('(' :: m ++ [')']) = '(' :: m ++ [')'] := by
  refine trim_eq_self_iff.2 ⟨fun c hc ↦ ?_, fun c hc ↦ ?_⟩
  · cases hc
    decide
  · rw [List.getLast?_concat] at hc
    cases hc
    decide

theorem unwrap_paren {m : List Char} (hd : ¬ Dangles m) (hb : Balanced (glyphs m)) :
    unwrap ('(' :: m ++ [')']) = unwrap m := by
  have hbp : Balanced (glyphs ('(' :: m ++ [')'])) := glyphs_paren hd ▸ hb.paren
  obtain ⟨-, he⟩ | ⟨m', hm, -, -, hu⟩ := unwrap_cases hbp
  · rw [trim_paren] at he
    exact absurd (enclosed_paren hd hb) he
  · rw [trim_paren] at hm
    rw [hu, List.append_cancel_right (List.cons.inj hm).2]

end Rulebook
