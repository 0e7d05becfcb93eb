import Rulebook.Proofs.Rule.Nesting
import Rulebook.Proofs.Text.Weight

namespace Rulebook

open Text

theorem openBrackets_inside {u s t : List Bracket} {b : Bracket} {gs : List Glyph}
    (h : openBrackets (u ++ b :: s) gs = some t) :
    (∃ v, openBrackets u gs = some v ∧ t = v ++ b :: s) ∨
    ∃ m r, gs = m ++ .plain b.closing :: r ∧ openBrackets u m = some [] ∧
      openBrackets s r = some t := by
  induction gs generalizing u with
  | nil => exact .inl ⟨u, rfl, (Option.some.inj h).symm⟩
  | cons g gs ih =>
    rw [openBrackets_cons] at h
    obtain ⟨w, hw, ht⟩ := Option.bind_eq_some_iff.1 h
    have hstep : (∃ v, bracketStep u g = some v ∧ w = v ++ b :: s) ∨
        u = [] ∧ g = .plain b.closing ∧ w = s := by
      obtain ⟨b', ho, rfl⟩ | ⟨b', ho, hc, hs⟩ | ⟨ho, hc, rfl⟩ := bracketStep_cases hw
      · exact .inl ⟨b' :: u, bracketStep_open ho u, rfl⟩
      · cases u with
        | nil =>
          obtain ⟨rfl, rfl⟩ := List.cons.inj hs
          exact .inr ⟨rfl, closes?_eq_some_iff.1 hc, rfl⟩
        | cons b'' u =>
          obtain ⟨rfl, rfl⟩ := List.cons.inj hs
          exact .inl ⟨u, bracketStep_close ho hc u, rfl⟩
      · exact .inl ⟨u, bracketStep_other ho hc u, rfl⟩
    obtain ⟨v, hv, rfl⟩ | ⟨rfl, rfl, rfl⟩ := hstep
    · obtain ⟨v', hopen, rfl⟩ | ⟨m, r, rfl, hm, hr⟩ := ih ht
      · exact .inl ⟨v', by rw [openBrackets_cons, hv]; exact hopen, rfl⟩
      · exact .inr ⟨g :: m, r, rfl, by rw [openBrackets_cons, hv]; exact hm, hr⟩
    · exact .inr ⟨[], gs, rfl, rfl, ht⟩

/-- Balanced texts are built from glyphs that are no brackets and from balanced texts in brackets. -/
theorem balanced_induction {P : (gs : List Glyph) → Balanced gs → Prop} (nil : P [] rfl)
    (other : ∀ g r h hr, opens? g = none → closes? g = none → P r hr → P (g :: r) h)
    (bracket : ∀ (b : Bracket) m r h hm hr, P m hm → P r hr →
      P (.plain b.opening :: m ++ .plain b.closing :: r) h)
    (gs : List Glyph) (h : Balanced gs) : P gs h := by
  induction hn : gs.length using Nat.strong_induction_on generalizing gs with
  | _ n ih =>
    cases gs with
    | nil => exact nil
    | cons g r =>
      have hrun := h
      rw [Balanced, openBrackets_cons] at hrun
      obtain ⟨s, hs, hr⟩ := Option.bind_eq_some_iff.1 hrun
      obtain ⟨b, ho, rfl⟩ | ⟨b, -, -, hnil⟩ | ⟨ho, hc, rfl⟩ := bracketStep_cases hs
      · obtain rfl := opens?_eq_some_iff.1 ho
        obtain ⟨v, -, hv⟩ | ⟨m, r', rfl, hm, hr'⟩ := openBrackets_inside (u := []) hr
        · cases v <;> cases hv
        · simp only [List.length_cons, List.length_append] at hn
          exact bracket b m r' h hm hr' (ih m.length (by omega) m hm rfl)
            (ih r'.length (by omega) r' hr' rfl)
      · cases hnil
      · simp only [List.length_cons] at hn
        exact other g r h hr ho hc (ih r.length (by omega) r hr rfl)

/-- Of the brackets that a text leaves open, the innermost is followed by a balanced text. -/
theorem exists_innermost {gs : List Glyph} {b : Bracket} {s : List Bracket}
    (h : openBrackets [] gs = some (b :: s)) :
    ∃ x y, gs = x ++ .plain b.opening :: y ∧ openBrackets [] x = some s ∧ Balanced y := by
  induction hn : gs.length using Nat.strong_induction_on generalizing gs b s with
  | _ n ih =>
    obtain rfl | ⟨gs, g, rfl⟩ := List.eq_nil_or_concat' gs
    · cases h
    · rw [List.length_append, List.length_singleton] at hn
      rw [openBrackets_append] at h
      obtain ⟨t, ht, h⟩ := Option.bind_eq_some_iff.1 h
      rw [openBrackets_cons] at h
      obtain ⟨u, hu, hnil⟩ := Option.bind_eq_some_iff.1 h
      obtain rfl : u = b :: s := Option.some.inj hnil
      obtain ⟨b', ho, hb⟩ | ⟨b', ho, hc, rfl⟩ | ⟨ho, hc, rfl⟩ := bracketStep_cases hu
      · obtain ⟨rfl, rfl⟩ := List.cons.inj hb
        exact ⟨gs, [], by rw [opens?_eq_some_iff.1 ho], ht, rfl⟩
      · -- the bracket that is closed here stands in the part behind the innermost one
        obtain ⟨x', y', rfl, hx', hy'⟩ := ih gs.length (by omega) ht rfl
        rw [List.length_append] at hn
        obtain ⟨x, y, rfl, hx, hy⟩ := ih x'.length (by omega) hx' rfl
        refine ⟨x, y ++ (.plain b'.opening :: y' ++ [.plain b'.closing]), ?_, hx, ?_⟩
        · rw [closes?_eq_some_iff.1 hc]
          simp
        · rw [Balanced, openBrackets_append, hy]
          exact hy'.bracket b'
      · obtain ⟨x, y, rfl, hx, hy⟩ := ih gs.length (by omega) ht rfl
        refine ⟨x, y ++ [g], by simp, hx, ?_⟩
        rw [Balanced, openBrackets_append, hy, Option.bind_some, openBrackets_cons,
          bracketStep_other ho hc]
        rfl

/-- A text without its escapes: every backslash goes, and with it the character that it protects. -/
def unescaped : List Char → List Char
  | [] => []
  | ['\\'] => []
  | '\\' :: _ :: r => unescaped r
  | c :: r => c :: unescaped r

def isBracket (c : Char) : Bool := ['(', ')', '[', ']'].contains c

def bracketWord (cs : List Char) : List Char := (unescaped cs).filter isBracket

/-- Words of properly nested brackets. -/
inductive Nested : List Char → Prop
  | nil : Nested []
  | bracket (b : Bracket) {m : List Char} (hm : Nested m) : Nested (b.opening :: m ++ [b.closing])
  | append {v w : List Char} (hv : Nested v) (hw : Nested w) : Nested (v ++ w)

/-- The innermost bracket that a word of brackets leaves open. -/
def LeavesOpen (w : List Char) (b : Bracket) : Prop := ∃ v n, w = v ++ b.opening :: n ∧ Nested n

def bracketChar? : Glyph → Option Char
  | .plain c => if isBracket c then some c else none
  | _ => none

theorem bracketWord_eq (cs : List Char) : bracketWord cs = (glyphs cs).filterMap bracketChar? := by
  induction cs using glyph_induction with
  | nil => rfl
  | dangling => rfl
  | escaped d r ih =>
    rw [glyphs_escaped, List.filterMap_cons]
    exact ih
  | plain c r hc ih =>
    have hcons : unescaped (c :: r) = c :: unescaped r := by
      rw [unescaped]
      · exact fun h _ ↦ hc h
      · exact fun _ _ h _ ↦ hc h
    rw [bracketWord, hcons, glyphs_plain hc, List.filter_cons, List.filterMap_cons, ← ih]
    cases h : isBracket c <;> simp [bracketChar?, h, bracketWord]

theorem bracketChar?_eq_none_iff {g : Glyph} :
    bracketChar? g = none ↔ opens? g = none ∧ closes? g = none := by
  cases g with
  | plain c =>
    by_cases h₁ : c = '(' <;> by_cases h₂ : c = '[' <;> by_cases h₃ : c = ')' <;>
      by_cases h₄ : c = ']' <;> simp [bracketChar?, isBracket, opens?, closes?, h₁, h₂, h₃, h₄]
  | escaped c => exact iff_of_true rfl ⟨rfl, rfl⟩
  | dangling => exact iff_of_true rfl ⟨rfl, rfl⟩

theorem bracketChar?_eq_some {g : Glyph} {c : Char} (h : bracketChar? g = some c) :
    g = .plain c := by
  cases g with
  | plain d =>
    simp only [bracketChar?, Option.ite_none_right_eq_some, Option.some.injEq] at h
    rw [h.2]
  | escaped d => cases h
  | dangling => cases h

theorem bracketChar?_opening (b : Bracket) : bracketChar? (.plain b.opening) = some b.opening := by
  cases b <;> rfl

theorem bracketChar?_closing (b : Bracket) : bracketChar? (.plain b.closing) = some b.closing := by
  cases b <;> rfl

theorem openBrackets_bracketChars (s : List Bracket) (gs : List Glyph) :
    openBrackets s ((gs.filterMap bracketChar?).map .plain) = openBrackets s gs := by
  induction gs generalizing s with
  | nil => rfl
  | cons g gs ih =>
    rw [List.filterMap_cons]
    cases h : bracketChar? g with
    | none =>
      obtain ⟨ho, hc⟩ := bracketChar?_eq_none_iff.1 h
      rw [openBrackets_cons, bracketStep_other ho hc]
      exact ih s
    | some c =>
      rw [bracketChar?_eq_some h, List.map_cons, openBrackets_cons, openBrackets_cons]
      simp only [ih]

theorem Nested.balanced {w : List Char} (h : Nested w) : Balanced (w.map .plain) := by
  induction h with
  | nil => rfl
  | bracket b _ ih =>
    have hb := ih.bracket b
    rwa [← List.map_singleton, ← List.map_cons, ← List.map_append] at hb
  | append _ _ hv hw =>
    rw [List.map_append, Balanced, openBrackets_append, hv]
    exact hw

theorem Balanced.nested {gs : List Glyph} (h : Balanced gs) :
    Nested (gs.filterMap bracketChar?) := by
  induction gs, h using balanced_induction with
  | nil => exact .nil
  | other g r _ _ ho hc ih => rwa [List.filterMap_cons_none (bracketChar?_eq_none_iff.2 ⟨ho, hc⟩)]
  | bracket b m r _ _ _ hm hr =>
    have hword := (hm.bracket b).append hr
    rw [List.filterMap_append, List.filterMap_cons_some (bracketChar?_opening b),
      List.filterMap_cons_some (bracketChar?_closing b)]
    simpa using hword

theorem balanced_iff_nested {cs : List Char} : Balanced (glyphs cs) ↔ Nested (bracketWord cs) := by
  rw [bracketWord_eq]
  refine ⟨Balanced.nested, fun h ↦ ?_⟩
  rw [Balanced, ← openBrackets_bracketChars]
  exact h.balanced

theorem leavesOpen_iff {cs : List Char} {s : List Bracket} (h : openBrackets [] (glyphs cs) = some s)
    (b : Bracket) : LeavesOpen (bracketWord cs) b ↔ s.head? = some b := by
  rw [bracketWord_eq]
  constructor
  · rintro ⟨v, n, hw, hn⟩
    rw [← openBrackets_bracketChars, hw, List.map_append, List.map_cons, openBrackets_append] at h
    obtain ⟨t, -, h⟩ := Option.bind_eq_some_iff.1 h
    rw [openBrackets_cons, bracketStep_open (opens?_opening b), Option.bind_some,
      hn.balanced.openBrackets_eq] at h
    rw [← Option.some.inj h]
    rfl
  · intro hb
    obtain ⟨t, rfl⟩ := List.head?_eq_some_iff.1 hb
    obtain ⟨x, y, hgs, -, hy⟩ := exists_innermost h
    refine ⟨x.filterMap bracketChar?, y.filterMap bracketChar?, ?_, hy.nested⟩
    rw [hgs, List.filterMap_append, List.filterMap_cons_some (bracketChar?_opening b)]

/-- At a place of a text stands an unescaped bracket that closes something else than the innermost
open one. -/
structure ClosesWrong (cs before : List Char) (b : Bracket) : Prop where
  stands : before ++ [b.closing] <+: cs
  unescaped : ¬ Dangles before
  misfit : ¬ LeavesOpen (bracketWord before) b

/-- The leftmost bracket that closes something else than the innermost open one. -/
structure ClosesWrongFirst (cs before : List Char) (b : Bracket) : Prop extends
    ClosesWrong cs before b where
  first : ∀ before' b', ClosesWrong cs before' b' → before.length ≤ before'.length

/-- The last bracket that a text leaves open, all brackets behind it being closed. -/
structure StaysOpenLast (cs before : List Char) (b : Bracket) : Prop where
  stands : ∃ after, cs = before ++ b.opening :: after ∧ Nested (bracketWord after)
  unescaped : ¬ Dangles before

theorem not_dangles_of_glyphs_eq {cs : List Char} {x y : List Glyph} {g : Glyph}
    (h : glyphs cs = x ++ g :: y) : ¬ Dangles (chars x) := by
  intro hd
  have hx := (glyphs_chars_of_append h).1
  have hdangling := glyphs_of_dangles hd
  obtain ⟨c, r, hg⟩ : ∃ c r, g.chars ++ chars y = c :: r := by cases g <;> exact ⟨_, _, rfl⟩
  have hcs : cs = chars x ++ c :: r := by
    rw [← hg, ← chars_cons, ← chars_append, ← h, chars_glyphs]
  rw [hcs, glyphs_append_of_dangles hd] at h
  rw [hx] at h hdangling
  conv_rhs at h => rw [hdangling, List.append_assoc]
  cases (List.cons.inj (List.append_cancel_left h)).1

theorem exists_closesWrong {cs : List Char} (h : openBrackets [] (glyphs cs) = none) :
    ∃ before b, ClosesWrong cs before b ∧ ∃ s, openBrackets [] (glyphs before) = some s := by
  obtain ⟨x, g, y, s, hgs, hx, hg⟩ := foldlM_eq_none h
  obtain ⟨b, rfl, hs⟩ := bracketStep_eq_none_iff.1 hg
  have hx' : openBrackets [] (glyphs (chars x)) = some s := by
    rw [(glyphs_chars_of_append hgs).1]
    exact hx
  refine ⟨chars x, b, ⟨?_, not_dangles_of_glyphs_eq hgs, ?_⟩, s, hx'⟩
  · refine ⟨chars y, ?_⟩
    rw [← chars_glyphs cs, hgs, chars_append, chars_cons]
    simp [Glyph.chars]
  · rwa [leavesOpen_iff hx']

theorem not_closesWrong {cs : List Char} {s : List Bracket}
    (h : openBrackets [] (glyphs cs) = some s) (before : List Char) (b : Bracket) :
    ¬ ClosesWrong cs before b := by
  rintro ⟨⟨after, rfl⟩, hd, hmisfit⟩
  rw [List.append_assoc, glyphs_append hd, List.singleton_append, glyphs_closing,
    openBrackets_append] at h
  obtain ⟨t, ht, h⟩ := Option.bind_eq_some_iff.1 h
  rw [openBrackets_cons] at h
  obtain ⟨u, hu, -⟩ := Option.bind_eq_some_iff.1 h
  rw [leavesOpen_iff ht] at hmisfit
  cases hu.symm.trans (bracketStep_eq_none_iff.2 ⟨b, rfl, hmisfit⟩)

theorem exists_openBrackets_iff {cs : List Char} :
    (∃ s, openBrackets [] (glyphs cs) = some s) ↔ ∀ before b, ¬ ClosesWrong cs before b := by
  refine ⟨fun ⟨s, hs⟩ ↦ not_closesWrong hs, fun h ↦ ?_⟩
  rw [← Option.isSome_iff_exists, Option.isSome_iff_ne_none]
  intro hnone
  obtain ⟨before, b, hwrong, -⟩ := exists_closesWrong hnone
  exact h before b hwrong

section Fault

variable {cs before : List Char} {b : Bracket}

theorem ClosesWrong.of_prefix {ds : List Char} (h : ClosesWrong cs before b) (hcs : cs <+: ds) :
    ClosesWrong ds before b := ⟨h.stands.trans hcs, h.unescaped, h.misfit⟩

theorem ClosesWrongFirst.exists_openBrackets (h : ClosesWrongFirst cs before b) :
    ∃ s, openBrackets [] (glyphs before) = some s := by
  refine exists_openBrackets_iff.2 fun before' b' hwrong ↦ ?_
  have hle := h.first before' b' (hwrong.of_prefix ((List.prefix_append _ _).trans h.stands))
  have hlt := hwrong.stands.length_le
  rw [List.length_append, List.length_singleton] at hlt
  omega

theorem exists_closesWrongFirst (h : openBrackets [] (glyphs cs) = none) :
    ∃ before b, ClosesWrongFirst cs before b := by
  obtain ⟨before, b, hwrong, s, hs⟩ := exists_closesWrong h
  refine ⟨before, b, hwrong, fun before' b' hwrong' ↦ Nat.le_of_not_lt fun hlt ↦ ?_⟩
  have hbefore : before' ++ [b'.closing] <+: before :=
    List.prefix_of_prefix_length_le hwrong'.stands ((List.prefix_append _ _).trans hwrong.stands)
      (by rwa [List.length_append])
  exact not_closesWrong hs before' b' ⟨hbefore, hwrong'.unescaped, hwrong'.misfit⟩

theorem ClosesWrongFirst.checkBalance_eq (h : ClosesWrongFirst cs before b) :
    checkBalance (glyphs cs) = .error (.unbalanced b (size before)) := by
  obtain ⟨s, hs⟩ := h.exists_openBrackets
  have hmisfit := mt (leavesOpen_iff hs b).2 h.misfit
  obtain ⟨after, rfl⟩ := h.stands
  obtain ⟨o, rfl, hrun⟩ := checkBalance_append hs
  rw [List.append_assoc, glyphs_append h.unescaped, List.singleton_append, glyphs_closing,
    hrun, balance_closing hmisfit, width_eq_size, chars_glyphs]

theorem StaysOpenLast.checkBalance_eq (h : StaysOpenLast cs before b)
    (hnone : ∀ before b, ¬ ClosesWrong cs before b) :
    checkBalance (glyphs cs) = .error (.unbalanced b (size before)) := by
  obtain ⟨after, rfl, hafter⟩ := h.stands
  obtain ⟨s, hs⟩ := exists_openBrackets_iff.2 fun before' b' (hwrong : ClosesWrong before _ _) ↦
    hnone before' b' (hwrong.of_prefix (List.prefix_append _ _))
  obtain ⟨o, rfl, hrun⟩ := checkBalance_append hs
  have hclosed := (balanced_iff_nested.2 hafter).balance_append
  rw [glyphs_append h.unescaped, glyphs_opening, hrun, width_eq_size, chars_glyphs]
  simp only [balance, opens?_opening]
  rw [← List.append_nil (glyphs after), hclosed]
  rfl

theorem exists_staysOpenLast {s : List Bracket} (h : openBrackets [] (glyphs cs) = some (b :: s)) :
    ∃ before, StaysOpenLast cs before b := by
  obtain ⟨x, y, hgs, -, hy⟩ := exists_innermost h
  refine ⟨chars x, ⟨chars y, ?_, ?_⟩, not_dangles_of_glyphs_eq hgs⟩
  · rw [← chars_glyphs cs, hgs, chars_append, chars_cons]
    rfl
  · have hafter := glyphs_chars_of_append (a := [.plain b.opening]) (glyphs_chars_of_append hgs).2
    rwa [← balanced_iff_nested, hafter.2]

end Fault

/-- The check of brackets accepts the texts whose brackets form a nested word, and no others. What
it reports is the leftmost bracket that closes something else than the innermost open one or, if
there is none, the last bracket that is left open; its place is counted in bytes. -/
theorem checkBalance_exact (t : String) :
    (checkBalance (glyphs t.toList) = .ok () ↔ Nested (bracketWord t.toList)) ∧
    ∀ e, checkBalance (glyphs t.toList) = .error e ↔
      ∃ b before, e = .unbalanced b (String.ofList before).utf8ByteSize ∧
        (ClosesWrongFirst t.toList before b ∨
          (∀ before b, ¬ ClosesWrong t.toList before b) ∧ StaysOpenLast t.toList before b) := by
  refine ⟨checkBalance_eq_ok_iff.trans balanced_iff_nested, fun e ↦ ⟨fun h ↦ ?_, ?_⟩⟩
  · cases hopen : openBrackets [] (glyphs t.toList) with
    | none =>
      obtain ⟨before, b, hfirst⟩ := exists_closesWrongFirst hopen
      rw [hfirst.checkBalance_eq] at h
      cases h
      exact ⟨b, before, by rw [utf8ByteSize_ofList], .inl hfirst⟩
    | some s =>
      cases s with
      | nil => cases (checkBalance_eq_ok_iff.2 hopen).symm.trans h
      | cons b s =>
        obtain ⟨before, hlast⟩ := exists_staysOpenLast hopen
        have hnone := not_closesWrong hopen
        rw [hlast.checkBalance_eq hnone] at h
        cases h
        exact ⟨b, before, by rw [utf8ByteSize_ofList], .inr ⟨hnone, hlast⟩⟩
  · rintro ⟨b, before, rfl, hfirst | ⟨hnone, hlast⟩⟩
    · rw [utf8ByteSize_ofList, hfirst.checkBalance_eq]
    · rw [utf8ByteSize_ofList, hlast.checkBalance_eq hnone]

example : checkBalance (glyphs "é[(\\)]".toList) = .error (.unbalanced .square 6) := by
  cbv

end Rulebook
