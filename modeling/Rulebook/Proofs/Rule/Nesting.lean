import Rulebook.Proofs.Text.Escaping
import Rulebook.Rule.Balance

namespace Rulebook

open Text

/-- The open brackets after a glyph, the innermost first. A closer must fit the innermost one. -/
def bracketStep (s : List Bracket) (g : Glyph) : Option (List Bracket) :=
  match opens? g with
  | some b => some (b :: s)
  | none =>
    match closes? g, s with
    | none, s => some s
    | some b, b' :: s => if b' = b then some s else none
    | some _, [] => none

def openBrackets (s : List Bracket) (gs : List Glyph) : Option (List Bracket) :=
  gs.foldlM bracketStep s

/-- Every bracket is closed by one of its kind, and nothing else is closed. -/
def Balanced (gs : List Glyph) : Prop := openBrackets [] gs = some []

theorem bracketStep_cases {s s' : List Bracket} {g : Glyph} (h : bracketStep s g = some s') :
    (∃ b, opens? g = some b ∧ s' = b :: s) ∨
    (∃ b, opens? g = none ∧ closes? g = some b ∧ s = b :: s') ∨
    (opens? g = none ∧ closes? g = none ∧ s' = s) := by
  unfold bracketStep at h
  cases ho : opens? g with
  | some b =>
    simp only [ho, Option.some.injEq] at h
    exact .inl ⟨b, rfl, h.symm⟩
  | none =>
    simp only [ho] at h
    split at h
    · rename_i hc
      exact .inr (.inr ⟨rfl, hc, (Option.some.inj h).symm⟩)
    · rename_i b b' s hc
      split at h
      · rename_i hb
        cases h
        exact .inr (.inl ⟨b, rfl, hc, by rw [hb]⟩)
      · cases h
    · cases h

theorem bracketStep_open {g : Glyph} {b : Bracket} (h : opens? g = some b) (s : List Bracket) :
    bracketStep s g = some (b :: s) := by
  simp only [bracketStep, h]

theorem bracketStep_close {g : Glyph} {b : Bracket} (ho : opens? g = none)
    (hc : closes? g = some b) (s : List Bracket) : bracketStep (b :: s) g = some s := by
  simp only [bracketStep, ho, hc, if_true]

theorem bracketStep_other {g : Glyph} (ho : opens? g = none) (hc : closes? g = none)
    (s : List Bracket) : bracketStep s g = some s := by
  simp only [bracketStep, ho, hc]

@[simp] theorem openBrackets_nil (s : List Bracket) : openBrackets s [] = some s := rfl

theorem openBrackets_cons (s : List Bracket) (g : Glyph) (gs : List Glyph) :
    openBrackets s (g :: gs) = (bracketStep s g).bind (openBrackets · gs) :=
  List.foldlM_cons

theorem openBrackets_append (s : List Bracket) (a b : List Glyph) :
    openBrackets s (a ++ b) = (openBrackets s a).bind (openBrackets · b) :=
  List.foldlM_append

theorem bracketStep_frame {s s' : List Bracket} {g : Glyph} (h : bracketStep s g = some s')
    (t : List Bracket) : bracketStep (s ++ t) g = some (s' ++ t) := by
  obtain ⟨b, ho, rfl⟩ | ⟨b, ho, hc, rfl⟩ | ⟨ho, hc, rfl⟩ := bracketStep_cases h
  · exact bracketStep_open ho _
  · exact bracketStep_close ho hc _
  · exact bracketStep_other ho hc _

theorem openBrackets_frame {s s' : List Bracket} {gs : List Glyph}
    (h : openBrackets s gs = some s') (t : List Bracket) :
    openBrackets (s ++ t) gs = some (s' ++ t) := by
  induction gs generalizing s with
  | nil => cases h; rfl
  | cons g gs ih =>
    rw [openBrackets_cons] at h ⊢
    obtain ⟨u, hu, h⟩ := Option.bind_eq_some_iff.1 h
    rw [bracketStep_frame hu t]
    exact ih h

theorem Balanced.openBrackets_eq {gs : List Glyph} (h : Balanced gs) (s : List Bracket) :
    openBrackets s gs = some s := openBrackets_frame h s

theorem opens?_opening (b : Bracket) : opens? (.plain b.opening) = some b := by cases b <;> rfl

theorem opens?_closing (b : Bracket) : opens? (.plain b.closing) = none := by cases b <;> rfl

theorem closes?_closing (b : Bracket) : closes? (.plain b.closing) = some b := by cases b <;> rfl

theorem opening_ne_backslash (b : Bracket) : b.opening ≠ '\\' := by cases b <;> decide

theorem closing_ne_backslash (b : Bracket) : b.closing ≠ '\\' := by cases b <;> decide

theorem glyphs_opening (b : Bracket) (cs : List Char) :
    glyphs (b.opening :: cs) = .plain b.opening :: glyphs cs :=
  glyphs_plain (opening_ne_backslash b) cs

theorem glyphs_closing (b : Bracket) (cs : List Char) :
    glyphs (b.closing :: cs) = .plain b.closing :: glyphs cs :=
  glyphs_plain (closing_ne_backslash b) cs

theorem opens?_eq_some_iff {g : Glyph} {b : Bracket} :
    opens? g = some b ↔ g = .plain b.opening := by
  constructor
  · intro h
    cases g with
    | plain c =>
      by_cases hround : c = '(' <;> by_cases hsquare : c = '[' <;> cases b <;>
        simp_all [opens?, Bracket.opening]
    | escaped c => cases h
    | dangling => cases h
  · rintro rfl
    exact opens?_opening b

theorem closes?_eq_some_iff {g : Glyph} {b : Bracket} :
    closes? g = some b ↔ g = .plain b.closing := by
  constructor
  · intro h
    cases g with
    | plain c =>
      by_cases hround : c = ')' <;> by_cases hsquare : c = ']' <;> cases b <;>
        simp_all [closes?, Bracket.closing]
    | escaped c => cases h
    | dangling => cases h
  · rintro rfl
    exact closes?_closing b

theorem bracketStep_eq_none_iff {s : List Bracket} {g : Glyph} :
    bracketStep s g = none ↔ ∃ b : Bracket, g = .plain b.closing ∧ s.head? ≠ some b := by
  constructor
  · intro h
    cases ho : opens? g with
    | some b => cases (bracketStep_open ho s).symm.trans h
    | none =>
      cases hc : closes? g with
      | none => cases (bracketStep_other ho hc s).symm.trans h
      | some b =>
        refine ⟨b, closes?_eq_some_iff.1 hc, fun hs ↦ ?_⟩
        obtain ⟨t, rfl⟩ := List.head?_eq_some_iff.1 hs
        cases (bracketStep_close ho hc t).symm.trans h
  · rintro ⟨b, rfl, hs⟩
    simp only [bracketStep, opens?_closing, closes?_closing]
    cases s with
    | nil => rfl
    | cons b' s => exact if_neg fun hb ↦ hs (congrArg some hb)

theorem Balanced.bracket {m : List Glyph} (h : Balanced m) (b : Bracket) :
    Balanced (.plain b.opening :: m ++ [.plain b.closing]) := by
  rw [Balanced, List.cons_append, openBrackets_cons, bracketStep_open (opens?_opening b),
    Option.bind_some, openBrackets_append, h.openBrackets_eq, Option.bind_some, openBrackets_cons,
    bracketStep_close (opens?_closing b) (closes?_closing b)]
  rfl

theorem Balanced.paren {m : List Glyph} (h : Balanced m) :
    Balanced (.plain '(' :: m ++ [.plain ')']) :=
  h.bracket .round

theorem foldlM_eq_none {α β : Type} {f : β → α → Option β} {b : β} {l : List α}
    (h : l.foldlM f b = none) :
    ∃ x a y b', l = x ++ a :: y ∧ x.foldlM f b = some b' ∧ f b' a = none := by
  induction l generalizing b with
  | nil => cases h
  | cons a l ih =>
    rw [List.foldlM_cons] at h
    cases hb : f b a with
    | none => exact ⟨[], a, l, b, rfl, rfl, hb⟩
    | some b' =>
      rw [hb] at h
      obtain ⟨x, a', y, b'', rfl, hx, ha'⟩ := ih h
      exact ⟨a :: x, a', y, b'', rfl, by rw [List.foldlM_cons, hb]; exact hx, ha'⟩

theorem depthAfter_bracketStep {s s' : List Bracket} {g : Glyph} (h : bracketStep s g = some s') :
    depthAfter s.length g = s'.length := by
  obtain ⟨b, ho, rfl⟩ | ⟨b, ho, hc, rfl⟩ | ⟨ho, hc, rfl⟩ := bracketStep_cases h
  · simp [depthAfter, ho]
  · simp [depthAfter, ho, hc]
  · simp [depthAfter, ho, hc]

theorem depth_openBrackets {s s' : List Bracket} {gs : List Glyph}
    (h : openBrackets s gs = some s') : gs.foldl depthAfter s.length = s'.length := by
  induction gs generalizing s with
  | nil => cases h; rfl
  | cons g gs ih =>
    rw [openBrackets_cons] at h
    obtain ⟨u, hu, h⟩ := Option.bind_eq_some_iff.1 h
    rw [List.foldl_cons, depthAfter_bracketStep hu, ih h]

theorem depth_openBrackets_add {s s' : List Bracket} {gs : List Glyph}
    (h : openBrackets s gs = some s') (k : Nat) :
    gs.foldl depthAfter (s.length + k) = s'.length + k := by
  have hframe := depth_openBrackets (openBrackets_frame h (List.replicate k .round))
  simpa using hframe

theorem foldl_depthAfter_ne_zero {gs a c : List Glyph} (h : Balanced gs) (hgs : gs = a ++ c) :
    a.foldl depthAfter 1 ≠ 0 := by
  rw [Balanced, hgs, openBrackets_append] at h
  obtain ⟨s, hs, -⟩ := Option.bind_eq_some_iff.1 h
  have hdepth := depth_openBrackets_add hs 1
  rw [List.length_nil, Nat.zero_add] at hdepth
  omega

theorem balance_append {o : List (Bracket × Nat)} {gs : List Glyph} {s : List Bracket}
    (h : openBrackets (o.map Prod.fst) gs = some s) (pos : Nat) : ∃ o', o'.map Prod.fst = s ∧
      ∀ base r, balance (o ++ base) pos (gs ++ r) = balance (o' ++ base) (pos + width gs) r := by
  induction gs generalizing o pos with
  | nil => exact ⟨o, Option.some.inj h, fun base r ↦ rfl⟩
  | cons g gs ih =>
    rw [openBrackets_cons] at h
    obtain ⟨t, ht, h⟩ := Option.bind_eq_some_iff.1 h
    have hstep : ∃ o₁, o₁.map Prod.fst = t ∧ ∀ base r,
        balance (o ++ base) pos (g :: r) = balance (o₁ ++ base) (pos + g.width) r := by
      obtain ⟨b, ho, rfl⟩ | ⟨b, ho, hc, hs⟩ | ⟨ho, hc, rfl⟩ := bracketStep_cases ht
      · refine ⟨(b, pos) :: o, rfl, fun base r ↦ ?_⟩
        simp only [balance, ho, List.cons_append]
      · obtain ⟨⟨b', p⟩, o₁, rfl, rfl, rfl⟩ := List.map_eq_cons_iff.1 hs
        refine ⟨o₁, rfl, fun base r ↦ ?_⟩
        simp only [balance, ho, hc, List.cons_append, if_true]
      · refine ⟨o, rfl, fun base r ↦ ?_⟩
        simp only [balance, ho, hc]
    obtain ⟨o₁, rfl, hone⟩ := hstep
    obtain ⟨o', ho', hrest⟩ := ih h (pos + g.width)
    refine ⟨o', ho', fun base r ↦ ?_⟩
    rw [List.cons_append, hone, hrest, width, Nat.add_assoc]

theorem Balanced.balance_append {gs : List Glyph} (h : Balanced gs) (o : List (Bracket × Nat))
    (pos : Nat) (r : List Glyph) : balance o pos (gs ++ r) = balance o (pos + width gs) r := by
  obtain ⟨o', ho', hrun⟩ := Rulebook.balance_append (o := []) h pos
  obtain rfl := List.map_eq_nil_iff.1 ho'
  exact hrun o r

theorem checkBalance_append {gs : List Glyph} {s : List Bracket}
    (h : openBrackets [] gs = some s) : ∃ o : List (Bracket × Nat), o.map Prod.fst = s ∧
      ∀ r, checkBalance (gs ++ r) = balance o (width gs) r := by
  obtain ⟨o, ho, hrun⟩ := balance_append (o := []) h 0
  refine ⟨o, ho, fun r ↦ ?_⟩
  have hr := hrun [] r
  rwa [List.append_nil, List.append_nil, Nat.zero_add] at hr

theorem balance_closing {o : List (Bracket × Nat)} {b : Bracket}
    (h : (o.map Prod.fst).head? ≠ some b) (pos : Nat) (r : List Glyph) :
    balance o pos (.plain b.closing :: r) = .error (.unbalanced b pos) := by
  simp only [balance, opens?_closing, closes?_closing]
  cases o with
  | nil => rfl
  | cons q o => exact if_neg fun hq ↦ h (congrArg some hq)

theorem checkBalance_eq_ok_iff {gs : List Glyph} : checkBalance gs = .ok () ↔ Balanced gs := by
  rw [Balanced]
  cases h : openBrackets [] gs with
  | none =>
    obtain ⟨x, g, y, s, rfl, hx, hg⟩ := foldlM_eq_none h
    obtain ⟨b, rfl, hs⟩ := bracketStep_eq_none_iff.1 hg
    obtain ⟨o, rfl, hrun⟩ := checkBalance_append hx
    rw [hrun, balance_closing hs]
    exact iff_of_false nofun nofun
  | some s =>
    obtain ⟨o, rfl, hrun⟩ := checkBalance_append h
    have hend := hrun []
    rw [List.append_nil] at hend
    rw [hend]
    cases o with
    | nil => exact iff_of_true rfl rfl
    | cons q o => exact iff_of_false nofun nofun

theorem checkBalance_of_open {gs : List Glyph} {b : Bracket} {s : List Bracket}
    (h : openBrackets [] gs = some (b :: s)) :
    ∃ p, checkBalance gs = .error (.unbalanced b p) := by
  obtain ⟨o, ho, hrun⟩ := checkBalance_append h
  have hend := hrun []
  rw [List.append_nil] at hend
  rw [hend]
  match o, ho with
  | (b', p) :: o, ho => cases ho; exact ⟨p, rfl⟩

section Blanks

variable {b : Char} (hb : isBlank b = true)

include hb

theorem opens?_plain_of_isBlank : opens? (.plain b) = none := by
  have h₁ : b ≠ '(' := by rintro rfl; exact absurd hb (by decide)
  have h₂ : b ≠ '[' := by rintro rfl; exact absurd hb (by decide)
  simp [opens?, h₁, h₂]

theorem closes?_plain_of_isBlank : closes? (.plain b) = none := by
  have h₁ : b ≠ ')' := by rintro rfl; exact absurd hb (by decide)
  have h₂ : b ≠ ']' := by rintro rfl; exact absurd hb (by decide)
  simp [closes?, h₁, h₂]

theorem bracketStep_blank (s : List Bracket) : bracketStep s (.plain b) = some s :=
  bracketStep_other (opens?_plain_of_isBlank hb) (closes?_plain_of_isBlank hb) s

theorem openBrackets_blank_after (s : List Bracket) (cs x : List Char) :
    openBrackets s (glyphs (cs ++ b :: x)) =
      (openBrackets s (glyphs cs)).bind (openBrackets · (glyphs x)) := by
  by_cases hd : Dangles cs
  · rw [glyphs_append_of_dangles hd, glyphs_of_dangles hd, List.dropLast_concat,
      openBrackets_append, openBrackets_append]
    cases openBrackets s (glyphs cs).dropLast with
    | none => rfl
    | some u => rfl
  · rw [glyphs_append hd, glyphs_plain (ne_backslash_of_isBlank hb), openBrackets_append]
    cases openBrackets s (glyphs cs) with
    | none => rfl
    | some u => exact (openBrackets_cons ..).trans (by rw [bracketStep_blank hb])

end Blanks

theorem openBrackets_blanks_after {r : List Char} (hr : ∀ b ∈ r, isBlank b = true)
    (s : List Bracket) (cs : List Char) :
    openBrackets s (glyphs (cs ++ r)) = openBrackets s (glyphs cs) := by
  induction r using List.reverseRecOn with
  | nil => rw [List.append_nil]
  | append_singleton r b ih =>
    rw [← List.append_assoc, openBrackets_blank_after (hr b (by simp)),
      ih fun c hc ↦ hr c (by simp [hc])]
    exact Option.bind_fun_some _

theorem openBrackets_blanks_before {l : List Char} (hl : ∀ b ∈ l, isBlank b = true)
    (s : List Bracket) (cs : List Char) :
    openBrackets s (glyphs (l ++ cs)) = openBrackets s (glyphs cs) := by
  have h := openBrackets_blanks_after hl s []
  rw [glyphs_append (not_dangles_of_isBlank hl), openBrackets_append]
  rw [List.nil_append] at h
  rw [h]
  rfl

theorem openBrackets_trim (s : List Bracket) (cs : List Char) :
    openBrackets s (glyphs (trim cs)) = openBrackets s (glyphs cs) := by
  obtain ⟨l, r, h, hl, hr⟩ := exists_trim cs
  conv_rhs => rw [h, openBrackets_blanks_after hr, openBrackets_blanks_before hl]

theorem balanced_trim {cs : List Char} : Balanced (glyphs (trim cs)) ↔ Balanced (glyphs cs) := by
  rw [Balanced, Balanced, openBrackets_trim]

end Rulebook
