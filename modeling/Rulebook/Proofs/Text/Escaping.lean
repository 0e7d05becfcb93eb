import Mathlib.Algebra.Ring.Parity
import Rulebook.Proofs.Text.Trimming
import Rulebook.Text.Glyph

namespace Rulebook.Text

/-- A text that ends in an odd run of backslashes: the last one escapes whatever is written next. -/
def Dangles (cs : List Char) : Prop := Odd (cs.reverse.takeWhile (· == '\\')).length

instance : DecidablePred Dangles := fun _ ↦ inferInstanceAs (Decidable (Odd _))

@[simp] theorem glyphs_nil : glyphs [] = [] := rfl

theorem glyphs_plain {c : Char} (hc : c ≠ '\\') (r : List Char) :
    glyphs (c :: r) = .plain c :: glyphs r := by
  cases r <;> simp only [glyphs, if_neg hc]

@[simp] theorem glyphs_escaped (d : Char) (r : List Char) :
    glyphs ('\\' :: d :: r) = .escaped d :: glyphs r := by
  rw [glyphs, if_pos rfl]

@[simp] theorem glyphs_dangling : glyphs ['\\'] = [.dangling] := by
  rw [glyphs, if_pos rfl]

/-- Texts are built from plain characters and escapes, and may end in a lone backslash. -/
theorem glyph_induction {P : List Char → Prop} (nil : P []) (dangling : P ['\\'])
    (escaped : ∀ d r, P r → P ('\\' :: d :: r)) (plain : ∀ c r, c ≠ '\\' → P r → P (c :: r))
    (cs : List Char) : P cs := by
  induction cs using glyphs.induct with
  | case1 => exact nil
  | case2 => exact dangling
  | case3 d r ih => exact escaped d r ih
  | case4 c r hc ih => exact plain c r hc ih

@[simp] theorem chars_nil : chars [] = [] := rfl

@[simp] theorem chars_cons (g : Glyph) (gs : List Glyph) : chars (g :: gs) = g.chars ++ chars gs :=
  List.flatMap_cons

@[simp] theorem chars_append (a b : List Glyph) : chars (a ++ b) = chars a ++ chars b :=
  List.flatMap_append

@[simp] theorem chars_glyphs (cs : List Char) : chars (glyphs cs) = cs := by
  induction cs using glyph_induction with
  | nil => rfl
  | dangling => rfl
  | escaped d r ih => simp [ih, Glyph.chars]
  | plain c r hc ih => simp [glyphs_plain hc, ih, Glyph.chars]

theorem dangles_append_cons {c : Char} (hc : c ≠ '\\') (a b : List Char) :
    Dangles (a ++ c :: b) ↔ Dangles b := by
  have h : ((a ++ c :: b).reverse.takeWhile (· == '\\')) = b.reverse.takeWhile (· == '\\') := by
    rw [List.reverse_append, List.reverse_cons, List.append_assoc, List.takeWhile_append]
    split
    · rename_i hall
      rw [List.singleton_append, List.takeWhile_cons_of_neg (by simpa using hc), List.append_nil,
        (List.takeWhile_prefix _).eq_of_length hall]
    · rfl
  rw [Dangles, Dangles, h]

theorem dangles_plain {c : Char} (hc : c ≠ '\\') (r : List Char) : Dangles (c :: r) ↔ Dangles r :=
  dangles_append_cons hc [] r

theorem not_dangles_nil : ¬ Dangles [] := by decide

theorem not_dangles_concat {c : Char} (hc : c ≠ '\\') (cs : List Char) : ¬ Dangles (cs ++ [c]) :=
  fun h ↦ not_dangles_nil ((dangles_append_cons hc cs []).1 h)

theorem dangles_escaped (d : Char) (r : List Char) : Dangles ('\\' :: d :: r) ↔ Dangles r := by
  by_cases hd : d = '\\'
  · subst hd
    rw [Dangles, Dangles, List.reverse_cons, List.reverse_cons, List.append_assoc,
      List.takeWhile_append]
    split
    · rename_i hall
      simp [hall, Nat.odd_add]
    · rfl
  · exact dangles_append_cons hd ['\\'] r

theorem dangles_iff (cs : List Char) : Dangles cs ↔ (glyphs cs).getLast? = some .dangling := by
  induction cs using glyph_induction with
  | nil => simp [not_dangles_nil]
  | dangling => exact iff_of_true (by decide) rfl
  | escaped d r ih =>
    rw [dangles_escaped, ih, glyphs_escaped, List.getLast?_cons]
    cases (glyphs r).getLast? <;> simp
  | plain c r hc ih =>
    rw [dangles_plain hc, ih, glyphs_plain hc, List.getLast?_cons]
    cases (glyphs r).getLast? <;> simp

theorem glyphs_append {a : List Char} (ha : ¬ Dangles a) (b : List Char) :
    glyphs (a ++ b) = glyphs a ++ glyphs b := by
  induction a using glyph_induction with
  | nil => rfl
  | dangling => exact absurd (by decide) ha
  | escaped d r ih =>
    rw [dangles_escaped] at ha
    simp only [List.cons_append, glyphs_escaped, ih ha]
  | plain c r hc ih =>
    rw [dangles_plain hc] at ha
    simp only [List.cons_append, glyphs_plain hc, ih ha]

theorem glyphs_append_of_dangles {a : List Char} (ha : Dangles a) (c : Char) (b : List Char) :
    glyphs (a ++ c :: b) = (glyphs a).dropLast ++ .escaped c :: glyphs b := by
  induction a using glyph_induction with
  | nil => exact absurd ha not_dangles_nil
  | dangling => simp
  | escaped d r ih =>
    rw [dangles_escaped] at ha
    have hne : glyphs r ≠ [] := fun h ↦ by simpa [h] using (dangles_iff r).1 ha
    simp only [List.cons_append, glyphs_escaped, ih ha, List.dropLast_cons_of_ne_nil hne]
  | plain d r hd ih =>
    rw [dangles_plain hd] at ha
    have hne : glyphs r ≠ [] := fun h ↦ by simpa [h] using (dangles_iff r).1 ha
    simp only [List.cons_append, glyphs_plain hd, ih ha, List.dropLast_cons_of_ne_nil hne]

theorem glyphs_of_dangles {cs : List Char} (h : Dangles cs) :
    glyphs cs = (glyphs cs).dropLast ++ [.dangling] := by
  obtain ⟨gs, hgs⟩ := List.getLast?_eq_some_iff.1 ((dangles_iff cs).1 h)
  rw [hgs, List.dropLast_concat]

theorem glyphs_chars_of_append {cs : List Char} {a b : List Glyph} (h : glyphs cs = a ++ b) :
    glyphs (chars a) = a ∧ glyphs (chars b) = b := by
  induction a generalizing cs with
  | nil =>
    rw [List.nil_append] at h
    exact ⟨rfl, by rw [← h, chars_glyphs]⟩
  | cons g a ih =>
    induction cs using glyph_induction with
    | nil => cases h
    | dangling =>
      obtain ⟨rfl, ht⟩ := List.cons.inj h
      obtain ⟨rfl, rfl⟩ := List.append_eq_nil_iff.1 ht.symm
      exact ⟨rfl, rfl⟩
    | escaped d r =>
      obtain ⟨rfl, ht⟩ := List.cons.inj ((glyphs_escaped d r).symm.trans h)
      obtain ⟨ha, hb⟩ := ih ht
      exact ⟨(glyphs_escaped d (chars a)).trans (congrArg _ ha), hb⟩
    | plain c r hc =>
      obtain ⟨rfl, ht⟩ := List.cons.inj ((glyphs_plain hc r).symm.trans h)
      obtain ⟨ha, hb⟩ := ih ht
      exact ⟨(glyphs_plain hc (chars a)).trans (congrArg _ ha), hb⟩

theorem ne_backslash_of_isBlank {b : Char} (hb : isBlank b = true) : b ≠ '\\' := by
  rintro rfl
  exact absurd hb (by decide)

theorem dangles_blanks_append {l : List Char} (hl : ∀ b ∈ l, isBlank b = true) (cs : List Char) :
    Dangles (l ++ cs) ↔ Dangles cs := by
  induction l with
  | nil => rfl
  | cons b l ih =>
    obtain ⟨hb, hl⟩ := List.forall_mem_cons.1 hl
    rw [List.cons_append, dangles_plain (ne_backslash_of_isBlank hb), ih hl]

theorem not_dangles_of_isBlank {l : List Char} (hl : ∀ b ∈ l, isBlank b = true) : ¬ Dangles l := by
  have h := dangles_blanks_append hl []
  rw [List.append_nil] at h
  exact h.not.2 not_dangles_nil

theorem not_dangles_append_blanks {m r : List Char} (hm : ¬ Dangles m)
    (hr : ∀ b ∈ r, isBlank b = true) : ¬ Dangles (m ++ r) := by
  obtain rfl | ⟨r, b, rfl⟩ := List.eq_nil_or_concat' r
  · rwa [List.append_nil]
  · rw [← List.append_assoc]
    exact not_dangles_concat (ne_backslash_of_isBlank (hr b (by simp))) _

end Rulebook.Text
