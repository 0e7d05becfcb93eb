import Mathlib
import Rulebook.Proofs.Rule.Brackets
import Rulebook.Proofs.Slicing.Rule

namespace Rulebook

open Text

/-- Around a stretch of a text stand a bracket and the one that closes it. -/
structure Paired (b : Bracket) (cs before inside after : List Char) : Prop where
  text_eq : cs = before ++ b.opening :: inside ++ b.closing :: after
  opens : ¬ Dangles before
  closes : ¬ Dangles inside
  nested : Nested (bracketWord inside)

/-- The white space and the parentheses in front of a text. Layers are listed from outside, each
with the white space before its first and after its second parenthesis. -/
def openingSide (layers : List (List Char × List Char)) : List Char :=
  layers.flatMap fun layer ↦ layer.1 ++ ['(']

def closingSide (layers : List (List Char × List Char)) : List Char :=
  layers.reverse.flatMap fun layer ↦ ')' :: layer.2

@[simp] theorem openingSide_nil : openingSide [] = [] := rfl

@[simp] theorem closingSide_nil : closingSide [] = [] := rfl

@[simp] theorem openingSide_cons (w : List Char × List Char)
    (layers : List (List Char × List Char)) :
    openingSide (w :: layers) = w.1 ++ '(' :: openingSide layers := by
  simp [openingSide]

@[simp] theorem closingSide_cons (w : List Char × List Char)
    (layers : List (List Char × List Char)) :
    closingSide (w :: layers) = closingSide layers ++ ')' :: w.2 := by
  simp [closingSide]

/-- A text stands in layers of white space and parentheses, each of which is closed by the one that
stands as far from outside on the other side. -/
structure Layered (cs core : List Char) (layers : List (List Char × List Char)) : Prop where
  text_eq : cs = openingSide layers ++ core ++ closingSide layers
  blank : ∀ w ∈ layers, ∀ c ∈ w.1 ++ w.2, isBlank c = true
  paired : ∀ outer w inner, layers = outer ++ w :: inner →
    Paired .round cs (openingSide outer ++ w.1)
      (openingSide inner ++ core ++ closingSide inner) (w.2 ++ closingSide outer)

section Pair

variable {b : Bracket} {cs before inside after : List Char}

theorem Paired.paren (h : Paired b cs before inside after) (l r : List Char) :
    Paired b (l ++ '(' :: cs ++ ')' :: r) (l ++ '(' :: before) inside (after ++ ')' :: r) where
  text_eq := by simp [h.text_eq]
  opens := (dangles_append_cons (by decide) l before).not.2 h.opens
  closes := h.closes
  nested := h.nested

theorem enclosed_iff : Enclosed (glyphs cs) ↔ ∃ m, Paired .round cs [] m [] := by
  constructor
  · intro h
    obtain ⟨m, hcs, hd, hm⟩ := h.exists_chars
    exact ⟨m, hcs, not_dangles_nil, hd, balanced_iff_nested.1 hm⟩
  · rintro ⟨m, h⟩
    rw [h.text_eq]
    exact enclosed_paren h.closes (balanced_iff_nested.2 h.nested)

theorem exists_paired (h : Balanced (glyphs cs)) (hcs : cs.head? = some '(') :
    ∃ m after, Paired .round cs [] m after := by
  obtain ⟨r, rfl⟩ := List.head?_eq_some_iff.1 hcs
  rw [glyphs_plain (by decide), Balanced, openBrackets_cons, bracketStep_open rfl] at h
  obtain ⟨v, -, hv⟩ | ⟨m, gs, hr, hm, -⟩ := openBrackets_inside (u := []) h
  · cases v <;> cases hv
  · refine ⟨chars m, chars gs, ?_, not_dangles_nil, not_dangles_of_glyphs_eq hr, ?_⟩
    · rw [← chars_glyphs r, hr, chars_append, chars_cons]
      rfl
    · rwa [← balanced_iff_nested, (glyphs_chars_of_append hr).1]

end Pair

theorem Layered.paren {cs core : List Char} {layers : List (List Char × List Char)}
    (h : Layered cs core layers) {l r : List Char} (hl : ∀ c ∈ l, isBlank c = true)
    (hr : ∀ c ∈ r, isBlank c = true) (hd : ¬ Dangles cs) (hcs : Balanced (glyphs cs)) :
    Layered (l ++ '(' :: cs ++ ')' :: r) core ((l, r) :: layers) where
  text_eq := by simp [h.text_eq]
  blank := List.forall_mem_cons.2 ⟨List.forall_mem_append.2 ⟨hl, hr⟩, h.blank⟩
  paired := by
    rintro (_ | ⟨_, outer⟩) w inner heq
    · obtain ⟨rfl, rfl⟩ := List.cons.inj heq
      have hcore := h.text_eq
      refine ⟨?_, not_dangles_of_isBlank hl, ?_, ?_⟩
      · rw [← hcore]
        simp [Bracket.opening, Bracket.closing]
      · rwa [← hcore]
      · rwa [← hcore, ← balanced_iff_nested]
    · obtain ⟨rfl, rfl⟩ := List.cons.inj heq
      have hpair := (h.paired outer w inner rfl).paren l r
      simpa using hpair

theorem exists_layered {cs : List Char} (h : Balanced (glyphs cs)) :
    ∃ layers l r, (∀ c ∈ l ++ r, isBlank c = true) ∧ Layered cs (l ++ unwrap cs ++ r) layers := by
  induction cs, h using unwrap_induction with
  | bare cs hb hu he =>
    obtain ⟨l, r, hcs, hl, hr⟩ := exists_trim cs
    refine ⟨[], l, r, List.forall_mem_append.2 ⟨hl, hr⟩, ?_, nofun, ?_⟩
    · rw [hu]
      simpa using hcs
    · intro outer w inner heq
      cases outer <;> cases heq
  | paren cs hb m hbm hm hd hu ih =>
    obtain ⟨l, r, hcs, hl, hr⟩ := exists_trim cs
    obtain ⟨layers, l', r', hblank, hlayers⟩ := ih
    refine ⟨(l, r) :: layers, l', r', hblank, ?_⟩
    have hcs' : cs = l ++ '(' :: m ++ ')' :: r := by rw [hcs, hm]; simp
    rw [hu, hcs']
    exact hlayers.paren hl hr hd hbm

theorem run_closingScanner_append {s t : List Bracket} {m : List Char}
    (h : openBrackets s (glyphs m) = some t) (hd : ¬ Dangles m) (i : Nat) (r : List Char) :
    closingScanner.run Char.utf8Size (s.count .round + 1) i false (m ++ r) =
      closingScanner.run Char.utf8Size (t.count .round + 1) (i + size m) false r := by
  induction m using glyph_induction generalizing s i with
  | nil =>
    cases h
    rfl
  | dangling => exact absurd (by decide) hd
  | escaped d m ih =>
    rw [dangles_escaped] at hd
    rw [glyphs_escaped, openBrackets_cons, bracketStep_other rfl rfl] at h
    have hend : i + size ('\\' :: d :: m) = i + size ['\\', d] + size m := by
      rw [Nat.add_assoc, ← size_append]
      rfl
    rw [List.cons_append, List.cons_append, closingScanner.run_skip (c := '\\') rfl, hend]
    exact ih h hd _
  | plain c m hc ih =>
    rw [dangles_plain hc] at hd
    rw [glyphs_plain hc, openBrackets_cons] at h
    obtain ⟨u, hu, h⟩ := Option.bind_eq_some_iff.1 h
    have hend : i + size (c :: m) = i + c.utf8Size + size m := by rw [size_cons, Nat.add_assoc]
    rw [hend, ← ih h hd, List.cons_append, Scanner.run, if_neg (by decide)]
    have hmove : closingScanner.move (s.count .round + 1) i c (m ++ r).head? =
        .go (u.count .round + 1) := by
      obtain ⟨b, ho, rfl⟩ | ⟨b, ho, hclose, rfl⟩ | ⟨ho, hclose, rfl⟩ := bracketStep_cases hu
      · obtain rfl := Glyph.plain.inj (opens?_eq_some_iff.1 ho)
        cases b <;> simp [closingScanner, Bracket.opening]
      · obtain rfl := Glyph.plain.inj (closes?_eq_some_iff.1 hclose)
        cases b <;> simp [closingScanner, Bracket.closing]
      · have hround : c ≠ '(' ∧ c ≠ ')' := by
          refine ⟨?_, ?_⟩ <;> rintro rfl
          · cases ho
          · cases hclose
        simp [closingScanner, hc, hround]
    rw [hmove]

theorem Paired.scan_eq {cs m after : List Char} (h : Paired .round cs [] m after) :
    closingScanner.scan 0 cs = some (size ('(' :: m)) := by
  have hrun := run_closingScanner_append (s := []) (balanced_iff_nested.2 h.nested) h.closes 1
    (')' :: after)
  rw [h.text_eq, Scanner.scan_eq]
  exact hrun

/-- What is left of a balanced text is what stands inside all the pairs of parentheses around it. It
is trimmed and balanced, stands in no pair itself, and nothing is taken off it again. -/
theorem unwrap_exact {cs : List Char} (h : checkBalance (glyphs cs) = .ok ()) :
    Sliced.unwrap cs = .ok (unwrap cs) ∧
    (∃ layers l r, (∀ c ∈ l ++ r, isBlank c = true) ∧ Layered cs (l ++ unwrap cs ++ r) layers) ∧
    trim (unwrap cs) = unwrap cs ∧ (¬ ∃ m, Paired .round (unwrap cs) [] m []) ∧
    checkBalance (glyphs (unwrap cs)) = .ok () ∧ unwrap (unwrap cs) = unwrap cs ∧
    (cs.head? = some '(' → ∃ m after, Paired .round cs [] m after) ∧
    ∀ m after, Paired .round cs [] m after →
      closingScanner.scan 0 cs = some (size ('(' :: m)) := by
  have hb := checkBalance_eq_ok_iff.1 h
  obtain ⟨hbalanced, htrim, henclosed⟩ := unwrap_spec hb
  exact ⟨Sliced.unwrap_eq cs, exists_layered hb, htrim, enclosed_iff.not.1 henclosed,
    checkBalance_eq_ok_iff.2 hbalanced, unwrap_unwrap hb, exists_paired hb,
    fun m after hm ↦ hm.scan_eq⟩

theorem unwrap_exact_two_pairs :
    checkBalance (glyphs "( (a[(b)]\\)) ) ".toList) = .ok () ∧
    Sliced.unwrap "( (a[(b)]\\)) ) ".toList = .ok "a[(b)]\\)".toList ∧
    closingScanner.scan 0 "( (a[(b)]\\)) ) ".toList = some 13 := by
  have hok : checkBalance (glyphs "( (a[(b)]\\)) ) ".toList) = .ok () := by cbv
  obtain ⟨hslices, -, -, -, -, -, -, hscan⟩ := unwrap_exact hok
  have hunwrap : unwrap "( (a[(b)]\\)) ) ".toList = "a[(b)]\\)".toList := by cbv
  have hinside : Balanced (glyphs " (a[(b)]\\)) ".toList) := by cbv
  have hpair : Paired .round "( (a[(b)]\\)) ) ".toList [] " (a[(b)]\\)) ".toList " ".toList :=
    ⟨by decide, by decide, by decide, balanced_iff_nested.1 hinside⟩
  exact ⟨hok, hslices.trans (congrArg _ hunwrap), hscan _ _ hpair⟩

end Rulebook
