import Rulebook.Proofs.Check.Matching
import Rulebook.Proofs.Slicing.Rule

namespace Rulebook

open Text

section Rejoining

variable {α : Type}

def rejoin : List (List α) → List α → List α
  | [], _ => []
  | p :: _, [] => p
  | p :: ps, d :: ds => p ++ d :: rejoin ps ds

/-- Between pieces an element was dropped at a place of the whole, given with what stands before it
and after it. -/
inductive DroppedAt : List (List α) → List α → List α → α → List α → Prop
  | here (p : List α) (ps : List (List α)) (d : α) (ds : List α) :
      DroppedAt (p :: ps) (d :: ds) p d (rejoin ps ds)
  | later (p : List α) (d : α) {ps : List (List α)} {ds x : List α} {c : α} {y : List α}
      (h : DroppedAt ps ds x c y) : DroppedAt (p :: ps) (d :: ds) (p ++ d :: x) c y

variable {p : List α} {ps : List (List α)} {d c : α} {ds w x y : List α}

theorem droppedAt_cons_iff : DroppedAt (p :: ps) (d :: ds) x c y ↔
    x = p ∧ c = d ∧ y = rejoin ps ds ∨ ∃ x', x = p ++ d :: x' ∧ DroppedAt ps ds x' c y := by
  constructor
  · intro h
    cases h with
    | here => exact .inl ⟨rfl, rfl, rfl⟩
    | later _ _ h => exact .inr ⟨_, rfl, h⟩
  · rintro (⟨rfl, rfl, rfl⟩ | ⟨x', rfl, h⟩)
    · exact .here x ps c ds
    · exact .later p d h

theorem rejoin_append (w p : List α) (ps : List (List α)) (ds : List α) :
    rejoin ((w ++ p) :: ps) ds = w ++ rejoin (p :: ps) ds := by
  cases ds with
  | nil => rfl
  | cons d ds => exact List.append_assoc ..

theorem droppedAt_append_iff : DroppedAt ((w ++ p) :: ps) ds x c y ↔
    ∃ x', x = w ++ x' ∧ DroppedAt (p :: ps) ds x' c y := by
  cases ds with
  | nil => exact iff_of_false nofun fun ⟨_, _, h⟩ ↦ nomatch h
  | cons d ds =>
    simp only [droppedAt_cons_iff]
    constructor
    · rintro (⟨rfl, rfl, rfl⟩ | ⟨x', rfl, h⟩)
      · exact ⟨p, rfl, .inl ⟨rfl, rfl, rfl⟩⟩
      · exact ⟨p ++ d :: x', by simp, .inr ⟨x', rfl, h⟩⟩
    · rintro ⟨_, rfl, ⟨rfl, rfl, rfl⟩ | ⟨x', rfl, h⟩⟩
      · exact .inl ⟨rfl, rfl, rfl⟩
      · exact .inr ⟨x', by simp, h⟩

theorem infix_rejoin {q : List α} (hq : q ∈ ps) (hlen : ds.length + 1 = ps.length) :
    q <:+: rejoin ps ds := by
  induction ps generalizing ds with
  | nil => cases hq
  | cons p ps ih =>
    cases ds with
    | nil =>
      obtain rfl := List.length_eq_zero_iff.1 (Nat.succ.inj hlen).symm
      obtain rfl := List.mem_singleton.1 hq
      exact List.infix_rfl
    | cons d ds =>
      obtain rfl | hq := List.mem_cons.1 hq
      · exact (List.prefix_append _ _).isInfix
      · exact ((ih hq (Nat.succ.inj hlen)).trans (List.suffix_cons d _).isInfix).trans
          (List.suffix_append p _).isInfix

end Rejoining

theorem rejoin_chars (ps : List (List Glyph)) (ds : List Char) :
    rejoin (ps.map chars) ds = chars (rejoin ps (ds.map .plain)) := by
  induction ps generalizing ds with
  | nil => rfl
  | cons p ps ih =>
    cases ds with
    | nil => rfl
    | cons d ds =>
      simp only [List.map_cons, rejoin, chars_append, chars_cons, ih]
      rfl

theorem droppedAt_chars_iff {ps : List (List Glyph)} {ds x y : List Char} {c : Char} :
    DroppedAt (ps.map chars) ds x c y ↔ ∃ a b, x = chars a ∧ y = chars b ∧
      DroppedAt ps (ds.map .plain) a (.plain c) b := by
  induction ps generalizing ds x with
  | nil => exact iff_of_false nofun fun ⟨_, _, _, _, h⟩ ↦ nomatch h
  | cons p ps ih =>
    cases ds with
    | nil => exact iff_of_false nofun fun ⟨_, _, _, _, h⟩ ↦ nomatch h
    | cons d ds =>
      simp only [List.map_cons, droppedAt_cons_iff, ih]
      constructor
      · rintro (⟨rfl, rfl, rfl⟩ | ⟨x', rfl, a, b, rfl, rfl, h⟩)
        · exact ⟨p, _, rfl, rejoin_chars ps ds, .inl ⟨rfl, rfl, rfl⟩⟩
        · exact ⟨p ++ .plain d :: a, b, by simp [Glyph.chars], rfl, .inr ⟨a, rfl, h⟩⟩
      · rintro ⟨a, b, rfl, rfl, ⟨rfl, hc, rfl⟩ | ⟨a, rfl, h⟩⟩
        · exact .inl ⟨rfl, Glyph.plain.inj hc, (rejoin_chars ps ds).symm⟩
        · exact .inr ⟨chars a, by simp [Glyph.chars], a, b, rfl, rfl, h⟩

/-- The number of unescaped `&` at the end of a text. In pairs from the left, all of them are taken
if the number is even. -/
def signsAtEnd (gs : List Glyph) : Nat := (gs.reverse.takeWhile (· = .plain '&')).length

theorem signsAtEnd_append_cons {g : Glyph} (hg : g ≠ .plain '&') (a b : List Glyph) :
    signsAtEnd (a ++ g :: b) = signsAtEnd b := by
  rw [signsAtEnd, List.reverse_append, List.reverse_cons, List.append_assoc, List.takeWhile_append,
    signsAtEnd]
  split
  · rename_i hall
    rw [List.singleton_append, List.takeWhile_cons_of_neg (by simpa using hg), List.append_nil,
      hall]
  · rfl

theorem even_signsAtEnd_pair (gs : List Glyph) :
    Even (signsAtEnd (.plain '&' :: .plain '&' :: gs)) ↔ Even (signsAtEnd gs) := by
  rw [signsAtEnd, List.reverse_cons, List.reverse_cons, List.append_assoc, List.takeWhile_append,
    signsAtEnd]
  split
  · rename_i hall
    simp [hall, Nat.even_add]
  · rfl

/-- A separator stands in a text outside brackets and is neither escaped nor half of a pair `&&`. -/
structure Separator (separates : Char → Bool) (before : List Char) (c : Char) (after : List Char) :
    Prop where
  separates : separates c = true
  unescaped : ¬ Dangles before
  outside : (glyphs before).foldl depthAfter 0 = 0
  single : c = '&' → Even (signsAtEnd (glyphs before)) ∧ after.head? ≠ some '&'

/-- The same from some depth on, among glyphs. -/
structure Separates (separates : Char → Bool) (depth : Nat) (a : List Glyph) (c : Char)
    (b : List Glyph) : Prop where
  separates : separates c = true
  outside : a.foldl depthAfter depth = 0
  single : c = '&' → Even (signsAtEnd a) ∧ b.head? ≠ some (.plain '&')

section

variable {separates : Char → Bool} {depth : Nat} {a b r : List Glyph} {c : Char} {g : Glyph}

theorem separates_pair_iff : Separates separates depth (.plain '&' :: .plain '&' :: a) c b ↔
    Separates separates depth a c b := by
  constructor
  · rintro ⟨hs, ho, hc⟩
    exact ⟨hs, ho, fun h ↦ (hc h).imp_left (even_signsAtEnd_pair a).1⟩
  · rintro ⟨hs, ho, hc⟩
    exact ⟨hs, ho, fun h ↦ (hc h).imp_left (even_signsAtEnd_pair a).2⟩

theorem separates_next_iff
    (hpair : g = .plain '&' → (a ++ .plain c :: b).head? ≠ some (.plain '&')) :
    Separates separates depth (g :: a) c b ↔ Separates separates (depthAfter depth g) a c b := by
  have heven : c = '&' → (Even (signsAtEnd (g :: a)) ↔ Even (signsAtEnd a)) := by
    intro hc
    by_cases hg : g = .plain '&'
    · cases a with
      | nil => exact absurd (by rw [hc]; rfl) (hpair hg)
      | cons g' a =>
        have hg' : g' ≠ .plain '&' := fun h ↦ hpair hg (congrArg some h)
        rw [← List.singleton_append, signsAtEnd_append_cons hg', ← List.nil_append (g' :: a),
          signsAtEnd_append_cons hg']
    · rw [← List.nil_append (g :: a), signsAtEnd_append_cons hg]
  constructor
  · rintro ⟨hs, ho, hc⟩
    exact ⟨hs, ho, fun h ↦ (hc h).imp_left (heven h).1⟩
  · rintro ⟨hs, ho, hc⟩
    exact ⟨hs, ho, fun h ↦ (hc h).imp_left (heven h).2⟩

/-- From some depth on, a text is split at its separators: what is dropped between the pieces is
what separates, wherever it stands. -/
structure SplitsInto (separates : Char → Bool) (depth : Nat) (gs : List Glyph)
    (q : List Glyph × List (List Glyph)) (ds : List Char) : Prop where
  length_eq : ds.length = q.2.length
  rejoin_eq : rejoin (q.1 :: q.2) (ds.map .plain) = gs
  dropped_iff : ∀ a c b, DroppedAt (q.1 :: q.2) (ds.map .plain) a (.plain c) b ↔
    gs = a ++ .plain c :: b ∧ Separates separates depth a c b

namespace SplitsInto

variable {q : List Glyph × List (List Glyph)} {ds : List Char}

theorem nil (separates : Char → Bool) (depth : Nat) :
    SplitsInto separates depth [] ([], []) [] where
  length_eq := rfl
  rejoin_eq := rfl
  dropped_iff a c b := iff_of_false nofun fun h ↦ by simp at h

theorem pair (h : SplitsInto separates depth r q ds) :
    SplitsInto separates depth (.plain '&' :: .plain '&' :: r)
      (extendFirst [.plain '&', .plain '&'] q) ds where
  length_eq := h.length_eq
  rejoin_eq := by rw [extendFirst, rejoin_append, h.rejoin_eq]; rfl
  dropped_iff a c b := by
    rw [extendFirst, droppedAt_append_iff]
    simp only [h.dropped_iff]
    constructor
    · rintro ⟨a, rfl, rfl, hs⟩
      exact ⟨rfl, separates_pair_iff.2 hs⟩
    · rintro ⟨heq, hs⟩
      -- neither half of the pair can be the one that separates
      obtain ⟨rfl, hfirst⟩ | ⟨a, rfl, htail⟩ := List.cons_eq_append_iff.1 heq
      · cases hfirst
        exact absurd rfl (hs.single rfl).2
      · obtain ⟨rfl, hsecond⟩ | ⟨a, rfl, hrest⟩ := List.cons_eq_append_iff.1 htail
        · cases hsecond
          exact absurd (hs.single rfl).1 (by decide)
        · exact ⟨a, rfl, hrest, separates_pair_iff.1 hs⟩

theorem next (h : SplitsInto separates (depthAfter depth g) r q ds)
    (hpair : g = .plain '&' → r.head? ≠ some (.plain '&'))
    (hsep : depth = 0 → ∀ c, g = .plain c → separates c = false) :
    SplitsInto separates depth (g :: r) (extendFirst [g] q) ds where
  length_eq := h.length_eq
  rejoin_eq := by rw [extendFirst, rejoin_append, h.rejoin_eq]; rfl
  dropped_iff a c b := by
    rw [extendFirst, droppedAt_append_iff]
    simp only [h.dropped_iff]
    constructor
    · rintro ⟨a, rfl, rfl, hs⟩
      exact ⟨rfl, (separates_next_iff hpair).2 hs⟩
    · rintro ⟨heq, hs⟩
      obtain ⟨rfl, hfirst⟩ | ⟨a, rfl, rfl⟩ := List.cons_eq_append_iff.1 heq
      · cases hfirst
        cases (hsep hs.outside c rfl).symm.trans hs.separates
      · exact ⟨a, rfl, rfl, (separates_next_iff hpair).1 hs⟩

theorem split (h : SplitsInto separates 0 r q ds)
    (hpair : c = '&' → r.head? ≠ some (.plain '&')) (hc : separates c = true)
    (hdepth : depthAfter 0 (.plain c) = 0) :
    SplitsInto separates 0 (.plain c :: r) ([], q.1 :: q.2) (c :: ds) where
  length_eq := congrArg (· + 1) h.length_eq
  rejoin_eq := congrArg _ h.rejoin_eq
  dropped_iff a c' b := by
    have hpair' (hg : Glyph.plain c = .plain '&') := hpair (Glyph.plain.inj hg)
    rw [List.map_cons, droppedAt_cons_iff, h.rejoin_eq]
    simp only [h.dropped_iff, List.nil_append]
    constructor
    · rintro (⟨rfl, heq, rfl⟩ | ⟨a, rfl, rfl, hs⟩)
      · cases heq
        exact ⟨rfl, hc, rfl, fun hamp ↦ ⟨Even.zero, hpair hamp⟩⟩
      · rw [← hdepth] at hs
        exact ⟨rfl, (separates_next_iff hpair').2 hs⟩
    · rintro ⟨heq, hs⟩
      obtain ⟨rfl, hfirst⟩ | ⟨a, rfl, rfl⟩ := List.cons_eq_append_iff.1 heq
      · cases hfirst
        exact .inl ⟨rfl, rfl, rfl⟩
      · rw [separates_next_iff hpair', hdepth] at hs
        exact .inr ⟨a, rfl, rfl, hs⟩

end SplitsInto

section Parts

variable (hsep : ∀ c, separates c = true → depthAfter 0 (.plain c) = 0)

include hsep

theorem exists_splitsInto (depth : Nat) (gs : List Glyph) :
    ∃ ds, SplitsInto separates depth gs (partsFrom separates depth gs) ds := by
  induction depth, gs using parts_induction separates with
  | nil depth => exact ⟨[], .nil separates depth⟩
  | pair depth r ih =>
    obtain ⟨ds, h⟩ := ih
    exact ⟨ds, by rw [partsFrom_pair]; exact h.pair⟩
  | split c r hpair hc ih =>
    obtain ⟨ds, h⟩ := ih
    exact ⟨c :: ds, by rw [partsFrom_split hpair hc]; exact h.split hpair hc (hsep c hc)⟩
  | next depth g r hpair hnext ih =>
    obtain ⟨ds, h⟩ := ih
    exact ⟨ds, by rw [partsFrom_next hpair hnext]; exact h.next hpair hnext⟩

theorem partsFrom_part (depth : Nat) (gs : List Glyph) :
    partsFrom separates depth (partsFrom separates depth gs).1 =
        ((partsFrom separates depth gs).1, []) ∧
      ∀ q ∈ (partsFrom separates depth gs).2, partsFrom separates 0 q = (q, []) := by
  induction depth, gs using parts_induction separates with
  | nil depth => exact ⟨rfl, List.forall_mem_nil _⟩
  | pair depth r ih =>
    rw [partsFrom_pair]
    exact ⟨(partsFrom_pair depth _).trans (congrArg _ ih.1), ih.2⟩
  | split c r hpair hc ih =>
    rw [partsFrom_split hpair hc]
    exact ⟨rfl, List.forall_mem_cons.2 ih⟩
  | next depth g r hpair hnext ih =>
    -- the first part begins as the rest of the text does
    obtain ⟨y, hr, -⟩ := (splitOutside_partsFrom hsep (depthAfter depth g) r).first
    have hfirst : g = .plain '&' →
        (partsFrom separates (depthAfter depth g) r).1.head? ≠ some (.plain '&') := by
      intro hg hhead
      refine hpair hg ?_
      rw [hr, List.head?_append, hhead]
      rfl
    rw [partsFrom_next hpair hnext]
    exact ⟨(partsFrom_next hfirst hnext).trans (congrArg _ ih.1), ih.2⟩

theorem glyphs_of_mem_partsFrom {cs : List Char} {p : List Glyph}
    (hp : p ∈ (partsFrom separates 0 (glyphs cs)).1 :: (partsFrom separates 0 (glyphs cs)).2) :
    glyphs (chars p) = p := by
  obtain ⟨ds, hsplit⟩ := exists_splitsInto hsep 0 (glyphs cs)
  have hlength : (ds.map Glyph.plain).length + 1 =
      ((partsFrom separates 0 (glyphs cs)).1 :: (partsFrom separates 0 (glyphs cs)).2).length := by
    rw [List.length_map, List.length_cons, hsplit.length_eq]
  obtain ⟨x, y, hgs⟩ := infix_rejoin hp hlength
  rw [hsplit.rejoin_eq, List.append_assoc] at hgs
  exact (glyphs_chars_of_append (glyphs_chars_of_append hgs.symm).2).1

theorem parts_part {cs p : List Char} (hp : p ∈ parts separates cs) : parts separates p = [p] := by
  obtain ⟨gs, hgs, rfl⟩ := List.mem_map.1 hp
  have hread := glyphs_of_mem_partsFrom hsep hgs
  have hwhole : partsFrom separates 0 gs = (gs, []) := by
    obtain ⟨hfirst, hrest⟩ := partsFrom_part hsep 0 (glyphs cs)
    obtain rfl | hgs := List.mem_cons.1 hgs
    · exact hfirst
    · exact hrest gs hgs
  rw [parts, hread, hwhole]
  rfl

end Parts

theorem separator_iff {before after : List Char} (hbackslash : separates '\\' = false) :
    Separator separates before c after ↔ ∃ a b, before = chars a ∧ after = chars b ∧
      glyphs (before ++ c :: after) = a ++ .plain c :: b ∧ Separates separates 0 a c b := by
  constructor
  · rintro ⟨hs, hd, ho, hsingle⟩
    have hc : c ≠ '\\' := by
      rintro rfl
      cases hbackslash.symm.trans hs
    refine ⟨glyphs before, glyphs after, by simp, by simp, ?_, hs, ho, fun hamp ↦ ?_⟩
    · rw [glyphs_append hd, glyphs_plain hc]
    · exact (hsingle hamp).imp_right fun h ↦ mt (head?_glyphs (by decide) after).1 h
  · rintro ⟨a, b, rfl, rfl, hgs, hs, ho, hsingle⟩
    obtain ⟨ha, hrest⟩ := glyphs_chars_of_append hgs
    have hb : glyphs (chars b) = b := (glyphs_chars_of_append (a := [.plain c]) hrest).2
    refine ⟨hs, not_dangles_of_glyphs_eq hgs, by rwa [ha], fun hamp ↦ ?_⟩
    rw [ha]
    exact (hsingle hamp).imp_right fun h ↦ mt (head?_glyphs (by decide) _).2 (hb.symm ▸ h)

end

theorem depthAfter_plain {c : Char} (hc : c ∉ ['(', ')', '[', ']']) (depth : Nat) :
    depthAfter depth (.plain c) = depth := by
  simp only [List.mem_cons, List.not_mem_nil, or_false, not_or] at hc
  simp [depthAfter, opens?, closes?, hc]

/-- The parts of a text, with the characters dropped between them, make up the text. What is dropped
stands outside brackets and is neither escaped nor half of a pair `&&`, and everything of that kind
that separates is dropped. Splitting a part again gives the part alone. -/
theorem parts_exact {separates : Char → Bool}
    (hsep : ∀ c ∈ ['\\', '(', ')', '[', ']'], separates c = false) (cs : List Char) :
    (∃ dropped : List Char, dropped.length + 1 = (parts separates cs).length ∧
      rejoin (parts separates cs) dropped = cs ∧
      ∀ before c after, DroppedAt (parts separates cs) dropped before c after ↔
        cs = before ++ c :: after ∧ Separator separates before c after) ∧
    ∀ p ∈ parts separates cs, parts separates p = [p] := by
  obtain ⟨hbackslash, hbrackets⟩ := List.forall_mem_cons.1 hsep
  have hdepth (c : Char) (hc : separates c = true) : depthAfter 0 (.plain c) = 0 := by
    refine depthAfter_plain (fun hmem ↦ ?_) 0
    cases (hbrackets c hmem).symm.trans hc
  obtain ⟨ds, hsplit⟩ := exists_splitsInto hdepth 0 (glyphs cs)
  refine ⟨⟨ds, ?_, ?_, fun before c after ↦ ?_⟩, fun p ↦ parts_part hdepth⟩
  · simp [parts, hsplit.length_eq]
  · rw [parts, rejoin_chars, hsplit.rejoin_eq, chars_glyphs]
  · rw [parts, droppedAt_chars_iff, separator_iff hbackslash]
    simp only [hsplit.dropped_iff]
    constructor
    · rintro ⟨a, b, rfl, rfl, hgs, hs⟩
      have hcs : cs = chars a ++ c :: chars b := by
        rw [← chars_glyphs cs, hgs, chars_append, chars_cons]
        rfl
      exact ⟨hcs, a, b, rfl, rfl, hcs ▸ hgs, hs⟩
    · rintro ⟨rfl, a, b, rfl, rfl, hgs, hs⟩
      exact ⟨a, b, rfl, rfl, hgs, hs⟩

theorem parts_exact_arguments :
    (∀ c ∈ ['\\', '(', ')', '[', ']'], separatesArguments c = false) ∧
    ∃ dropped : List Char, dropped.length = 3 ∧
      rejoin ["a\\,b(c,d)".toList, "&&e&&".toList, "f)".toList, "g".toList] dropped =
        "a\\,b(c,d),&&e&&&f),g".toList := by
  have hsep : ∀ c ∈ ['\\', '(', ')', '[', ']'], separatesArguments c = false := by
    simp [separatesArguments]
  have hparts : parts separatesArguments "a\\,b(c,d),&&e&&&f),g".toList =
      ["a\\,b(c,d)".toList, "&&e&&".toList, "f)".toList, "g".toList] := by cbv
  obtain ⟨⟨dropped, hlength, hrejoin, -⟩, -⟩ :=
    parts_exact hsep "a\\,b(c,d),&&e&&&f),g".toList
  rw [hparts] at hlength hrejoin
  exact ⟨hsep, dropped, Nat.succ.inj hlength, hrejoin⟩

end Rulebook
