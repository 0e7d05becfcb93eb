import Mathlib
import Rulebook.Proofs.Rule.Reading
import Rulebook.Proofs.Equality

namespace Rulebook

open Text

variable {limit levels limit' levels' : Nat} {cs : List Char} {r : Rule}

theorem readLevel_succ_of_error {texts : List (List Char)} {capture : Option Nat} {e : ReadError}
    (hne : unwrap cs ≠ [])
    (h : leafTexts 0 none (segments 0 (glyphs (unwrap cs))).1 = .ok (texts, capture))
    (hleaves : texts.mapM (readLeaf limit levels) = .error e) :
    readLevel limit (levels + 1) cs = .error e := by
  have hbind (texts : List (List Char)) : (texts.mapM fun t ↦
      let inner := unwrap t
      if hasConnective inner then Leaf.nested <$> readLevel limit levels inner
      else .ok (.check (String.ofList inner))) = texts.mapM (readLeaf limit levels) := rfl
  rw [readLevel, if_neg (by simpa using hne)]
  simp only [h, hbind]
  simp only [bind, Except.bind, hleaves]

/-- A text that is read within some levels is read to the same rule within as many levels as the
rule has, and is found too deep within fewer. -/
theorem readLevel_within (h : readLevel limit levels cs = .ok r) (limit' levels' : Nat) :
    (r.depth ≤ levels' → readLevel limit' levels' cs = .ok r) ∧
    (levels' < r.depth → readLevel limit' levels' cs = .error (.tooDeep limit' (limit' + 1))) := by
  induction levels generalizing levels' cs r with
  | zero => cases h
  | succ levels ih =>
    obtain ⟨hne, texts, leaves, capture, htexts, hleaves, rfl⟩ := readLevel_succ_eq_ok_iff.1 h
    rw [Rule.depth_eq, Rule.leaves]
    cases levels' with
    | zero => exact ⟨fun hle ↦ by omega, fun _ ↦ rfl⟩
    | succ levels' =>
      -- every leaf meets the limit by itself, and the level as a whole if all of them do
      have hleaf (t : List Char) (l : Leaf) (hl : readLeaf limit levels t = .ok l) :
          (l.depth ≤ levels' → readLeaf limit' levels' t = .ok l) ∧
          (levels' < l.depth →
            readLeaf limit' levels' t = .error (.tooDeep limit' (limit' + 1))) := by
        obtain ⟨hc, r, hr, rfl⟩ | ⟨hc, rfl⟩ := readLeaf_eq_ok_iff.1 hl
        · obtain ⟨hok, herror⟩ := ih hr levels'
          rw [readLeaf, if_pos hc]
          exact ⟨fun hle ↦ by rw [hok hle]; rfl, fun hlt ↦ by rw [herror hlt]; rfl⟩
        · refine ⟨fun _ ↦ readLeaf_eq_ok_iff.2 (.inr ⟨hc, rfl⟩), fun hlt ↦ ?_⟩
          exact absurd hlt (Nat.not_lt_zero _)
      constructor
      · intro hle
        have hdeep : ¬ levels' < depthIn leaves := by omega
        have hshallow : ∀ l ∈ leaves, l.depth ≤ levels' := fun l hl ↦
          Nat.le_of_not_lt fun hlt ↦ hdeep (lt_depthIn_iff.2 ⟨l, hl, hlt⟩)
        refine readLevel_succ_eq_ok_iff.2 ⟨hne, texts, leaves, capture, htexts, ?_, rfl⟩
        have hboth := (List.forall₂_and_left leaves texts).2 ⟨hshallow, hleaves.flip⟩
        exact (hboth.imp fun l t hl ↦ (hleaf t l hl.2).1 hl.1).flip
      · intro hlt
        have hdeep : levels' < depthIn leaves := by omega
        obtain ⟨l, hl, hlt⟩ := lt_depthIn_iff.1 hdeep
        obtain ⟨t, ht, hread⟩ := exists_mem_of_forall₂ hleaves hl
        have herror : ∃ t ∈ texts,
            readLeaf limit' levels' t = .error (.tooDeep limit' (limit' + 1)) :=
          ⟨t, ht, (hleaf t l hread).2 hlt⟩
        refine readLevel_succ_of_error hne htexts (mapM_eq_error (fun t' ht' ↦ ?_) herror)
        obtain ⟨l', -, hread'⟩ := exists_mem_of_forall₂ hleaves.flip ht'
        obtain hlt | hle := Nat.lt_or_ge levels' l'.depth
        · exact .inr ((hleaf t' l' hread').2 hlt)
        · exact .inl ⟨l', (hleaf t' l' hread').1 hle⟩

/-- So many pairs of parentheses, one inside another, each around a connective of its own. -/
def Nests : Nat → List Glyph → Prop
  | 0, _ => True
  | n + 1, gs => ∃ m, Balanced m ∧ cutAtConnective 0 m ≠ none ∧
      .plain '(' :: m ++ [.plain ')'] <:+: gs ∧ Nests n m

/-- Whatever ends in a parenthesis and stands in one text stands in the other. Trimming can take the
white space from behind a backslash, so a trimmed text need not stand in the whole one. -/
def Keeps (gs gs' : List Glyph) : Prop :=
  ∀ p, p ++ [.plain ')'] <:+: gs → p ++ [.plain ')'] <:+: gs'

theorem Keeps.of_piece {gs gs' : List Glyph} (h : gs <:+: gs') : Keeps gs gs' :=
  fun _ hp ↦ hp.trans h

theorem Keeps.trans {a b c : List Glyph} (h : Keeps a b) (h' : Keeps b c) : Keeps a c :=
  fun p hp ↦ h' p (h p hp)

theorem Nests.keeps {n : Nat} {gs gs' : List Glyph} (h : Nests n gs) (hgs : Keeps gs gs') :
    Nests n gs' := by
  cases n with
  | zero => trivial
  | succ n =>
    obtain ⟨m, hb, hc, hm, hn⟩ := h
    exact ⟨m, hb, hc, hgs _ hm, hn⟩

theorem keeps_concat {g : Glyph} (hg : g ≠ .plain ')') (gs : List Glyph) :
    Keeps (gs ++ [g]) gs := by
  intro p hp
  obtain ⟨a, b, h⟩ := hp
  obtain rfl | ⟨b', g', rfl⟩ := List.eq_nil_or_concat' b
  · rw [List.append_nil, ← List.append_assoc] at h
    have hlast := (List.append_inj' h rfl).2
    exact absurd (List.singleton_inj.1 hlast).symm hg
  · rw [← List.append_assoc] at h
    exact ⟨a, b', (List.append_inj' h rfl).1⟩

theorem keeps_append (t r : List Char) : Keeps (glyphs t) (glyphs (t ++ r)) := by
  by_cases hd : Dangles t
  · cases r with
    | nil =>
      rw [List.append_nil]
      exact .of_piece List.infix_rfl
    | cons b r =>
      rw [glyphs_of_dangles hd, glyphs_append_of_dangles hd]
      have hdrop : Keeps ((glyphs t).dropLast ++ [.dangling]) (glyphs t).dropLast :=
        keeps_concat (g := .dangling) nofun _
      exact hdrop.trans (.of_piece (List.prefix_append _ _).isInfix)
  · rw [glyphs_append hd]
    exact .of_piece (List.prefix_append _ _).isInfix

theorem keeps_trim (cs : List Char) : Keeps (glyphs (trim cs)) (glyphs cs) := by
  obtain ⟨l, r, h, hl, -⟩ := exists_trim cs
  have hsplit : glyphs cs = glyphs l ++ glyphs (trim cs ++ r) := by
    rw [← glyphs_append (not_dangles_of_isBlank hl), ← List.append_assoc, ← h]
  rw [hsplit]
  exact (keeps_append _ r).trans (.of_piece (List.suffix_append _ _).isInfix)

theorem keeps_unwrap (hb : Balanced (glyphs cs)) : Keeps (glyphs (unwrap cs)) (glyphs cs) := by
  induction cs, hb using unwrap_induction with
  | bare cs hb hu _ =>
    rw [hu]
    exact keeps_trim cs
  | paren cs hb m hbm hm hd hu ih =>
    have hinside : Keeps (glyphs m) (glyphs (trim cs)) := by
      rw [hm, glyphs_paren hd]
      exact .of_piece ⟨[.plain '('], [.plain ')'], rfl⟩
    rw [hu]
    exact ih.trans (hinside.trans (keeps_trim cs))

theorem exists_paren_of_unwrap (hb : Balanced (glyphs cs)) :
    unwrap cs = trim cs ∨ ∃ m, unwrap cs = trim m ∧ Balanced (glyphs m) ∧
      .plain '(' :: glyphs m ++ [.plain ')'] <:+: glyphs cs := by
  induction cs, hb using unwrap_induction with
  | bare cs hb hu _ => exact .inl hu
  | paren cs hb m hbm hm hd hu ih =>
    have hpair : glyphs (trim cs) = .plain '(' :: glyphs m ++ [.plain ')'] := by
      rw [hm, glyphs_paren hd]
    rw [hu]
    obtain hself | ⟨m', hm', hb', hin⟩ := ih
    · refine .inr ⟨m, hself, hbm, keeps_trim cs _ ?_⟩
      rw [hpair]
    · refine .inr ⟨m', hm', hb', keeps_trim cs _ (hin.trans ?_)⟩
      rw [hpair]
      exact ⟨[.plain '('], [.plain ')'], rfl⟩

namespace LeafText

variable {i : Nat} {capture : Option Nat} {raw t : List Char}

theorem keeps (h : LeafText i capture raw t) (hb : Balanced (glyphs raw)) :
    Keeps (glyphs t) (glyphs raw) := by
  have hmarker (inner : List Char) : Keeps (glyphs inner) (glyphs ('@' :: inner)) := by
    rw [glyphs_plain (by decide)]
    exact .of_piece (List.suffix_cons _ _).isInfix
  obtain ⟨-, ⟨-, rfl⟩ | ⟨inner, hc, rfl, -⟩⟩ := h
  · exact .of_piece List.infix_rfl
  · refine (keeps_trim inner).trans ((hmarker inner).trans ?_)
    obtain rfl | ⟨-, -, hu⟩ := captured?_eq_some_iff.1 hc
    · exact .of_piece List.infix_rfl
    · rw [← hu]
      exact keeps_unwrap hb

theorem cutAtConnective_trim (h : LeafText i capture raw t)
    (hraw : cutAtConnective 0 (glyphs raw) = none) :
    cutAtConnective 0 (glyphs (trim t)) = none := by
  rw [Rulebook.cutAtConnective_trim]
  obtain ⟨-, ⟨-, rfl⟩ | ⟨inner, hc, rfl, -⟩⟩ := h
  · exact hraw
  · rw [Rulebook.cutAtConnective_trim, ← cutAtConnective_marker]
    obtain rfl | ⟨-, hcut, hu⟩ := captured?_eq_some_iff.1 hc
    · exact hraw
    · rwa [hu, hasConnective_eq_false_iff] at hcut

theorem exists_paren (h : LeafText i capture raw t) (hb : Balanced (glyphs raw))
    (hraw : cutAtConnective 0 (glyphs raw) = none) (hc : hasConnective (unwrap t) = true) :
    ∃ m, unwrap t = trim m ∧ Balanced (glyphs m) ∧
      .plain '(' :: glyphs m ++ [.plain ')'] <:+: glyphs raw := by
  obtain hself | ⟨m, hm, hbm, hin⟩ := exists_paren_of_unwrap (h.balanced hb)
  · have hnone := hasConnective_eq_false_iff.2 (h.cutAtConnective_trim hraw)
    rw [hself, hnone] at hc
    cases hc
  · exact ⟨m, hm, hbm, h.keeps hb _ hin⟩

end LeafText

theorem nests_of_readLevel (hb : Balanced (glyphs cs)) (h : readLevel limit levels cs = .ok r) :
    Nests (r.depth - 1) (glyphs (unwrap cs)) := by
  induction levels generalizing cs r with
  | zero => cases h
  | succ levels ih =>
    obtain ⟨-, texts, leaves, capture, htexts, hleaves, rfl⟩ := readLevel_succ_eq_ok_iff.1 h
    have hbu := (unwrap_spec hb).1
    rw [Rule.depth_eq, Rule.leaves, Nat.add_sub_cancel_left]
    cases hdepth : depthIn leaves with
    | zero => trivial
    | succ n =>
      have hdeep : n < depthIn leaves := by omega
      obtain ⟨l, hl, hlt⟩ := lt_depthIn_iff.1 hdeep
      obtain ⟨i, hi⟩ := List.mem_iff_getElem?.1 hl
      obtain ⟨s, x, hs, hread, hx, hbs⟩ := exists_leafText htexts hleaves hbu hi
      obtain ⟨hg, -, hcut⟩ := segment_spec rfl hbu 0 (List.mem_of_getElem? hs)
      obtain ⟨hc, t, ht, rfl⟩ | ⟨-, rfl⟩ := readLeaf_eq_ok_iff.1 hread
      · have hbx := hx.balanced hbs
        have hinner := ih (unwrap_spec hbx).1 ht
        rw [unwrap_unwrap hbx] at hinner
        have hraw : cutAtConnective 0 (glyphs (trim (chars s.glyphs))) = none := by
          rwa [cutAtConnective_trim, hg]
        obtain ⟨m, hm, hbm, hin⟩ := hx.exists_paren hbs hraw hc
        have hseg := infix_of_mem_segments (List.mem_of_getElem? hs)
        refine ⟨glyphs m, hbm, ?_, ?_, ?_⟩
        · intro hnone
          rw [hm, hasConnective, (cutAtConnective_trim m).2 hnone] at hc
          cases hc
        · refine (keeps_trim _ _ hin).trans ?_
          rwa [hg]
        · have hle : t.depth ≤ n + 1 := depthIn_le_iff.1 (Nat.le_of_eq hdepth) t hl
          have hlt : n < t.depth := hlt
          rw [hm, show t.depth - 1 = n by omega] at hinner
          exact hinner.keeps (keeps_trim m)
      · cases hlt

/-- The limits on a text only decide whether its one rule is read. A level beyond the first joins
two leaves or more, and only parentheses with a connective of their own count towards the depth, not
those around the whole text. -/
theorem Rule.read_limits (text : String) :
    (∀ limits, ∃ e, Rule.read limits text = .error e) ∨
    ∃ r : Rule,
      (∀ limits : Limits,
        (limits.bytes < text.utf8ByteSize →
          Rule.read limits text = .error (.tooLarge limits.bytes text.utf8ByteSize)) ∧
        (text.utf8ByteSize ≤ limits.bytes → r.depth ≤ limits.depth →
          Rule.read limits text = .ok r) ∧
        (text.utf8ByteSize ≤ limits.bytes → limits.depth < r.depth →
          Rule.read limits text = .error (.tooDeep limits.depth (limits.depth + 1)))) ∧
      (∀ t ∈ r.inner, 2 ≤ t.leaves.length) ∧
      Nests (r.depth - 1) (glyphs (unwrap text.toList)) := by
  by_cases h : ∃ limits r, Rule.read limits text = .ok r
  · obtain ⟨limits, r, hr⟩ := h
    obtain ⟨-, hb, hlevel⟩ := read_eq_ok_iff.1 hr
    obtain ⟨hcanonical, -, -⟩ := readLevel_canonical hb hlevel
    refine .inr ⟨r, fun limits' ↦ ?_, fun t ht ↦ ?_, nests_of_readLevel hb hlevel⟩
    · obtain ⟨hok, herror⟩ := readLevel_within hlevel limits'.depth limits'.depth
      refine ⟨fun hsize ↦ ?_, fun hsize hdepth ↦ ?_, fun hsize hdepth ↦ ?_⟩
      · rw [Rule.read, if_pos hsize]
        rfl
      · exact read_eq_ok_iff.2 ⟨hsize, hb, hok hdepth⟩
      · rw [Rule.read, if_neg (Nat.not_lt.2 hsize), checkBalance_eq_ok_iff.2 hb]
        exact herror hdepth
    · obtain ⟨s, hs, hleaf⟩ := exists_level_of_mem_inner ht
      exact (hcanonical s hs).nested t hleaf
  · refine .inl fun limits ↦ ?_
    cases hr : Rule.read limits text with
    | ok r => exact absurd ⟨limits, r, hr⟩ h
    | error e => exact ⟨e, rfl⟩

example : Rule.read { depth := 2 } "(((a)) && (((b || ((c))))))" =
    .ok ⟨[.check "a", .nested ⟨[.check "b", .check "c"], [.combine .or 0 1], none⟩],
      [.combine .and 0 1], none⟩ := by
  decide +kernel

end Rulebook
