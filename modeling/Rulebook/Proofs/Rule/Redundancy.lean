import Mathlib
import Rulebook.Proofs.Rule.Joining
import Rulebook.Proofs.Rule.Size
import Rulebook.Proofs.Equality

namespace Rulebook

open Text

theorem Connective.isBlank_sign (c : Connective) : isBlank c.sign = false := by cases c <;> rfl

theorem cutAtConnective_blanks_append {l : List Char} (hl : ∀ b ∈ l, isBlank b = true)
    (gs : List Glyph) : cutAtConnective 0 (glyphs l ++ gs) =
      (cutAtConnective 0 gs).map fun (before, c, after) ↦ (glyphs l ++ before, c, after) := by
  have hnone := (cutAtConnective_blanks_before hl []).2 rfl
  have hopen := openBrackets_blanks_before hl [] []
  rw [List.append_nil] at hnone hopen
  have hdepth : (glyphs l).foldl depthAfter 0 = 0 := depth_openBrackets hopen
  have hlast : ∀ g ∈ (glyphs l).getLast?, ∀ c : Connective, g ≠ .plain c.sign := by
    obtain rfl | ⟨l, b, rfl⟩ := List.eq_nil_or_concat' l
    · exact nofun
    · exact last_ne_sign (hl b (by simp)) l
  rw [cutAtConnective_append hnone hlast, hdepth]

theorem EndsAt.of_blanks_append {c : Connective} {l q : List Char}
    (hl : ∀ b ∈ l, isBlank b = true) (h : EndsAt c (l ++ q)) : EndsAt c q := by
  refine ⟨fun hd ↦ h.not_dangles ((dangles_blanks_append hl q).2 hd), fun rest ↦ ?_⟩
  have hcut := h.cut rest
  rw [glyphs_append (not_dangles_of_isBlank hl), List.append_assoc,
    cutAtConnective_blanks_append hl] at hcut
  obtain ⟨⟨before, c', after⟩, hcut, heq⟩ := Option.map_eq_some_iff.1 hcut
  simp only [Prod.mk.injEq, List.append_cancel_left_eq] at heq
  obtain ⟨rfl, rfl, rfl⟩ := heq
  exact hcut

namespace Splits

variable {qs : List (List Char)} {cs : List Connective}

theorem exists_trimEnd (h : Splits qs cs) :
    ∃ qs', Splits qs' cs ∧ joinTexts qs' cs = trimEnd (joinTexts qs cs) ∧
      qs'.map trim = qs.map trim := by
  induction h with
  | @last q h =>
    obtain ⟨r, hr, hblank⟩ := Text.exists_trimEnd q
    refine ⟨[trimEnd q], .last ?_, rfl, ?_⟩
    · rw [hasConnective_eq_false_iff] at h ⊢
      rwa [hr, cutAtConnective_blanks_after hblank] at h
    · conv_rhs => rw [hr, List.map_singleton, trim_append_right hblank]
      rfl
  | @cons q qs c cs hq hqs ih =>
    obtain ⟨qs', hqs', hjoined, htrim⟩ := ih
    refine ⟨q :: qs', .cons hq hqs', ?_, by rw [List.map_cons, List.map_cons, htrim]⟩
    have hsplit (l : List (List Char)) : joinTexts (q :: l) (c :: cs) =
        (q ++ [c.sign]) ++ c.sign :: joinTexts l cs := by
      rw [joinTexts, c.toList_token]
      simp
    rw [hsplit, hsplit, trimEnd_append_cons c.isBlank_sign, hjoined]

theorem exists_trimStart (h : Splits qs cs) :
    ∃ qs', Splits qs' cs ∧ joinTexts qs' cs = trimStart (joinTexts qs cs) ∧
      qs'.map trim = qs.map trim := by
  have hblank (q : List Char) : ∀ b ∈ q.takeWhile isBlank, isBlank b = true :=
    fun _ hb ↦ List.mem_takeWhile_imp hb
  have hq (q : List Char) : q.takeWhile isBlank ++ trimStart q = q :=
    List.takeWhile_append_dropWhile
  have htrim (q : List Char) : trim (trimStart q) = trim q := by
    conv_rhs => rw [← hq q, trim_append_left (hblank q)]
  cases h with
  | @last q h =>
    refine ⟨[trimStart q], .last ?_, rfl, by simp [htrim]⟩
    rw [hasConnective_eq_false_iff] at h ⊢
    rwa [← hq q, cutAtConnective_blanks_before (hblank q)] at h
  | @cons q qs c cs hends hqs =>
    refine ⟨trimStart q :: qs, .cons ?_ hqs, ?_, by simp [htrim]⟩
    · rw [← hq q] at hends
      exact hends.of_blanks_append (hblank q)
    · have hsplit (l : List Char) : joinTexts (l :: qs) (c :: cs) =
          l ++ c.sign :: c.sign :: joinTexts qs cs := by
        rw [joinTexts, c.toList_token]
        simp
      rw [hsplit, hsplit, trimStart_append_cons c.isBlank_sign]

theorem exists_trim (h : Splits qs cs) :
    ∃ qs', Splits qs' cs ∧ joinTexts qs' cs = trim (joinTexts qs cs) ∧
      qs'.map trim = qs.map trim := by
  obtain ⟨qs₁, h₁, hjoined₁, htrim₁⟩ := h.exists_trimStart
  obtain ⟨qs₂, h₂, hjoined₂, htrim₂⟩ := h₁.exists_trimEnd
  exact ⟨qs₂, h₂, by rw [hjoined₂, hjoined₁, trim], htrim₂.trans htrim₁⟩

end Splits

/-- A text in any number of pairs of parentheses, with any white space on both sides of each. A text
that would escape the parenthesis after it stays as it is. -/
inductive Wrapped (s : List Char) : List Char → Prop
  | bare : Wrapped s s
  | paren {m before lead trail after : List Char} :
    ¬ Dangles s → Wrapped s m →
    (∀ b ∈ before ++ lead ++ trail ++ after, isBlank b = true) →
    Wrapped s (before ++ ('(' :: (lead ++ m ++ trail) ++ [')']) ++ after)

/-- A text in parentheses with white space around them, in which something is read that unwraps to
`u`. -/
inductive InParens (u : List Char) : List Char → Prop
  | intro {before inner after : List Char} :
    (∀ b ∈ before, isBlank b = true) → (∀ b ∈ after, isBlank b = true) → ¬ Dangles inner →
    Balanced (glyphs inner) → unwrap inner = u →
    InParens u (before ++ ('(' :: inner ++ [')']) ++ after)

namespace InParens

variable {u q : List Char}

theorem exists_trim (h : InParens u q) :
    ∃ inner, trim q = '(' :: inner ++ [')'] ∧ ¬ Dangles inner ∧ Balanced (glyphs inner) ∧
      unwrap inner = u := by
  cases h with
  | @intro before inner after hbefore hafter hd hb hu =>
    refine ⟨inner, ?_, hd, hb, hu⟩
    rw [trim_append_right hafter, trim_append_left hbefore, trim_paren]

theorem not_dangles (h : InParens u q) : ¬ Dangles q := by
  cases h with
  | intro _ hafter =>
    rw [← List.append_assoc]
    exact not_dangles_append_blanks (not_dangles_concat (by decide) _) hafter

theorem balanced (h : InParens u q) : Balanced (glyphs q) := by
  obtain ⟨inner, hq, hd, hb, -⟩ := h.exists_trim
  rw [← balanced_trim, hq, glyphs_paren hd]
  exact hb.paren

theorem unwrap_eq (h : InParens u q) : unwrap q = u := by
  obtain ⟨inner, hq, hd, hb, hu⟩ := h.exists_trim
  rw [← unwrap_trim, hq, unwrap_paren hd hb, hu]

theorem single (h : InParens u q) : cutAtConnective 0 (glyphs q) = none := by
  obtain ⟨inner, hq, hd, hb, -⟩ := h.exists_trim
  rw [← cutAtConnective_trim, hq, glyphs_paren hd]
  exact cutAtConnective_paren hb

theorem endsAt (h : InParens u q) (c : Connective) : EndsAt c q := by
  have hdepth : (glyphs q).foldl depthAfter 0 = 0 := depth_openBrackets h.balanced
  have hlast : ∀ g ∈ (glyphs q).getLast?, ∀ c : Connective, g ≠ .plain c.sign := by
    cases h with
    | @intro before inner after _ hafter hd =>
      obtain rfl | ⟨after, b, rfl⟩ := List.eq_nil_or_concat' after
      · have hne : ¬ Dangles (before ++ '(' :: inner) :=
          (dangles_append_cons (by decide) before inner).not.2 hd
        rw [List.append_nil, ← List.append_assoc, glyphs_append hne, glyphs_plain (by decide),
          glyphs_nil, List.getLast?_concat]
        rintro g ⟨⟩ c
        cases c <;> decide
      · rw [← List.append_assoc]
        exact last_ne_sign (hafter b (by simp)) _
  refine ⟨h.not_dangles, fun rest ↦ ?_⟩
  rw [cutAtConnective_append h.single hlast, hdepth, cutAtConnective_here]
  simp

theorem captured?_eq_some_iff (h : InParens u q) {r : List Char} :
    captured? (trim q) = some r ↔ hasConnective u = false ∧ u = '@' :: r := by
  obtain ⟨inner, hq, -⟩ := h.exists_trim
  rw [Rulebook.captured?_eq_some_iff, unwrap_trim, h.unwrap_eq, hq]
  simp

end InParens

theorem Wrapped.eq_or_inParens {s q : List Char} (h : Wrapped s q) (hs : Balanced (glyphs s)) :
    q = s ∨ InParens (unwrap s) q := by
  induction h with
  | bare => exact .inl rfl
  | @paren m before lead trail after hd hm hblank ih =>
    simp only [List.forall_mem_append] at hblank
    obtain ⟨⟨⟨hbefore, hlead⟩, htrail⟩, hafter⟩ := hblank
    have hmid : ¬ Dangles m ∧ Balanced (glyphs m) ∧ unwrap m = unwrap s := by
      obtain rfl | hp := ih
      · exact ⟨hd, hs, rfl⟩
      · exact ⟨hp.not_dangles, hp.balanced, hp.unwrap_eq⟩
    obtain ⟨hdm, hbm, hum⟩ := hmid
    refine .inr (.intro hbefore hafter ?_ ?_ ?_)
    · refine not_dangles_append_blanks ?_ htrail
      rwa [dangles_blanks_append hlead]
    · rw [Balanced, openBrackets_blanks_after htrail, openBrackets_blanks_before hlead]
      exact hbm
    · rw [← hum]
      exact unwrap_of_trim_eq (by rw [trim_append_right htrail, trim_append_left hlead])

/-- Two trimmed segments that the same leaf is made from. -/
def SameLeaf (raw raw' : List Char) : Prop :=
  captured? raw' = captured? raw ∧ unwrap raw' = unwrap raw

theorem Wrapped.sameLeaf {s q : List Char} (h : Wrapped s q) (hb : Balanced (glyphs s))
    (hs : cutAtConnective 0 (glyphs s) = none) : SameLeaf (trim s) (trim q) := by
  obtain rfl | hp := h.eq_or_inParens hb
  · exact ⟨rfl, rfl⟩
  refine ⟨Option.ext fun r ↦ ?_, by rw [unwrap_trim, unwrap_trim, hp.unwrap_eq]⟩
  rw [hp.captured?_eq_some_iff, captured?_eq_some_iff, unwrap_trim]
  have hmarked {r : List Char} (ht : trim s = '@' :: r) :
      unwrap s = '@' :: r ∧ hasConnective (unwrap s) = false := by
    have hu : unwrap s = '@' :: r := by rw [unwrap_cons ht, if_neg (by simp)]
    rw [hasConnective_eq_false_iff, hu, ← ht]
    exact ⟨rfl, (cutAtConnective_trim s).2 hs⟩
  constructor
  · rintro ⟨hc, hu⟩
    by_cases hat : (trim s).head? = some '@'
    · obtain ⟨r', ht⟩ := List.head?_eq_some_iff.1 hat
      exact .inl (ht.trans ((hmarked ht).1.symm.trans hu))
    · exact .inr ⟨hat, hc, hu⟩
  · rintro (ht | ⟨-, hc, hu⟩)
    · exact ⟨(hmarked ht).2, (hmarked ht).1⟩
    · exact ⟨hc, hu⟩

theorem leafTexts_of_sameLeaf {i : Nat} {capture capture' : Option Nat} {segs segs' : List Segment}
    {texts : List (List Char)}
    (hsegs : List.Forall₂ (fun s s' ↦ SameLeaf (trim s.text) (trim s'.text)) segs segs')
    (h : leafTexts i capture segs = .ok (texts, capture')) :
    ∃ texts', leafTexts i capture segs' = .ok (texts', capture') ∧
      List.Forall₂ (fun t t' ↦ unwrap t' = unwrap t) texts texts' := by
  induction hsegs generalizing i capture texts with
  | nil =>
    cases h
    exact ⟨[], rfl, .nil⟩
  | @cons s s' segs segs' hs _ ih =>
    obtain ⟨hcaptured, hunwrap⟩ := hs
    obtain ⟨t, c, ts, hstep, ht, hts, rfl⟩ := leafTexts_cons_eq_ok_iff.1 h
    obtain ⟨ts', hts', hsame⟩ := ih hts
    cases hstep with
    | plain hc =>
      have hstep' : LeafStep i capture _ _ capture := .plain (hcaptured.trans hc)
      exact ⟨_, leafTexts_cons_eq_ok_iff.2 ⟨_, _, ts', hstep', hunwrap.symm ▸ ht, hts', rfl⟩,
        .cons hunwrap hsame⟩
    | marked hc =>
      have hstep' : LeafStep i none _ _ (some i) := .marked (hcaptured.trans hc)
      exact ⟨_, leafTexts_cons_eq_ok_iff.2 ⟨_, _, ts', hstep', ht, hts', rfl⟩, .cons rfl hsame⟩

theorem readLeaf_congr {t t' : List Char} (h : unwrap t' = unwrap t) (limit levels : Nat) :
    readLeaf limit levels t' = readLeaf limit levels t := by
  rw [readLeaf, readLeaf, h]

theorem readLeaves_congr {limit levels : Nat} {texts texts' : List (List Char)} {leaves : List Leaf}
    (h : List.Forall₂ (fun t t' ↦ unwrap t' = unwrap t) texts texts')
    (hleaves : List.Forall₂ (fun t l ↦ readLeaf limit levels t = .ok l) texts leaves) :
    List.Forall₂ (fun t l ↦ readLeaf limit levels t = .ok l) texts' leaves := by
  induction h generalizing leaves with
  | nil => exact hleaves
  | cons ht _ ih =>
    obtain ⟨l, ls, hl, hls, rfl⟩ := List.forall₂_cons_left_iff.1 hleaves
    exact .cons ((readLeaf_congr ht limit levels).trans hl) (ih hls)

theorem Splits.unwrap_joinTexts {qs : List (List Char)} {cs : List Connective} (h : Splits qs cs)
    (hb : Balanced (glyphs (joinTexts qs cs))) (hcs : cs ≠ []) :
    unwrap (joinTexts qs cs) ≠ [] ∧ (segments 0 (glyphs (unwrap (joinTexts qs cs)))).2 = cs ∧
      (segments 0 (glyphs (unwrap (joinTexts qs cs)))).1.map (fun s ↦ trim s.text) =
        qs.map trim := by
  obtain ⟨qs', hqs', hjoined, htrim⟩ := h.exists_trim
  obtain ⟨hsegcs, hsegqs⟩ := hqs'.segments_joinTexts 0
  have hcut : cutAtConnective 0 (glyphs (trim (joinTexts qs cs))) ≠ none := fun hnone ↦ by
    rw [← hjoined] at hnone
    exact hcs (hsegcs.symm.trans (segments_eq_nil_iff.2 hnone))
  have hunwrap : unwrap (joinTexts qs cs) = trim (joinTexts qs cs) := by
    obtain ⟨hu, -⟩ | ⟨m, hm, hd, hbm, -⟩ := unwrap_cases hb
    · exact hu
    · -- in parentheses as a whole it would have no connective
      refine absurd ?_ hcut
      rw [hm, glyphs_paren hd]
      exact cutAtConnective_paren hbm
  rw [hunwrap, ← hjoined]
  refine ⟨fun hnil ↦ hcut ?_, hsegcs, ?_⟩
  · rw [← hjoined, hnil]
    rfl
  · rw [← htrim, ← hsegqs, List.map_map, hsegqs]
    rfl

/-- What a segment may be exchanged for: it makes the same leaf, and it ends where the segment
does. -/
structure Replaces (t q : List Char) : Prop where
  sameLeaf : SameLeaf (trim t) (trim q)
  balanced : Balanced (glyphs q)
  endsAt : ∀ c, EndsAt c t → EndsAt c q
  single : hasConnective t = false → hasConnective q = false

theorem Wrapped.replaces {s q : List Char} (h : Wrapped s q) (hb : Balanced (glyphs s))
    (hs : cutAtConnective 0 (glyphs s) = none) : Replaces s q := by
  have hsame := h.sameLeaf hb hs
  obtain rfl | hp := h.eq_or_inParens hb
  · exact ⟨hsame, hb, fun _ h ↦ h, id⟩
  · exact ⟨hsame, hp.balanced, fun c _ ↦ hp.endsAt c,
      fun _ ↦ hasConnective_eq_false_iff.2 hp.single⟩

section Level

variable {limit levels : Nat} {cs : List Char} {qs : List (List Char)}
  (hqs : List.Forall₂ Replaces ((segments 0 (glyphs cs)).1.map Segment.text) qs)

include hqs

theorem splits_of_replaces : Splits qs (segments 0 (glyphs cs)).2 :=
  (splits_segments rfl 0).exchange (fun _ _ c h ↦ h.endsAt c) (fun _ _ h ↦ h.single) hqs

theorem balanced_of_replaces : Balanced (glyphs (joinTexts qs (segments 0 (glyphs cs)).2)) := by
  refine (splits_of_replaces hqs).balanced fun q hq ↦ ?_
  obtain ⟨t, -, h⟩ := exists_mem_of_forall₂ hqs hq
  exact h.balanced

theorem sameLeaf_of_replaces (hcs : (segments 0 (glyphs cs)).2 ≠ []) :
    List.Forall₂ (fun s s' ↦ SameLeaf (trim s.text) (trim s'.text)) (segments 0 (glyphs cs)).1
      (segments 0 (glyphs (unwrap (joinTexts qs (segments 0 (glyphs cs)).2)))).1 := by
  obtain ⟨-, -, htrim⟩ :=
    (splits_of_replaces hqs).unwrap_joinTexts (balanced_of_replaces hqs) hcs
  have hsame := hqs.imp fun _ _ h ↦ h.sameLeaf
  rwa [List.forall₂_map_left_iff, ← List.forall₂_map_right_iff, ← htrim,
    List.forall₂_map_right_iff] at hsame

theorem readLevel_of_replaces {r : Rule} (hu : unwrap cs = cs)
    (h : readLevel limit levels cs = .ok r) :
    readLevel limit levels (joinTexts qs (segments 0 (glyphs cs)).2) = .ok r := by
  by_cases hcs : (segments 0 (glyphs cs)).2 = []
  · -- the whole text is the only segment
    rw [segments_of_none (segments_eq_nil_iff.1 hcs)] at hqs ⊢
    obtain ⟨q, _, hq, hnil, rfl⟩ := List.forall₂_cons_left_iff.1 hqs
    obtain rfl := List.forall₂_nil_left_iff.1 hnil
    have hunwrap := hq.sameLeaf.2
    rw [unwrap_trim, unwrap_trim, Segment.text, chars_glyphs] at hunwrap
    rw [joinTexts, readLevel_congr hunwrap, h]
  · cases levels with
    | zero => cases h
    | succ levels =>
      obtain ⟨-, texts, leaves, capture, htexts, hleaves, rfl⟩ := readLevel_succ_eq_ok_iff.1 h
      rw [hu] at htexts ⊢
      obtain ⟨hne, hconnectives, -⟩ :=
        (splits_of_replaces hqs).unwrap_joinTexts (balanced_of_replaces hqs) hcs
      obtain ⟨texts', htexts', hunwrap⟩ :=
        leafTexts_of_sameLeaf (sameLeaf_of_replaces hqs hcs) htexts
      refine readLevel_succ_eq_ok_iff.2 ⟨hne, texts', leaves, capture, htexts',
        readLeaves_congr hunwrap hleaves, ?_⟩
      rw [hconnectives]

end Level

theorem replaces_of_wrapped {cs : List Char} {qs : List (List Char)} (hb : Balanced (glyphs cs))
    (hqs : List.Forall₂ Wrapped ((segments 0 (glyphs cs)).1.map Segment.text) qs) :
    List.Forall₂ Replaces ((segments 0 (glyphs cs)).1.map Segment.text) qs := by
  have hspec : ∀ t ∈ (segments 0 (glyphs cs)).1.map Segment.text,
      Balanced (glyphs t) ∧ cutAtConnective 0 (glyphs t) = none := by
    rintro _ ht
    obtain ⟨s, hs, rfl⟩ := List.mem_map.1 ht
    obtain ⟨hg, hbs, hn⟩ := segment_spec rfl hb 0 hs
    rw [Segment.text, hg]
    exact ⟨hbs, hn⟩
  exact ((List.forall₂_and_left _ _).2 ⟨hspec, hqs⟩).imp fun _ _ h ↦ h.2.replaces h.1.1 h.1.2

namespace Rule

/-- A rule text that is not in parentheses as a whole is read to the same rule when its segments
are put into parentheses, as often and with as much white space as the limit on bytes allows. -/
theorem read_wrapped {limits limits' : Limits} {text text' : String} {r : Rule}
    {qs : List (List Char)} (h : read limits text = .ok r) (hu : unwrap text.toList = text.toList)
    (hqs : List.Forall₂ Wrapped ((segments 0 (glyphs text.toList)).1.map Segment.text) qs)
    (htext : text'.toList = joinTexts qs (segments 0 (glyphs text.toList)).2)
    (hdepth : limits'.depth = limits.depth) (hbytes : text'.utf8ByteSize ≤ limits'.bytes) :
    read limits' text' = .ok r := by
  obtain ⟨-, hb, hr⟩ := read_eq_ok_iff.1 h
  have hreplaces := replaces_of_wrapped hb hqs
  rw [read_eq_ok_iff, htext, hdepth]
  exact ⟨hbytes, balanced_of_replaces hreplaces, readLevel_of_replaces hreplaces hu hr⟩

theorem read_wrapped_marked :
    read { bytes := 39 } " ( (@a || b)  )&&((\t @c[x&&y] ) )|| d\\" = .ok
      ⟨[.nested ⟨[.check "a", .check "b"], [.combine .or 0 1], some 0⟩, .check "c[x&&y]",
        .check "d\\"], [.combine .and 0 1, .combine .or 1 2], some 1⟩ := by
  have hread : read { bytes := 27 } "(@a || b) && @c[x&&y]|| d\\" = .ok
      ⟨[.nested ⟨[.check "a", .check "b"], [.combine .or 0 1], some 0⟩, .check "c[x&&y]",
        .check "d\\"], [.combine .and 0 1, .combine .or 1 2], some 1⟩ := by
    decide +kernel
  have htexts : (segments 0 (glyphs "(@a || b) && @c[x&&y]|| d\\".toList)).1.map Segment.text =
      ["(@a || b) ".toList, " @c[x&&y]".toList, " d\\".toList] := by
    decide +kernel
  have hconnectives : (segments 0 (glyphs "(@a || b) && @c[x&&y]|| d\\".toList)).2 =
      [.and, .or] := by
    decide +kernel
  have hfirst := @Wrapped.paren "(@a || b) ".toList _ [' '] [' '] [' '] [] (by decide) .bare
    (List.all_eq_true.1 rfl)
  have hinner := @Wrapped.paren " @c[x&&y]".toList _ [] ['\t'] [' '] [] (by decide) .bare
    (List.all_eq_true.1 rfl)
  have hsecond := @Wrapped.paren " @c[x&&y]".toList _ [] [] [' '] [] (by decide) hinner
    (List.all_eq_true.1 rfl)
  have hqs := List.Forall₂.cons hfirst (.cons hsecond (.cons (@Wrapped.bare " d\\".toList) .nil))
  rw [← htexts] at hqs
  refine read_wrapped hread (by decide +kernel) hqs ?_ rfl (by decide)
  rw [hconnectives]
  decide +kernel

end Rule

end Rulebook
