import Rulebook.Proofs.Rule.Reading
import Rulebook.Rule.Canonical

namespace Rulebook

open Text

/-- Pieces joined by connectives, of which there is one less. -/
def chainText : List (List Char) → List Connective → List Char
  | p :: ps, c :: cs => p ++ ' ' :: (c.token.toList ++ ' ' :: chainText ps cs)
  | [p], [] => p
  | _, _ => []

structure Piece (cs : List Char) : Prop where
  nonempty : cs ≠ []
  trimmed : trim cs = cs
  balanced : Balanced (glyphs cs)
  single : hasConnective cs = false

def markedFrom (capture : Option Nat) (i : Nat) : List (List Char) → List (List Char)
  | [] => []
  | t :: ts => ((if capture = some i then ['@'] else []) ++ t) :: markedFrom capture (i + 1) ts

theorem length_markedFrom (capture : Option Nat) (i : Nat) (ts : List (List Char)) :
    (markedFrom capture i ts).length = ts.length := by
  induction ts generalizing i with
  | nil => rfl
  | cons t ts ih => exact congrArg (· + 1) (ih (i + 1))

theorem leafChars_of_lt {texts : List (List Char)} (capture : Option Nat) {i : Nat}
    (hi : i < texts.length) :
    leafChars texts capture i = (if capture = some i then ['@'] else []) ++ texts[i] := by
  rw [leafChars, List.getElem?_eq_getElem hi]
  rfl

theorem chainText_markedFrom (texts : List (List Char)) (capture : Option Nat)
    (cs : List Connective) (k : Nat) (hlen : texts.length = k + cs.length + 1) :
    chainText (markedFrom capture k (texts.drop k)) cs = leafChars texts capture k ++
      (cs.zipIdx k).flatMap fun (c, i) ↦
        ' ' :: c.token.toList ++ ' ' :: leafChars texts capture (i + 1) := by
  have hk : k < texts.length := by omega
  rw [List.drop_eq_getElem_cons hk, markedFrom, ← leafChars_of_lt capture hk]
  induction cs generalizing k with
  | nil =>
    rw [List.drop_of_length_le (by simp only [List.length_nil] at hlen; omega)]
    simp [markedFrom, chainText]
  | cons c cs ih =>
    simp only [List.length_cons] at hlen
    have hk' : k + 1 < texts.length := by omega
    have htail := ih (k + 1) (by omega) hk'
    rw [chainText, List.drop_eq_getElem_cons hk', markedFrom, ← leafChars_of_lt capture hk', htail,
      List.zipIdx_cons, List.flatMap_cons]
    simp

theorem chainChars_groupsOf {texts : List (List Char)} {cs : List Connective}
    (capture : Option Nat) (hlen : texts.length = cs.length + 1) :
    chainChars texts (groupsOf cs) capture = chainText (markedFrom capture 0 texts) cs := by
  have h := chainText_markedFrom texts capture cs 0 (by omega)
  rw [List.drop_zero] at h
  rw [h, chainChars]
  congr 1
  cases cs with
  | nil => rfl
  | cons c cs =>
    rw [groupsOf, if_neg (by simp), List.flatMap_map]

/-- Splitting undoes joining: the segments are the pieces but for white space. -/
theorem segments_chainText {ps : List (List Char)} {cs : List Connective}
    (hlen : ps.length = cs.length + 1) (hp : ∀ p ∈ ps, Piece p) (lead : List Char)
    (hlead : ∀ b ∈ lead, isBlank b = true) (offset : Nat) :
    (segments offset (glyphs (lead ++ chainText ps cs))).2 = cs ∧
      (segments offset (glyphs (lead ++ chainText ps cs))).1.map (fun s ↦ trim (chars s.glyphs)) =
        ps := by
  induction cs generalizing ps lead offset with
  | nil =>
    obtain ⟨p, rfl⟩ := List.length_eq_one_iff.1 hlen
    have hpiece := hp p (by simp)
    have hcut : cutAtConnective 0 (glyphs (lead ++ p)) = none :=
      (cutAtConnective_blanks_before hlead p).2 (hasConnective_eq_false_iff.1 hpiece.single)
    rw [chainText, segments_of_none hcut]
    simp [trim_append_left hlead, hpiece.trimmed]
  | cons c cs ih =>
    obtain _ | ⟨p, ps⟩ := ps
    · cases hlen
    have hpiece := hp p (by simp)
    have htext : lead ++ chainText (p :: ps) (c :: cs) =
        lead ++ p ++ [' '] ++ c.sign :: c.sign :: ([' '] ++ chainText ps cs) := by
      simp [chainText, c.toList_token]
    have hglyphs : glyphs (lead ++ chainText (p :: ps) (c :: cs)) = glyphs (lead ++ p ++ [' ']) ++
        .plain c.sign :: .plain c.sign :: glyphs ([' '] ++ chainText ps cs) := by
      rw [htext, glyphs_append (not_dangles_concat (by decide) _), glyphs_plain c.sign_ne_backslash,
        glyphs_plain c.sign_ne_backslash]
    have hbal : Balanced (glyphs (lead ++ p ++ [' '])) := by
      rw [Balanced, openBrackets_blanks_after isBlank_of_mem_space, openBrackets_blanks_before hlead]
      exact hpiece.balanced
    have hnone : cutAtConnective 0 (glyphs (lead ++ p ++ [' '])) = none :=
      (cutAtConnective_blank_after (by decide) 0 _).2
        ((cutAtConnective_blanks_before hlead p).2 (hasConnective_eq_false_iff.1 hpiece.single))
    have hcut : cutAtConnective 0 (glyphs (lead ++ chainText (p :: ps) (c :: cs))) =
        some (glyphs (lead ++ p ++ [' ']), c, glyphs ([' '] ++ chainText ps cs)) := by
      have hdepth : (glyphs (lead ++ p ++ [' '])).foldl depthAfter 0 = 0 := depth_openBrackets hbal
      rw [hglyphs, cutAtConnective_append hnone (last_ne_sign (by decide) _), hdepth,
        cutAtConnective_here]
      simp
    obtain ⟨hcs, hps⟩ := ih (Nat.succ.inj hlen) (fun q hq ↦ hp q (by simp [hq])) [' ']
      isBlank_of_mem_space (offset + width (glyphs (lead ++ p ++ [' '])) + 2)
    rw [segments_of_some hcut]
    refine ⟨congrArg (c :: ·) hcs, ?_⟩
    rw [List.map_cons, hps, chars_glyphs, trim_concat (by decide), trim_append_left hlead,
      hpiece.trimmed]

theorem openBrackets_chainText {ps : List (List Char)} {cs : List Connective}
    (hlen : ps.length = cs.length + 1) (s : List Bracket) :
    openBrackets s (glyphs (chainText ps cs)) =
      ps.foldlM (fun s p ↦ openBrackets s (glyphs p)) s := by
  induction cs generalizing ps s with
  | nil =>
    obtain ⟨p, rfl⟩ := List.length_eq_one_iff.1 hlen
    exact (Option.bind_fun_some _).symm
  | cons c cs ih =>
    obtain _ | ⟨p, ps⟩ := ps
    · cases hlen
    rw [chainText, openBrackets_blank_after (by decide), List.foldlM_cons]
    congr 1
    funext u
    rw [c.toList_token, List.cons_append, List.cons_append, List.nil_append,
      glyphs_plain c.sign_ne_backslash, glyphs_plain c.sign_ne_backslash, glyphs_plain (by decide),
      openBrackets_cons, bracketStep_sign, Option.bind_some, openBrackets_cons, bracketStep_sign,
      Option.bind_some, openBrackets_cons, bracketStep_blank (by decide), Option.bind_some,
      ih (Nat.succ.inj hlen)]

theorem chainText_ne_nil {ps : List (List Char)} {cs : List Connective}
    (hlen : ps.length = cs.length + 1) (hp : ∀ p ∈ ps, p ≠ []) : chainText ps cs ≠ [] := by
  obtain _ | ⟨p, ps⟩ := ps
  · cases hlen
  cases cs with
  | nil =>
    obtain rfl := List.length_eq_zero_iff.1 (Nat.succ.inj hlen)
    exact hp p (by simp)
  | cons c cs => simp [chainText]

theorem trim_chainText {ps : List (List Char)} {cs : List Connective}
    (hlen : ps.length = cs.length + 1) (hp : ∀ p ∈ ps, p ≠ [] ∧ trim p = p) :
    trim (chainText ps cs) = chainText ps cs := by
  induction cs generalizing ps with
  | nil =>
    obtain ⟨p, rfl⟩ := List.length_eq_one_iff.1 hlen
    exact (hp p (by simp)).2
  | cons c cs ih =>
    obtain _ | ⟨p, ps⟩ := ps
    · cases hlen
    obtain ⟨hne, htrim⟩ := hp p (by simp)
    have hps : ∀ q ∈ ps, q ≠ [] ∧ trim q = q := fun q hq ↦ hp q (by simp [hq])
    have hrest : chainText ps cs ≠ [] :=
      chainText_ne_nil (Nat.succ.inj hlen) fun q hq ↦ (hps q hq).1
    refine trim_eq_self_iff.2 ⟨?_, ?_⟩
    · rw [chainText, List.head?_append_of_ne_nil _ hne]
      exact (trim_eq_self_iff.1 htrim).1
    · rw [chainText, List.getLast?_append_of_ne_nil _ (by simp),
        List.getLast?_cons_of_ne_nil (by simp), List.getLast?_append_of_ne_nil _ (by simp),
        List.getLast?_cons_of_ne_nil hrest]
      exact (trim_eq_self_iff.1 (ih (Nat.succ.inj hlen) hps)).2

theorem dangles_chainText {ps : List (List Char)} {cs : List Connective}
    (hlen : ps.length = cs.length + 1) :
    Dangles (chainText ps cs) ↔ ∃ p, ps.getLast? = some p ∧ Dangles p := by
  induction cs generalizing ps with
  | nil =>
    obtain ⟨p, rfl⟩ := List.length_eq_one_iff.1 hlen
    simp [chainText]
  | cons c cs ih =>
    obtain _ | ⟨p, ps⟩ := ps
    · cases hlen
    have hne : ps ≠ [] := fun h ↦ by rw [h] at hlen; cases hlen
    rw [chainText, dangles_append_cons (by decide), dangles_append_cons (by decide),
      ih (Nat.succ.inj hlen), List.getLast?_cons_of_ne_nil hne]

theorem hasConnective_chainText {ps : List (List Char)} {cs : List Connective}
    (hlen : ps.length = cs.length + 1) (hp : ∀ p ∈ ps, Piece p) (hcs : cs ≠ []) :
    hasConnective (chainText ps cs) = true := by
  by_contra h
  have hcut := hasConnective_eq_false_iff.1 (Bool.eq_false_iff.2 h)
  have hsegs := (segments_chainText hlen hp [] (by simp) 0).1
  exact hcs (hsegs.symm.trans (segments_eq_nil_iff.2 hcut))

theorem not_enclosed_chainText {p : List Char} (hp : Balanced (glyphs p)) (ps : List (List Char))
    (c : Connective) (cs : List Connective) :
    ¬ Enclosed (glyphs (chainText (p :: ps) (c :: cs))) := by
  have htext : chainText (p :: ps) (c :: cs) =
      p ++ [' '] ++ c.sign :: c.sign :: ' ' :: chainText ps cs := by
    simp [chainText, c.toList_token]
  rw [htext, glyphs_append (not_dangles_concat (by decide) p), glyphs_plain c.sign_ne_backslash]
  refine not_enclosed_append ?_ (fun h ↦ ?_) (by simp)
  · rw [Balanced, openBrackets_blanks_after isBlank_of_mem_space]
    exact hp
  · have hchars := congrArg chars h
    simp at hchars

namespace Piece

theorem marker {cs : List Char} (h : Piece cs) : Piece ('@' :: cs) := by
  refine ⟨by simp, trim_eq_self_iff.2 ⟨fun c hc ↦ ?_, ?_⟩, balanced_marker.2 h.balanced, ?_⟩
  · cases hc
    decide
  · rw [List.getLast?_cons_of_ne_nil h.nonempty]
    exact (trim_eq_self_iff.1 h.trimmed).2
  · rw [hasConnective_eq_false_iff, cutAtConnective_marker]
    exact hasConnective_eq_false_iff.1 h.single

theorem paren {m : List Char} (hd : ¬ Dangles m) (hb : Balanced (glyphs m)) :
    Piece ('(' :: m ++ [')']) := by
  refine ⟨by simp, trim_paren m, ?_, ?_⟩
  · rw [glyphs_paren hd]
    exact hb.paren
  · rw [hasConnective_eq_false_iff, glyphs_paren hd]
    exact cutAtConnective_paren hb

theorem of_markedFrom {capture : Option Nat} {i : Nat} {ts : List (List Char)}
    (h : ∀ t ∈ ts, Piece t) : ∀ p ∈ markedFrom capture i ts, Piece p := by
  induction ts generalizing i with
  | nil => exact fun _ hp ↦ nomatch hp
  | cons t ts ih =>
    intro p hp
    obtain rfl | hp := List.mem_cons.1 hp
    · split
      · exact (h t (by simp)).marker
      · exact h t (by simp)
    · exact ih (fun t' ht' ↦ h t' (by simp [ht'])) p hp

end Piece

theorem CheckText.piece {cs : List Char} (h : CheckText cs) : Piece cs :=
  ⟨h.nonempty, h.trimmed, checkBalance_eq_ok_iff.1 h.balanced, h.single⟩

theorem CheckText.unwrap_eq {cs : List Char} (h : CheckText cs) : unwrap cs = cs :=
  unwrap_eq_self h.piece.balanced h.trimmed h.bare

theorem dangles_last_markedFrom {capture : Option Nat} {i : Nat} {ts : List (List Char)} :
    (∃ p, (markedFrom capture i ts).getLast? = some p ∧ Dangles p) ↔
      ∃ t, ts.getLast? = some t ∧ Dangles t := by
  induction ts generalizing i with
  | nil => simp [markedFrom]
  | cons t ts ih =>
    cases ts with
    | nil =>
      have hmark : Dangles ('@' :: t) ↔ Dangles t := dangles_plain (by decide) t
      by_cases hcap : capture = some i <;> simp [markedFrom, hcap, hmark]
    | cons t' ts =>
      rw [markedFrom, List.getLast?_cons_of_ne_nil (by simp [markedFrom]), ih,
        List.getLast?_cons_cons]

theorem filter_lt_succ {capture : Option Nat} {i : Nat} (h : capture ≠ some i) :
    capture.filter (· < i + 1) = capture.filter (· < i) := by
  cases capture with
  | none => rfl
  | some j =>
    have hij : j ≠ i := fun hj ↦ h (congrArg some hj)
    simp [Option.filter, show j < i + 1 ↔ j < i by omega]

theorem leafStep_marked {capture : Option Nat} {i : Nat} {t : List Char} (htrim : trim t = t)
    (hplain : capture ≠ some i → captured? t = none) :
    LeafStep i (capture.filter (· < i)) ((if capture = some i then ['@'] else []) ++ t) t
      (capture.filter (· < i + 1)) := by
  by_cases hcap : capture = some i
  · have hmark : captured? ('@' :: t) = some t := captured?_eq_some_iff.2 (.inl rfl)
    have hstep := LeafStep.marked (i := i) hmark
    rw [htrim] at hstep
    simpa [hcap, Option.filter] using hstep
  · rw [filter_lt_succ hcap, if_neg hcap]
    exact .plain (hplain hcap)

/-- Reading the leaf texts of a chain undoes marking them. -/
theorem leafTexts_markedFrom {capture : Option Nat} {i : Nat} {ts : List (List Char)}
    {segs : List Segment}
    (hs : segs.map (fun s ↦ trim (chars s.glyphs)) = markedFrom capture i ts)
    (ht : ∀ (k : Nat) (t : List Char), ts[k]? = some t → trim t = t ∧ unwrap t ≠ [] ∧
      (capture ≠ some (i + k) → captured? t = none))
    (hc : ∀ j ∈ capture, j < i + ts.length) :
    leafTexts i (capture.filter (· < i)) segs = .ok (ts, capture) := by
  induction ts generalizing i segs with
  | nil =>
    rw [markedFrom, List.map_eq_nil_iff] at hs
    subst hs
    cases capture with
    | none => rfl
    | some j => simp [leafTexts, show j < i from hc j rfl]
  | cons t ts ih =>
    obtain _ | ⟨s, segs⟩ := segs
    · cases hs
    obtain ⟨hs0, hs⟩ : trim (chars s.glyphs) = _ ∧ _ := List.cons.inj hs
    obtain ⟨htrim, hne, hplain⟩ := ht 0 t rfl
    have hrest (k : Nat) (t' : List Char) (hk : ts[k]? = some t') : trim t' = t' ∧
        unwrap t' ≠ [] ∧ (capture ≠ some (i + 1 + k) → captured? t' = none) := by
      rw [Nat.add_right_comm]
      exact ht (k + 1) t' hk
    have hlast (j : Nat) (hj : j ∈ capture) : j < i + 1 + ts.length := by
      rw [Nat.add_right_comm]
      exact hc j hj
    refine leafTexts_cons_eq_ok_iff.2
      ⟨t, capture.filter (· < i + 1), ts, ?_, hne, ih hs hrest hlast, rfl⟩
    rw [hs0]
    exact leafStep_marked htrim hplain

end Rulebook
