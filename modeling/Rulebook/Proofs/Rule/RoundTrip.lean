import Mathlib
import Rulebook.Proofs.Rule.Closing
import Rulebook.Proofs.Equality

namespace Rulebook

open Text

/-- Every rule that is read is canonical at each of its levels and fits the limits, and therefore
is structurally sound. -/
theorem canonical_of_read {limits : Limits} {text : String} {r : Rule}
    (h : Rule.read limits text = .ok r) :
    r.Canonical ∧ r.depth ≤ limits.depth ∧ r.defect? = none := by
  obtain ⟨-, hb, hr⟩ := read_eq_ok_iff.1 h
  obtain ⟨hcan, hdepth, -⟩ := readLevel_canonical hb hr
  exact ⟨hcan, hdepth, hcan.defect?_eq_none⟩

theorem canonical_of_read_marked :
    (Rule.mk [.nested ⟨[.check "a[x&&y]", .check "b\\"], [.combine .or 0 1], none⟩,
      .check "c\\)\\"] [.combine .and 0 1] (some 1)).Canonical := by
  have hread : Rule.read { depth := 2 } "((( a[x&&y]) ||b\\ )) && ((@ c\\)\\ ))" =
      .ok ⟨[.nested ⟨[.check "a[x&&y]", .check "b\\"], [.combine .or 0 1], none⟩,
        .check "c\\)\\"], [.combine .and 0 1], some 1⟩ := by
    decide +kernel
  exact (canonical_of_read hread).1

variable {r t : Rule}

namespace Rule

theorem Closed.nested (h : r.Closed) (ht : .nested t ∈ r.leaves) : t.Closed :=
  fun s hs ↦ h s (levels_of_inner (mem_levels.2 (.inr hs)) (leaf_mem_inner ht))

namespace Canonical

theorem nested (h : r.Canonical) (ht : .nested t ∈ r.leaves) : t.Canonical :=
  h.of_inner (leaf_mem_inner ht)

theorem not_dangles_nested (h : r.Canonical) (hc : r.Closed) (ht : .nested t ∈ r.leaves) :
    ¬ Dangles t.chars :=
  h.closed_iff.1 hc t (leaf_mem_inner ht)

theorem balanced_chars (h : r.Canonical) (hc : r.Closed) : Balanced (glyphs r.chars) := by
  have hopen := openBrackets_chars h []
  rwa [unclosed_eq_zero_iff.2 (h.closed_iff.1 hc)] at hopen

theorem piece (h : r.Canonical) (hc : r.Closed) : ∀ p ∈ r.pieces, Piece p := by
  refine Piece.of_markedFrom fun p hp ↦ ?_
  obtain ⟨l, hl, rfl⟩ := List.mem_map.1 hp
  cases l with
  | check s =>
    obtain ⟨i, hi⟩ := List.mem_iff_getElem?.1 hl
    exact (h.level.check i s hi).1.piece
  | nested t =>
    exact .paren (h.not_dangles_nested hc hl) ((h.nested hl).balanced_chars (hc.nested hl))

theorem chars_ne_nil (h : r.Canonical) (hc : r.Closed) : r.chars ≠ [] := by
  obtain ⟨cs, hlen, -, hchars⟩ := h.level.chars_eq
  rw [hchars]
  exact chainText_ne_nil hlen fun p hp ↦ (h.piece hc p hp).nonempty

theorem not_enclosed_lone (h : r.Canonical) {l : Leaf} (hl : r.leaves = [l]) :
    ¬ Enclosed (glyphs ((if r.capture = some 0 then ['@'] else []) ++ l.chars)) := by
  by_cases hcap : r.capture = some 0
  · rw [if_pos hcap]
    rintro ⟨m, -, hm⟩
    rw [List.singleton_append, glyphs_plain (by decide)] at hm
    cases hm
  · rw [if_neg hcap]
    cases l with
    | check s => exact (h.level.check 0 s (by rw [hl]; rfl)).1.bare
    | nested t => exact absurd (h.level.lone t hl) hcap

theorem not_enclosed_chars (h : r.Canonical) (hc : r.Closed) : ¬ Enclosed (glyphs r.chars) := by
  obtain ⟨cs, hlen, -, hchars⟩ := h.level.chars_eq
  cases cs with
  | nil =>
    obtain ⟨l, hl⟩ := List.length_eq_one_iff.1 (r.length_pieces.symm.trans hlen)
    have htext : r.chars = (if r.capture = some 0 then ['@'] else []) ++ l.chars := by
      rw [hchars, pieces, hl]
      rfl
    rw [htext]
    exact h.not_enclosed_lone hl
  | cons c cs =>
    cases hp : r.pieces with
    | nil => rw [hp] at hlen; cases hlen
    | cons p ps =>
      rw [hchars, hp]
      exact not_enclosed_chainText (h.piece hc p (by simp [hp])).balanced ps c cs

theorem unwrap_chars (h : r.Canonical) (hc : r.Closed) : unwrap r.chars = r.chars := by
  refine unwrap_eq_self (h.balanced_chars hc) ?_ (h.not_enclosed_chars hc)
  obtain ⟨cs, hlen, -, hchars⟩ := h.level.chars_eq
  rw [hchars]
  exact trim_chainText hlen fun p hp ↦
    ⟨(h.piece hc p hp).nonempty, (h.piece hc p hp).trimmed⟩

theorem hasConnective_chars (h : r.Canonical) (hc : r.Closed) (htwo : 2 ≤ r.leaves.length) :
    hasConnective r.chars = true := by
  obtain ⟨cs, hlen, -, hchars⟩ := h.level.chars_eq
  rw [hchars]
  refine hasConnective_chainText hlen (h.piece hc) ?_
  rintro rfl
  rw [← r.length_pieces, hlen] at htwo
  exact absurd htwo (by decide)

theorem unwrap_nested (h : r.Canonical) (hc : r.Closed) (ht : .nested t ∈ r.leaves) :
    unwrap (Leaf.nested t).chars = t.chars ∧ hasConnective t.chars = true := by
  have hct := h.nested ht
  have hclosed := hc.nested ht
  refine ⟨?_, hct.hasConnective_chars hclosed (h.level.nested t ht)⟩
  rw [Leaf.chars, unwrap_paren (h.not_dangles_nested hc ht) (hct.balanced_chars hclosed),
    hct.unwrap_chars hclosed]

theorem leaf_chars (h : r.Canonical) (hc : r.Closed) {i : Nat} {l : Leaf}
    (hi : r.leaves[i]? = some l) :
    trim l.chars = l.chars ∧ unwrap l.chars ≠ [] ∧
      (r.capture ≠ some i → captured? l.chars = none) := by
  cases l with
  | check s =>
    obtain ⟨hs, hhead⟩ := h.level.check i s hi
    refine ⟨hs.trimmed, hs.unwrap_eq ▸ hs.nonempty, fun hcap ↦ captured?_eq_none_iff.2 ?_⟩
    rw [Leaf.chars, hs.unwrap_eq]
    exact ⟨fun hat ↦ hcap (hhead hat), fun _ hat ↦ hcap (hhead hat)⟩
  | nested t =>
    have ht := List.mem_of_getElem? hi
    obtain ⟨hu, hcon⟩ := h.unwrap_nested hc ht
    refine ⟨trim_paren t.chars, ?_, fun _ ↦ captured?_eq_none_iff.2 ⟨?_, fun hno ↦ ?_⟩⟩
    · rw [hu]
      exact (h.nested ht).chars_ne_nil (hc.nested ht)
    · simp [Leaf.chars]
    · rw [hu, hcon] at hno
      cases hno

theorem readLevel_chars (h : r.Canonical) (hc : r.Closed) (limit : Nat) {levels : Nat}
    (hd : r.depth ≤ levels) : readLevel limit levels r.chars = .ok r := by
  induction r using rule_induction generalizing levels with
  | step r ih =>
    rw [depth_eq] at hd
    obtain ⟨levels, rfl⟩ : ∃ n, levels = n + 1 := ⟨levels - 1, by omega⟩
    have hin : depthIn r.leaves ≤ levels := by omega
    obtain ⟨cs, hlen, hgroups, hchars⟩ := h.level.chars_eq
    obtain ⟨hcs, hsegs⟩ := segments_chainText hlen (h.piece hc)
      [] (by simp) 0
    rw [List.nil_append, ← hchars] at hcs hsegs
    rw [readLevel_succ_eq_ok_iff, h.unwrap_chars hc]
    refine ⟨h.chars_ne_nil hc, r.leaves.map Leaf.chars, r.leaves, r.capture, ?_, ?_, ?_⟩
    · have hleaves := leafTexts_markedFrom (i := 0) hsegs
        (fun k x hk ↦ by
          obtain ⟨l, hl, rfl⟩ := Option.map_eq_some_iff.1 (List.getElem?_map.symm.trans hk)
          rw [Nat.zero_add]
          exact h.leaf_chars hc hl)
        (fun j hj ↦ by
          rw [List.length_map, Nat.zero_add]
          exact h.level.capture_lt j hj)
      have hnone : r.capture.filter (· < 0) = none := by cases r.capture <;> rfl
      rwa [hnone] at hleaves
    · rw [List.forall₂_map_left_iff, List.forall₂_same]
      intro l hl
      rw [readLeaf_eq_ok_iff]
      cases l with
      | check s =>
        obtain ⟨i, hi⟩ := List.mem_iff_getElem?.1 hl
        have hs := (h.level.check i s hi).1
        refine .inr ?_
        rw [Leaf.chars, hs.unwrap_eq, String.ofList_toList]
        exact ⟨hs.single, rfl⟩
      | nested t =>
        obtain ⟨hu, hcon⟩ := h.unwrap_nested hc hl
        rw [hu]
        exact .inl ⟨hcon, t, ih t hl (h.nested hl) (hc.nested hl) (depthIn_le_iff.1 hin t hl), rfl⟩
    · rw [hcs, ← hgroups]
      cases r
      rfl

/-- A canonical rule in whose text every parenthesis is closed is what its own text is read to. -/
theorem read_text {limits : Limits} (h : r.Canonical) (hc : r.Closed)
    (hbytes : r.text.utf8ByteSize ≤ limits.bytes) (hdepth : r.depth ≤ limits.depth) :
    read limits r.text = .ok r := by
  refine read_eq_ok_iff.2 ⟨hbytes, ?_, ?_⟩ <;> rw [text, String.toList_ofList]
  · exact h.balanced_chars hc
  · exact h.readLevel_chars hc limits.depth hdepth

theorem read_text_escaped :
    read { bytes := 23, depth := 2 } "@(a[(|)] || @b\\\\) && c\\" =
      .ok ⟨[.nested ⟨[.check "a[(|)]", .check "b\\\\"], [.combine .or 0 1], some 1⟩,
        .check "c\\"], [.combine .and 0 1], some 0⟩ := by
  have hcan : Canonical ⟨[.nested ⟨[.check "a[(|)]", .check "b\\\\"], [.combine .or 0 1], some 1⟩,
      .check "c\\"], [.combine .and 0 1], some 0⟩ := by
    have hread : read {} "(@ ((a[(|)]) || (@(b\\\\))) && c\\ )" = .ok
        ⟨[.nested ⟨[.check "a[(|)]", .check "b\\\\"], [.combine .or 0 1], some 1⟩,
          .check "c\\"], [.combine .and 0 1], some 0⟩ := by
      decide +kernel
    obtain ⟨-, hb, hr⟩ := read_eq_ok_iff.1 hread
    exact (readLevel_canonical hb hr).1
  exact hcan.read_text (by decide) (by decide) (by decide)

end Canonical

theorem canonical_check {t : String} (h : CheckText t.toList) (hat : t.toList.head? ≠ some '@') :
    Canonical ⟨[.check t], [.solo 0], none⟩ := by
  refine canonical_iff.2 ⟨⟨List.cons_ne_nil _ _, .inl ⟨rfl, rfl⟩, nofun, ?_, ?_, nofun⟩, ?_⟩
  · intro i s hs
    cases i with
    | zero =>
      cases hs
      exact ⟨h, fun hhead ↦ absurd hhead hat⟩
    | succ i => cases hs
  · intro s hs
    cases hs with
    | tail _ hs => cases hs
  · intro s hs
    cases hs with
    | tail _ hs => cases hs

theorem read_check {limits : Limits} {t : String} (h : CheckText t.toList)
    (hat : t.toList.head? ≠ some '@') (hbytes : t.utf8ByteSize ≤ limits.bytes)
    (hdepth : 0 < limits.depth) : read limits t = .ok ⟨[.check t], [.solo 0], none⟩ := by
  have hclosed : Closed ⟨[.check t], [.solo 0], none⟩ := by
    intro s hs
    cases hs
  have hchars : chars ⟨[.check t], [.solo 0], none⟩ = t.toList := by
    simp [chars, charsOf, Leaf.chars, chainChars, leafChars]
  have hread : readLevel limits.depth limits.depth (chars ⟨[.check t], [.solo 0], none⟩) = _ :=
    (canonical_check h hat).readLevel_chars hclosed limits.depth hdepth
  rw [hchars] at hread
  exact read_eq_ok_iff.2 ⟨hbytes, checkBalance_eq_ok_iff.1 h.balanced, hread⟩

/-- Reading the text of a rule that was read gives the rule back exactly if it is closed. Otherwise
the last check of a nested rule escapes the parenthesis after it, and the text is refused. -/
theorem read_text_of_read {limits : Limits} (limits' : Limits) {source : String}
    (h : read limits source = .ok r) (hdepth : limits'.depth = limits.depth)
    (hbytes : r.text.utf8ByteSize ≤ limits'.bytes) :
    (read limits' r.text = .ok r ↔ r.Closed) ∧
      (¬ r.Closed → ∃ p, read limits' r.text = .error (.unbalanced .round p)) := by
  obtain ⟨-, hb, hr⟩ := read_eq_ok_iff.1 h
  obtain ⟨hcan, hd, -⟩ := readLevel_canonical hb hr
  have hopen : ¬ r.Closed → ∃ p, read limits' r.text = .error (.unbalanced .round p) := by
    intro hc
    obtain ⟨k, hk⟩ : ∃ k, r.unclosed = k + 1 := by
      refine Nat.exists_eq_succ_of_ne_zero fun h0 ↦ hc ?_
      exact hcan.closed_iff.2 (unclosed_eq_zero_iff.1 h0)
    have hchars := openBrackets_chars hcan []
    rw [hk, List.replicate_succ] at hchars
    obtain ⟨p, hp⟩ := checkBalance_of_open hchars
    exact ⟨p, read_eq_error_of_unbalanced hbytes (by rwa [text, String.toList_ofList])⟩
  refine ⟨⟨fun hread ↦ ?_, fun hc ↦ ?_⟩, hopen⟩
  · by_contra hc
    obtain ⟨p, hp⟩ := hopen hc
    cases hread.symm.trans hp
  · refine read_eq_ok_iff.2 ⟨hbytes, ?_, ?_⟩ <;> rw [text, String.toList_ofList]
    · exact hcan.balanced_chars hc
    · exact hcan.readLevel_chars hc _ (hdepth ▸ hd)

theorem read_text_of_read_closed :
    read {} "(a && b\\\\) && c\\" = .ok
        ⟨[.nested ⟨[.check "a", .check "b\\\\"], [.combine .and 0 1], none⟩, .check "c\\"],
          [.combine .and 0 1], none⟩ ↔
      Closed ⟨[.nested ⟨[.check "a", .check "b\\\\"], [.combine .and 0 1], none⟩, .check "c\\"],
        [.combine .and 0 1], none⟩ := by
  have hread : read {} "((a) && (b\\\\)) && c\\ " = .ok
      ⟨[.nested ⟨[.check "a", .check "b\\\\"], [.combine .and 0 1], none⟩, .check "c\\"],
        [.combine .and 0 1], none⟩ := by
    decide +kernel
  exact (read_text_of_read {} hread rfl (by decide)).1

/-- The space after the backslash is trimmed, and the text of the rule lacks it. -/
theorem not_forall_read_text :
    ¬ ∀ (limits limits' : Limits) (source : String) (r : Rule), read limits source = .ok r →
      limits'.depth = limits.depth → r.text.utf8ByteSize ≤ limits'.bytes →
      read limits' r.text = .ok r := by
  intro h
  have hread : read {} "(a && b\\ ) && c" = .ok
      ⟨[.nested ⟨[.check "a", .check "b\\"], [.combine .and 0 1], none⟩, .check "c"],
        [.combine .and 0 1], none⟩ := by
    decide +kernel
  have hagain := h {} {} _ _ hread rfl (by decide)
  have hopen : read {} "(a && b\\) && c" = .error (.unbalanced .round 0) := by decide +kernel
  cases hopen.symm.trans hagain

end Rule

end Rulebook
