import Rulebook.Proofs.Rule.Chain

namespace Rulebook

open Text

mutual

def Rule.unclosed : Rule → Nat
  | ⟨leaves, _, _⟩ => unclosedIn leaves

def Leaf.unclosed : Leaf → Nat
  | .check _ => 0
  | .nested r => r.unclosed + if Dangles r.chars then 1 else 0

def unclosedIn : List Leaf → Nat
  | [] => 0
  | l :: ls => l.unclosed + unclosedIn ls

end

/-- The last check of each nested rule does not end in an odd run of backslashes. -/
def Rule.Closed (r : Rule) : Prop := ∀ s ∈ r.inner, ∀ t ∈ s.checks.getLast?, ¬ Dangles t.toList

instance : DecidablePred Rule.Closed := fun r ↦
  inferInstanceAs (Decidable (∀ s ∈ r.inner, ∀ t ∈ s.checks.getLast?, ¬ Dangles t.toList))

theorem charsOf_eq_map (ls : List Leaf) : charsOf ls = ls.map Leaf.chars := by
  induction ls with
  | nil => rfl
  | cons l ls ih => rw [charsOf, ih, List.map_cons]

def Rule.pieces (r : Rule) : List (List Char) := markedFrom r.capture 0 (r.leaves.map Leaf.chars)

theorem Rule.length_pieces (r : Rule) : r.pieces.length = r.leaves.length := by
  rw [pieces, length_markedFrom, List.length_map]

theorem Rule.CanonicalLevel.chars_eq {r : Rule} (h : r.CanonicalLevel) :
    ∃ cs : List Connective, r.pieces.length = cs.length + 1 ∧ r.groups = groupsOf cs ∧
      r.chars = chainText r.pieces cs := by
  obtain ⟨cs, hlen, hgroups⟩ := isChain_iff.1 h.chain
  refine ⟨cs, r.length_pieces.trans hlen.symm, hgroups, ?_⟩
  obtain ⟨leaves, groups, capture⟩ := r
  obtain rfl : groups = groupsOf cs := hgroups
  rw [Rule.chars, charsOf_eq_map, chainChars_groupsOf capture (by rw [List.length_map, hlen]; rfl)]
  rfl

theorem openBrackets_paren {m : List Char} {k : Nat}
    (h : ∀ s, openBrackets s (glyphs m) = some (List.replicate k .round ++ s)) (s : List Bracket) :
    openBrackets s (glyphs ('(' :: m ++ [')'])) =
      some (List.replicate (k + if Dangles m then 1 else 0) .round ++ s) := by
  have hmove : List.replicate k Bracket.round ++ .round :: s =
      .round :: (List.replicate k .round ++ s) := by
    rw [← List.cons_append, ← List.replicate_succ, List.replicate_succ', List.append_assoc]
    rfl
  rw [List.cons_append, glyphs_plain (by decide), openBrackets_cons, bracketStep_open rfl,
    Option.bind_some]
  by_cases hd : Dangles m
  · -- the lone backslash at the end of `m` escapes the closing parenthesis
    have hm := h (.round :: s)
    rw [glyphs_of_dangles hd, openBrackets_append] at hm
    obtain ⟨u, hu, hm⟩ := Option.bind_eq_some_iff.1 hm
    obtain rfl : u = _ := Option.some.inj hm
    rw [glyphs_append_of_dangles hd, openBrackets_append, hu, if_pos hd, hmove,
      List.replicate_succ]
    rfl
  · rw [glyphs_append hd, openBrackets_append, h, hmove, if_neg hd]
    rfl

theorem openBrackets_markedFrom (capture : Option Nat) (i : Nat) (ts : List (List Char))
    (s : List Bracket) :
    (markedFrom capture i ts).foldlM (fun s p ↦ openBrackets s (glyphs p)) s =
      ts.foldlM (fun s t ↦ openBrackets s (glyphs t)) s := by
  induction ts generalizing i s with
  | nil => rfl
  | cons t ts ih =>
    have hmark : openBrackets s (glyphs ((if capture = some i then ['@'] else []) ++ t)) =
        openBrackets s (glyphs t) := by
      split
      · exact openBrackets_marker s t
      · rfl
    rw [markedFrom, List.foldlM_cons, List.foldlM_cons, hmark]
    simp only [ih]

theorem openBrackets_leaves {ls : List Leaf}
    (h : ∀ l ∈ ls, ∀ s, openBrackets s (glyphs l.chars) =
      some (List.replicate l.unclosed .round ++ s)) (s : List Bracket) :
    (ls.map Leaf.chars).foldlM (fun s t ↦ openBrackets s (glyphs t)) s =
      some (List.replicate (unclosedIn ls) .round ++ s) := by
  induction ls generalizing s with
  | nil => rfl
  | cons l ls ih =>
    rw [List.map_cons, List.foldlM_cons, h l (by simp)]
    refine (ih (fun l' hl' ↦ h l' (by simp [hl'])) _).trans ?_
    rw [← List.append_assoc, List.replicate_append_replicate, unclosedIn, Nat.add_comm]

theorem Rule.unclosed_eq (r : Rule) : r.unclosed = unclosedIn r.leaves := by
  cases r
  rw [unclosed]
  rfl

theorem openBrackets_chars {r : Rule} (h : r.Canonical) (s : List Bracket) :
    openBrackets s (glyphs r.chars) = some (List.replicate r.unclosed .round ++ s) := by
  induction r using rule_induction generalizing s with
  | step r ih =>
    obtain ⟨hr, hn⟩ := Rule.canonical_iff.1 h
    obtain ⟨cs, hlen, -, hchars⟩ := hr.chars_eq
    rw [hchars, openBrackets_chainText hlen, Rule.pieces,
      openBrackets_markedFrom, Rule.unclosed_eq]
    refine openBrackets_leaves (fun l hl s ↦ ?_) s
    cases l with
    | check t =>
      obtain ⟨i, hi⟩ := List.mem_iff_getElem?.1 hl
      exact (checkBalance_eq_ok_iff.1 (hr.check i t hi).1.balanced).openBrackets_eq s
    | nested q => exact openBrackets_paren (ih q hl (hn q hl)) s

theorem dangles_chars_iff {r : Rule} (h : r.CanonicalLevel) :
    Dangles r.chars ↔ ∃ t, r.leaves.getLast? = some (.check t) ∧ Dangles t.toList := by
  obtain ⟨cs, hlen, -, hchars⟩ := h.chars_eq
  rw [hchars, dangles_chainText hlen, Rule.pieces, dangles_last_markedFrom,
    List.getLast?_map]
  constructor
  · rintro ⟨p, hp, hd⟩
    obtain ⟨l, hl, rfl⟩ := Option.map_eq_some_iff.1 hp
    cases l with
    | check t => exact ⟨t, hl, hd⟩
    | nested q => exact absurd hd (not_dangles_concat (by decide) ('(' :: q.chars))
  · rintro ⟨t, ht, hd⟩
    exact ⟨_, Option.map_eq_some_iff.2 ⟨_, ht, rfl⟩, hd⟩

theorem checksIn_append (ls ls' : List Leaf) :
    checksIn (ls ++ ls') = checksIn ls ++ checksIn ls' := by
  induction ls with
  | nil => rfl
  | cons l ls ih => rw [List.cons_append, checksIn, ih, checksIn, List.append_assoc]

theorem getLast?_checks {r : Rule} {t : String} (h : r.leaves.getLast? = some (.check t)) :
    r.checks.getLast? = some t := by
  obtain ⟨ls, hls⟩ := List.getLast?_eq_some_iff.1 h
  rw [Rule.checks_eq, hls, checksIn_append]
  exact List.getLast?_concat

theorem exists_last_check {r : Rule} (h : r.Canonical) :
    ∃ s ∈ r.levels, ∃ t, s.leaves.getLast? = some (.check t) ∧ r.checks.getLast? = some t := by
  induction r using rule_induction with
  | step r ih =>
    obtain ⟨hr, hn⟩ := Rule.canonical_iff.1 h
    obtain ⟨ls, l, hls⟩ := List.eq_nil_or_concat' r.leaves |>.resolve_left hr.leaves_ne_nil
    cases l with
    | check t =>
      have ht : r.leaves.getLast? = some (.check t) := by rw [hls, List.getLast?_concat]
      exact ⟨r, r.self_mem_levels, t, ht, getLast?_checks ht⟩
    | nested q =>
      have hq : .nested q ∈ r.leaves := by simp [hls]
      obtain ⟨s, hs, t, hst, ht⟩ := ih q hq (hn q hq)
      refine ⟨s, Rule.mem_levels.2 (.inr (Rule.mem_inner.2 ⟨q, hq, hs⟩)), t, hst, ?_⟩
      rw [Rule.checks_eq, hls, checksIn_append, checksIn, checksIn, List.append_nil, Leaf.checks,
        List.getLast?_append, ht]
      rfl

theorem Rule.Canonical.closed_iff {r : Rule} (h : r.Canonical) :
    r.Closed ↔ ∀ s ∈ r.inner, ¬ Dangles s.chars := by
  constructor
  · intro hc s hs hd
    obtain ⟨t, ht, hdt⟩ := (dangles_chars_iff (h.of_inner hs s s.self_mem_levels)).1 hd
    exact hc s hs t (getLast?_checks ht) hdt
  · intro hc s hs t ht hd
    obtain ⟨u, hu, t', hut, ht'⟩ := exists_last_check (h.of_inner hs)
    obtain rfl : t' = t := Option.some.inj (ht'.symm.trans ht)
    have hd' := (dangles_chars_iff (h.of_inner hs u hu)).2 ⟨t', hut, hd⟩
    exact hc u (Rule.levels_of_inner hu hs) hd'

theorem unclosedIn_eq_zero_iff {ls : List Leaf} :
    unclosedIn ls = 0 ↔ ∀ t, .nested t ∈ ls → t.unclosed = 0 ∧ ¬ Dangles t.chars := by
  induction ls with
  | nil => simp [unclosedIn]
  | cons l ls ih =>
    rw [unclosedIn, Nat.add_eq_zero_iff, ih]
    cases l <;> simp [Leaf.unclosed]

theorem unclosed_eq_zero_iff {r : Rule} :
    r.unclosed = 0 ↔ ∀ s ∈ r.inner, ¬ Dangles s.chars := by
  induction r using rule_induction with
  | step r ih =>
    rw [Rule.unclosed_eq, unclosedIn_eq_zero_iff]
    constructor
    · intro h s hs
      obtain ⟨t, ht, hs⟩ := Rule.mem_inner.1 hs
      obtain rfl | hs := Rule.mem_levels.1 hs
      · exact (h s ht).2
      · exact (ih t ht).1 (h t ht).1 s hs
    · intro h t ht
      refine ⟨(ih t ht).2 fun s hs ↦ h s ?_, h t (Rule.leaf_mem_inner ht)⟩
      exact Rule.mem_inner.2 ⟨t, ht, Rule.mem_levels.2 (.inr hs)⟩

end Rulebook
