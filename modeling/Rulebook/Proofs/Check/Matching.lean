import Mathlib
import Rulebook.Proofs.Check.Separating
import Rulebook.Proofs.Results
import Rulebook.Proofs.Rule.Brackets
import Rulebook.Proofs.Equality

namespace Rulebook

open Text

/-- No bracket counts as open where a text is split into a first piece and others. -/
structure SplitOutside (depth : Nat) (gs : List Glyph) (q : List Glyph × List (List Glyph)) :
    Prop where
  first : ∃ y, gs = q.1 ++ y ∧ (y = [] ∨ q.1.foldl depthAfter depth = 0)
  rest : ∀ p ∈ q.2, ∃ x y, gs = x ++ p ++ y ∧ x.foldl depthAfter depth = 0 ∧
    (y = [] ∨ (x ++ p).foldl depthAfter depth = 0)

theorem SplitOutside.extend {depth : Nat} {w r : List Glyph} {q : List Glyph × List (List Glyph)}
    (h : SplitOutside (w.foldl depthAfter depth) r q) :
    SplitOutside depth (w ++ r) (extendFirst w q) where
  first := by
    obtain ⟨y, hr, hend⟩ := h.first
    exact ⟨y, by rw [hr, extendFirst, List.append_assoc], by rwa [extendFirst, List.foldl_append]⟩
  rest p hp := by
    obtain ⟨x, y, hr, hx, hend⟩ := h.rest p hp
    refine ⟨w ++ x, y, by rw [hr]; simp, by rwa [List.foldl_append], ?_⟩
    rwa [List.append_assoc, List.foldl_append]

theorem SplitOutside.split {g : Glyph} {r : List Glyph} {q : List Glyph × List (List Glyph)}
    (h : SplitOutside 0 r q) (hg : depthAfter 0 g = 0) :
    SplitOutside 0 (g :: r) ([], q.1 :: q.2) where
  first := ⟨g :: r, rfl, .inr rfl⟩
  rest p hp := by
    obtain rfl | hp := List.mem_cons.1 hp
    · obtain ⟨y, hr, hend⟩ := h.first
      exact ⟨[g], y, congrArg _ hr, hg, by rwa [List.singleton_append, List.foldl_cons, hg]⟩
    · obtain ⟨x, y, hr, hx, hend⟩ := h.rest p hp
      refine ⟨g :: x, y, congrArg _ hr, by rwa [List.foldl_cons, hg], ?_⟩
      rwa [List.cons_append, List.foldl_cons, hg]

section Parts

variable {separates : Char → Bool}
  (hsep : ∀ c, separates c = true → depthAfter 0 (.plain c) = 0)

include hsep

theorem splitOutside_partsFrom (depth : Nat) (gs : List Glyph) :
    SplitOutside depth gs (partsFrom separates depth gs) := by
  induction depth, gs using parts_induction separates with
  | nil depth => exact ⟨⟨[], rfl, .inl rfl⟩, List.forall_mem_nil _⟩
  | pair depth r ih =>
    rw [partsFrom_pair]
    exact SplitOutside.extend (w := [.plain '&', .plain '&']) ih
  | split c r hpair hc ih =>
    rw [partsFrom_split hpair hc]
    exact ih.split (hsep c hc)
  | next depth g r hpair hnext ih =>
    rw [partsFrom_next hpair hnext]
    exact SplitOutside.extend (w := [g]) ih

theorem exists_of_mem_parts {cs a : List Char} (ha : a ∈ parts separates cs) :
    ∃ x y, glyphs cs = x ++ glyphs a ++ y ∧ x.foldl depthAfter 0 = 0 ∧
      (y = [] ∨ (x ++ glyphs a).foldl depthAfter 0 = 0) := by
  have hsplit := splitOutside_partsFrom hsep 0 (glyphs cs)
  obtain ⟨p, hp, rfl⟩ := List.mem_map.1 ha
  have hpiece : ∃ x y, glyphs cs = x ++ p ++ y ∧ x.foldl depthAfter 0 = 0 ∧
      (y = [] ∨ (x ++ p).foldl depthAfter 0 = 0) := by
    obtain rfl | hp := List.mem_cons.1 hp
    · obtain ⟨y, hfirst, hend⟩ := hsplit.first
      exact ⟨[], y, hfirst, rfl, hend⟩
    · exact hsplit.rest p hp
  obtain ⟨x, y, hgs, hx, hend⟩ := hpiece
  have hread : glyphs (chars p) = p :=
    (glyphs_chars_of_append (glyphs_chars_of_append (hgs.trans (List.append_assoc ..))).2).1
  exact ⟨x, y, by rwa [hread], hx, by rwa [hread]⟩

theorem balanced_of_mem_parts {cs a : List Char} (h : Balanced (glyphs cs))
    (ha : a ∈ parts separates cs) : Balanced (glyphs a) := by
  obtain ⟨x, y, hgs, hx, hend⟩ := exists_of_mem_parts hsep ha
  rw [hgs, Balanced, openBrackets_append] at h
  obtain ⟨t, ht, hy⟩ := Option.bind_eq_some_iff.1 h
  have ht' := ht
  rw [openBrackets_append] at ht
  obtain ⟨s, hs, ht⟩ := Option.bind_eq_some_iff.1 ht
  have hnil : s = [] := List.length_eq_zero_iff.1 ((depth_openBrackets hs).symm.trans hx)
  have hnil' : t = [] := by
    obtain rfl | hend := hend
    · exact Option.some.inj hy
    · exact List.length_eq_zero_iff.1 ((depth_openBrackets ht').symm.trans hend)
  rwa [hnil, hnil'] at ht

theorem exists_closing {s t : List Bracket} {cs a l r : List Char}
    (h : openBrackets s (glyphs cs) = some t) (ht : .round ∉ t) (ha : a ∈ parts separates cs)
    (hl : ¬ Dangles l) (hlr : a = l ++ '(' :: r) :
    ∃ inside rest, r = inside ++ ')' :: rest ∧ ¬ Dangles inside ∧ Balanced (glyphs inside) := by
  obtain ⟨x, y, hgs, hx, hend⟩ := exists_of_mem_parts hsep ha
  have hglyphs : glyphs a = glyphs l ++ .plain '(' :: glyphs r := by
    rw [hlr, glyphs_append hl, glyphs_plain (by decide)]
  rw [hgs, openBrackets_append] at h
  obtain ⟨u, hu, hy⟩ := Option.bind_eq_some_iff.1 h
  rw [hglyphs, ← List.append_assoc, openBrackets_append] at hu
  obtain ⟨v, hv, hu⟩ := Option.bind_eq_some_iff.1 hu
  rw [openBrackets_cons, bracketStep_open (b := .round) rfl, Option.bind_some] at hu
  obtain ⟨w, hw, rfl⟩ | ⟨m, q, hr, hm, -⟩ := openBrackets_inside (u := []) hu
  · -- the parenthesis would still be open where the part ends
    obtain rfl | hend := hend
    · obtain rfl := Option.some.inj hy
      simp at ht
    · have hdepth := depth_openBrackets_add hw ((x ++ glyphs l).foldl depthAfter 0 + 1)
      rw [hglyphs, ← List.append_assoc, List.foldl_append, List.foldl_cons] at hend
      rw [List.length_nil, Nat.zero_add] at hdepth
      cases hdepth.symm.trans hend
  · refine ⟨chars m, chars q, ?_, not_dangles_of_glyphs_eq hr, ?_⟩
    · rw [← chars_glyphs r, hr, chars_append, chars_cons]
      rfl
    · rwa [(glyphs_chars_of_append hr).1]

end Parts

theorem separatesArguments_outside (c : Char) (h : separatesArguments c = true) :
    depthAfter 0 (.plain c) = 0 := by
  simp only [separatesArguments, Bool.or_eq_true, decide_eq_true_eq] at h
  obtain rfl | rfl := h <;> rfl

/-- The body of a call whose last character closes its first parenthesis. -/
structure MatchedBody (body : List Char) : Prop where
  complete : ¬ Dangles body
  balanced : Balanced (glyphs body)
  arguments : ∀ a ∈ parts separatesArguments body, Balanced (glyphs a)

/-- Behind an opening parenthesis, a text goes on after the one that closes it. -/
def GoesOn (cs : List Char) : Prop :=
  ∃ inside rest, cs = inside ++ ')' :: rest ∧ ¬ Dangles inside ∧ Balanced (glyphs inside) ∧
    rest ≠ []

theorem not_balanced_append_closing {a b : List Char} (hd : ¬ Dangles a) (ha : Balanced (glyphs a)) :
    ¬ Balanced (glyphs (a ++ ')' :: b)) := by
  intro h
  rw [glyphs_append hd, glyphs_plain (by decide), Balanced, openBrackets_append, ha] at h
  cases h

theorem matchedBody_iff {body inside rest : List Char} (hbody : body ++ [')'] = inside ++ ')' :: rest)
    (hd : ¬ Dangles inside) (hb : Balanced (glyphs inside)) :
    MatchedBody body ↔ ¬ GoesOn (body ++ [')']) := by
  constructor
  · rintro h ⟨inside', rest', heq, hd', hb', hne⟩
    obtain rfl | ⟨rest', c, rfl⟩ := List.eq_nil_or_concat' rest'
    · exact hne rfl
    rw [← List.cons_append, ← List.append_assoc] at heq
    refine not_balanced_append_closing (b := rest') hd' hb' ?_
    rw [← (List.append_inj' heq rfl).1]
    exact h.balanced
  · intro h
    obtain rfl : rest = [] := by
      by_contra hne
      exact h ⟨inside, rest, hbody, hd, hb, hne⟩
    rw [(List.append_inj' hbody rfl).1]
    exact ⟨hd, hb, fun a ha ↦ balanced_of_mem_parts separatesArguments_outside hb ha⟩

/-- A text is `name(body)`, and that parenthesis is the first one. -/
structure Applied (text name body : List Char) : Prop where
  text_eq : text = name ++ '(' :: (body ++ [')'])
  first : .plain '(' ∉ glyphs name
  complete : ¬ Dangles name

namespace Applied

variable {text name body name' body' : List Char} (h : Applied text name body)

include h

theorem glyphs_eq : glyphs text = glyphs name ++ .plain '(' :: glyphs (body ++ [')']) := by
  rw [h.text_eq, glyphs_append h.complete, glyphs_plain (by decide)]

theorem cutAt_eq : cutAt '(' (glyphs text) = some (glyphs name, glyphs (body ++ [')'])) := by
  rw [h.glyphs_eq]
  exact cutAt_append h.first _

theorem unique (h' : Applied text name' body') : name = name' ∧ body = body' := by
  have hcut := h.cutAt_eq.symm.trans h'.cutAt_eq
  obtain ⟨hname, hbody⟩ := Prod.mk.inj (Option.some.inj hcut)
  rw [← chars_glyphs name, ← chars_glyphs name', hname]
  have hchars := congrArg chars hbody
  rw [chars_glyphs, chars_glyphs] at hchars
  exact ⟨rfl, (List.append_inj' hchars rfl).1⟩

end Applied

/-- How a call is read from its text. The last character is the parenthesis that closes the first
one, and all brackets of the body and of each argument are closed, unless the text goes on behind
the parenthesis that closes the first one. -/
inductive ReadsAs (text : List Char) : Call → Prop
  | bare (h : .plain '(' ∉ glyphs text) : ReadsAs text ⟨lower (String.ofList text), []⟩
  | applied (name body : List Char) (h : Applied text name body)
      (hbody : MatchedBody body ↔ ¬ GoesOn (body ++ [')'])) :
      ReadsAs text ⟨lower (String.ofList (trim name)), argumentsOf body⟩

theorem append_of_not_mem_right {α : Type} {w m a r : List α} {c : α} (hc : c ∉ m)
    (h : w ++ m = a ++ c :: r) : ∃ r', w = a ++ c :: r' := by
  obtain ⟨d, -, rfl⟩ | ⟨d, rfl, hd⟩ := List.append_eq_append_iff.1 h
  · exact absurd (List.mem_append_right d List.mem_cons_self) hc
  · cases d with
    | nil =>
      obtain rfl : c :: r = m := hd
      exact absurd List.mem_cons_self hc
    | cons e d =>
      obtain ⟨rfl, -⟩ := List.cons.inj hd
      exact ⟨d, rfl⟩

theorem readsAs_of_read {separates : Char → Bool}
    (hsep : ∀ c, separates c = true → depthAfter 0 (.plain c) = 0) {s t : List Bracket}
    {cs a : List Char} {call : Call} (h : openBrackets s (glyphs cs) = some t) (ht : .round ∉ t)
    (ha : a ∈ parts separates cs) (hread : Call.read a = .ok call) : ReadsAs (trim a) call := by
  simp only [Call.read] at hread
  split at hread
  · cases hread
  · split at hread
    · rename_i hcut
      obtain rfl := Except.ok.inj hread
      exact .bare (cutAt_eq_none_iff.1 hcut)
    · rename_i before after hcut
      split at hread
      · cases hread
      · rename_i body hdrop
        obtain rfl := Except.ok.inj hread
        have hgs := eq_append_of_cutAt hcut
        have hname := not_dangles_of_glyphs_eq hgs
        have htext : trim a = chars before ++ '(' :: (body ++ [')']) := by
          rw [← chars_glyphs (trim a), hgs, chars_append, chars_cons, eq_concat_of_dropLast? hdrop]
          rfl
        obtain ⟨l, r, hlr, hl, hr⟩ := exists_trim a
        have hopen : ¬ Dangles (l ++ chars before) := (dangles_blanks_append hl _).not.2 hname
        obtain ⟨inside, rest, hinside, hd, hb⟩ := exists_closing hsep h ht ha hopen
          (r := body ++ [')'] ++ r) (by rw [hlr, htext]; simp)
        have hclosing : ')' ∉ r := fun hmem ↦ by cases hr ')' hmem
        obtain ⟨rest', hbody⟩ := append_of_not_mem_right hclosing hinside
        refine .applied (chars before) body ⟨htext, ?_, hname⟩ (matchedBody_iff hbody hd hb)
        rw [(glyphs_chars_of_append hgs).1]
        exact not_mem_of_cutAt hcut

def Clause (t : String) (inner : List Char) : Prop :=
  ∃ type, trim t.toList = type ++ '[' :: (inner ++ [']']) ∧ .plain '[' ∉ glyphs type ∧
    ¬ Dangles type

theorem Clause.openBrackets {t : String} {inner : List Char} (h : Clause t inner)
    (hb : Balanced (glyphs t.toList)) :
    ∃ s u, openBrackets s (glyphs inner) = some u ∧ Bracket.round ∉ u := by
  obtain ⟨type, htext, -, hd⟩ := h
  rw [← balanced_trim, htext, glyphs_append hd, glyphs_plain (by decide), Balanced,
    openBrackets_append] at hb
  obtain ⟨s, -, hb⟩ := Option.bind_eq_some_iff.1 hb
  rw [openBrackets_cons, bracketStep_open (b := .square) rfl, Option.bind_some] at hb
  refine ⟨.square :: s, ?_⟩
  by_cases hinner : Dangles inner
  · rw [glyphs_append_of_dangles hinner, openBrackets_append] at hb
    rw [glyphs_of_dangles hinner, openBrackets_append]
    obtain ⟨u, hu, hb⟩ := Option.bind_eq_some_iff.1 hb
    obtain rfl : u = [] := Option.some.inj hb
    exact ⟨[], by rw [hu]; rfl, List.not_mem_nil⟩
  · rw [glyphs_append hinner, openBrackets_append] at hb
    obtain ⟨u, hu, hb⟩ := Option.bind_eq_some_iff.1 hb
    rw [glyphs_plain (by decide), openBrackets_cons] at hb
    obtain ⟨v, hv, hb⟩ := Option.bind_eq_some_iff.1 hb
    obtain rfl : v = [] := Option.some.inj hb
    obtain ⟨b, ho, -⟩ | ⟨b, -, hc, rfl⟩ | ⟨-, hc, -⟩ := bracketStep_cases hv
    · cases ho
    · cases hc
      exact ⟨_, hu, by decide⟩
    · cases hc

/-- Of a balanced check, each call without parentheses is read as a name, and each other one as
`name(body)` up to its last character, which is the parenthesis that closes the first one exactly if
nothing follows that. -/
theorem Check.read_calls {t : String} {check : Check}
    (hb : checkBalance (glyphs t.toList) = .ok ()) (h : Check.read t = .ok check) :
    .plain '[' ∉ glyphs (trim t.toList) ∧ check.calls = [] ∨
    ∃ inner, Clause t inner ∧ List.Forall₂ (fun text call ↦ ReadsAs (trim text) call)
      (parts (· = '&') inner) check.calls := by
  simp only [Check.read] at h
  split at h
  · rename_i hcut
    obtain ⟨type, -, h⟩ := bind_eq_ok_iff.1 h
    cases h
    exact .inl ⟨cutAt_eq_none_iff.1 hcut, rfl⟩
  · rename_i before after hcut
    split at h
    · cases h
    · rename_i inner hdrop
      obtain ⟨calls, hcalls, h⟩ := bind_eq_ok_iff.1 h
      obtain ⟨type, -, h⟩ := bind_eq_ok_iff.1 h
      cases h
      have hgs := eq_append_of_cutAt hcut
      have hclause : Clause t inner := by
        refine ⟨chars before, ?_, ?_, not_dangles_of_glyphs_eq hgs⟩
        · rw [← chars_glyphs (trim t.toList), hgs, chars_append, chars_cons,
            eq_concat_of_dropLast? hdrop]
          rfl
        · rw [(glyphs_chars_of_append hgs).1]
          exact not_mem_of_cutAt hcut
      obtain ⟨s, u, hrun, hround⟩ := hclause.openBrackets (checkBalance_eq_ok_iff.1 hb)
      have hsep (c : Char) (hc : decide (c = '&') = true) : depthAfter 0 (.plain c) = 0 := by
        rw [of_decide_eq_true hc]
        rfl
      refine .inr ⟨inner, hclause, ?_⟩
      have hread := (List.forall₂_and_left (parts (· = '&') inner) calls).2
        ⟨fun a ha ↦ ha, mapM_eq_ok_iff.1 hcalls⟩
      exact hread.imp fun a call ha ↦ readsAs_of_read hsep hrun hround ha.1 ha.2

theorem Check.read_calls_nested :
    checkBalance (glyphs "str[in( (a\\)), b) & alnum]".toList) = .ok () ∧
    Check.read "str[in( (a\\)), b) & alnum]" =
      .ok ⟨"str", [⟨"in", ["(a\\))", "b"]⟩, ⟨"alnum", []⟩]⟩ ∧
    ∃ inner, Clause "str[in( (a\\)), b) & alnum]" inner ∧
      List.Forall₂ (fun text call ↦ ReadsAs (trim text) call) (parts (· = '&') inner)
        [⟨"in", ["(a\\))", "b"]⟩, ⟨"alnum", []⟩] := by
  have hb : checkBalance (glyphs "str[in( (a\\)), b) & alnum]".toList) = .ok () := by decide +kernel
  have hread : Check.read "str[in( (a\\)), b) & alnum]" =
      .ok ⟨"str", [⟨"in", ["(a\\))", "b"]⟩, ⟨"alnum", []⟩]⟩ := by decide +kernel
  obtain ⟨-, hnil⟩ | hclause := Check.read_calls hb hread
  · cases hnil
  · exact ⟨hb, hread, hclause⟩

/-- The last character of a call need not close its first parenthesis: two functions that follow each
other without `&` are read as a single call. -/
theorem Check.not_forall_matched :
    ¬ ∀ (t : String) (check : Check), checkBalance (glyphs t.toList) = .ok () →
      Check.read t = .ok check → ∀ inner, Clause t inner → ∀ text ∈ parts (· = '&') inner,
        .plain '(' ∈ glyphs (trim text) →
          ∃ name body, Applied (trim text) name body ∧ MatchedBody body := by
  intro h
  have hclause : Clause "int[f(a)g(b)]" "f(a)g(b)".toList :=
    ⟨"int".toList, by decide +kernel, by decide, by decide⟩
  have hparts : parts (· = '&') "f(a)g(b)".toList = ["f(a)g(b)".toList] := by decide +kernel
  have htrim : trim "f(a)g(b)".toList = "f(a)g(b)".toList := by decide +kernel
  have hcall : Applied (trim "f(a)g(b)".toList) "f".toList "a)g(b".toList :=
    ⟨htrim, by decide, by decide⟩
  have hopening : .plain '(' ∈ glyphs (trim "f(a)g(b)".toList) := by
    rw [hcall.glyphs_eq]
    exact List.mem_append_right _ List.mem_cons_self
  obtain ⟨name, body, happlied, hbody⟩ := h "int[f(a)g(b)]" ⟨"int", [⟨"f", ["a)g(b"]⟩]⟩
    (by decide +kernel) (by decide +kernel) "f(a)g(b)".toList hclause "f(a)g(b)".toList
    (by rw [hparts]; exact List.mem_cons_self) hopening
  obtain ⟨-, rfl⟩ := hcall.unique happlied
  have hopen : ¬ Balanced (glyphs "a)g(b".toList) := by
    show ¬ openBrackets [] _ = _
    decide
  exact hopen hbody.balanced

end Rulebook
