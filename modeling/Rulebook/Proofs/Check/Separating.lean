import Rulebook.Check.Reading
import Rulebook.Proofs.Text.Escaping
import Rulebook.Proofs.Text.Weight

namespace Rulebook

open Text

theorem cutAt_append {c : Char} {a : List Glyph} (ha : .plain c ∉ a) (b : List Glyph) :
    cutAt c (a ++ .plain c :: b) = some (a, b) := by
  induction a with
  | nil => simp [cutAt]
  | cons g a ih =>
    rw [List.mem_cons, not_or] at ha
    rw [List.cons_append, cutAt, if_neg fun h ↦ ha.1 h.symm, ih ha.2]
    rfl

theorem eq_append_of_cutAt {c : Char} {gs a b : List Glyph} (h : cutAt c gs = some (a, b)) :
    gs = a ++ .plain c :: b := by
  induction gs generalizing a with
  | nil => cases h
  | cons g r ih =>
    rw [cutAt] at h
    split at h
    · rename_i hg
      cases h
      rw [hg]
      rfl
    · obtain ⟨⟨a', b'⟩, hcut, heq⟩ := Option.map_eq_some_iff.1 h
      cases heq
      rw [ih hcut]
      rfl

theorem cutAt_eq_none_iff {c : Char} {gs : List Glyph} : cutAt c gs = none ↔ .plain c ∉ gs := by
  constructor
  · intro h hc
    obtain ⟨a, b, rfl, ha⟩ := List.eq_append_cons_of_mem hc
    cases h.symm.trans (cutAt_append ha b)
  · intro hc
    cases h : cutAt c gs with
    | none => rfl
    | some p =>
      rw [eq_append_of_cutAt h] at hc
      exact absurd (List.mem_append_right _ List.mem_cons_self) hc

theorem not_mem_of_cutAt {c : Char} {gs a b : List Glyph} (h : cutAt c gs = some (a, b)) :
    .plain c ∉ a := by
  intro hc
  obtain ⟨x, y, rfl, hx⟩ := List.eq_append_cons_of_mem hc
  have hcut := cutAt_append hx (y ++ .plain c :: b)
  rw [eq_append_of_cutAt h, List.append_assoc, List.cons_append, hcut] at h
  have hlen := congrArg List.length (Prod.mk.inj (Option.some.inj h)).1
  simp at hlen

theorem dropLast?_concat (c : Char) (cs : List Char) : dropLast? c (cs ++ [c]) = some cs := by
  simp [dropLast?]

theorem eq_concat_of_dropLast? {c : Char} {cs r : List Char} (h : dropLast? c cs = some r) :
    cs = r ++ [c] := by
  rw [dropLast?] at h
  split at h
  · rename_i hlast
    obtain ⟨init, rfl⟩ := List.getLast?_eq_some_iff.1 hlast
    rw [List.dropLast_concat] at h
    cases h
    rfl
  · cases h

def separatesArguments (c : Char) : Bool := c = ',' || c = '&'

/-- From a depth on, a text has outside brackets no comma, no backslash, and no `&` but in pairs:
the runs of `&` between other glyphs are even. -/
structure Unseparated (depth : Nat) (gs : List Glyph) : Prop where
  plain : ∀ (a : List Glyph) (g : Glyph) (b : List Glyph), gs = a ++ g :: b →
    a.foldl depthAfter depth = 0 → ∃ c, g = .plain c ∧ c ≠ ','
  paired : ∀ (a : List Glyph) (n : Nat) (b : List Glyph),
    gs = a ++ List.replicate n (.plain '&') ++ b → a.foldl depthAfter depth = 0 →
    a.getLast? ≠ some (.plain '&') → b.head? ≠ some (.plain '&') → Even n

section Parts

variable {separates : Char → Bool}

@[simp] theorem extendFirst_nil (p : List Glyph × List (List Glyph)) : extendFirst [] p = p := rfl

@[simp] theorem extendFirst_extendFirst (a b : List Glyph) (p : List Glyph × List (List Glyph)) :
    extendFirst a (extendFirst b p) = extendFirst (a ++ b) p := by
  simp [extendFirst]

theorem partsFrom_pair (depth : Nat) (r : List Glyph) :
    partsFrom separates depth (.plain '&' :: .plain '&' :: r) =
      extendFirst [.plain '&', .plain '&'] (partsFrom separates depth r) := by
  rw [partsFrom]

theorem partsFrom_next {depth : Nat} {g : Glyph} {r : List Glyph}
    (hpair : g = .plain '&' → r.head? ≠ some (.plain '&'))
    (hsep : depth = 0 → ∀ c, g = .plain c → separates c = false) :
    partsFrom separates depth (g :: r) =
      extendFirst [g] (partsFrom separates (depthAfter depth g) r) := by
  have hno (r' : List Glyph) (hr : r = .plain '&' :: r') : g ≠ .plain '&' := by
    intro hg
    exact hpair hg (by rw [hr]; rfl)
  cases g with
  | plain c =>
    rw [partsFrom, if_neg]
    · intro h
      simp only [Bool.and_eq_true, decide_eq_true_eq] at h
      simp [hsep h.1 c rfl] at h
    · intro r' hr hc
      exact hno r' hr (by rw [hc])
  | escaped c => rw [partsFrom] <;> simp [depthAfter, opens?, closes?]
  | dangling => rw [partsFrom] <;> simp [depthAfter, opens?, closes?]

theorem partsFrom_split {c : Char} {r : List Glyph}
    (hpair : c = '&' → r.head? ≠ some (.plain '&')) (hsep : separates c = true) :
    partsFrom separates 0 (.plain c :: r) =
      ([], (partsFrom separates 0 r).1 :: (partsFrom separates 0 r).2) := by
  rw [partsFrom, if_pos (by simpa using hsep)]
  rintro r' rfl hc
  exact hpair hc rfl

theorem pair_induction {P : List Glyph → Prop} (nil : P [])
    (pair : ∀ r, P r → P (.plain '&' :: .plain '&' :: r))
    (next : ∀ g r, (g = .plain '&' → r.head? ≠ some (.plain '&')) → P r → P (g :: r))
    (gs : List Glyph) : P gs := by
  induction hn : gs.length using Nat.strong_induction_on generalizing gs with
  | _ n ih =>
    match gs, hn with
    | [], _ => exact nil
    | g :: r, hn =>
      simp only [List.length_cons] at hn
      by_cases h : g = .plain '&' ∧ r.head? = some (.plain '&')
      · obtain ⟨r', rfl⟩ := List.head?_eq_some_iff.1 h.2
        simp only [List.length_cons] at hn
        rw [h.1]
        exact pair r' (ih _ (by omega) r' rfl)
      · exact next g r (fun hg hr ↦ h ⟨hg, hr⟩) (ih _ (by omega) r rfl)

theorem parts_induction (separates : Char → Bool) {P : Nat → List Glyph → Prop}
    (nil : ∀ depth, P depth [])
    (pair : ∀ depth r, P depth r → P depth (.plain '&' :: .plain '&' :: r))
    (split : ∀ c r, (c = '&' → r.head? ≠ some (.plain '&')) → separates c = true → P 0 r →
      P 0 (.plain c :: r))
    (next : ∀ depth g r, (g = .plain '&' → r.head? ≠ some (.plain '&')) →
      (depth = 0 → ∀ c, g = .plain c → separates c = false) → P (depthAfter depth g) r →
      P depth (g :: r)) (depth : Nat) (gs : List Glyph) : P depth gs := by
  induction gs using pair_induction generalizing depth with
  | nil => exact nil depth
  | pair r ih => exact pair depth r (ih depth)
  | next g r hpair ih =>
    by_cases hsplit : depth = 0 ∧ ∃ c, g = .plain c ∧ separates c = true
    · obtain ⟨rfl, c, rfl, hc⟩ := hsplit
      exact split c r (fun hamp ↦ hpair (congrArg _ hamp)) hc (ih 0)
    · refine next depth g r hpair (fun hd c hg ↦ ?_) (ih (depthAfter depth g))
      rw [← Bool.not_eq_true]
      exact fun hc ↦ hsplit ⟨hd, c, hg, hc⟩

/-- A text without separators outside its brackets stays whole. -/
theorem partsFrom_append {depth : Nat} {m b : List Glyph}
    (hsep : ∀ a c r, m = a ++ .plain c :: r → a.foldl depthAfter depth = 0 → separates c = false)
    (hseam : m.getLast? = some (.plain '&') → b.head? ≠ some (.plain '&')) :
    partsFrom separates depth (m ++ b) =
      extendFirst m (partsFrom separates (m.foldl depthAfter depth) b) := by
  induction m using pair_induction generalizing depth with
  | nil => rfl
  | pair r ih =>
    have hinner (a : List Glyph) (c : Char) (r' : List Glyph) (hm : r = a ++ .plain c :: r')
        (hd : a.foldl depthAfter depth = 0) : separates c = false :=
      hsep (.plain '&' :: .plain '&' :: a) c r' (by rw [hm]; rfl) hd
    have hr := ih hinner fun hlast ↦
      hseam (by rw [List.getLast?_cons, List.getLast?_cons, hlast]; rfl)
    rw [List.cons_append, List.cons_append, partsFrom_pair, hr, extendFirst_extendFirst]
    rfl
  | next g r hpair ih =>
    have hinner (a : List Glyph) (c : Char) (r' : List Glyph) (hm : r = a ++ .plain c :: r')
        (hd : a.foldl depthAfter (depthAfter depth g) = 0) : separates c = false :=
      hsep (g :: a) c r' (by rw [hm]; rfl) hd
    have hr := ih hinner fun hlast ↦ hseam (by rw [List.getLast?_cons, hlast]; rfl)
    have hg : g = .plain '&' → (r ++ b).head? ≠ some (.plain '&') := by
      intro hg
      cases r with
      | nil => exact hseam (by rw [hg]; rfl)
      | cons g' r => exact hpair hg
    have hnext : depth = 0 → ∀ c, g = .plain c → separates c = false := by
      rintro hd c rfl
      exact hsep [] c r rfl hd
    rw [List.cons_append, partsFrom_next hg hnext, hr, extendFirst_extendFirst]
    rfl

theorem weigh_partsFrom {w : Char → Nat} {n : Nat} (hw : ∀ c, separates c = true → w c = n)
    (depth : Nat) (gs : List Glyph) :
    weigh w (chars (partsFrom separates depth gs).1) +
      ((partsFrom separates depth gs).2.map fun p ↦ weigh w (chars p) + n).sum =
        weigh w (chars gs) := by
  induction depth, gs using parts_induction separates with
  | nil depth => rfl
  | pair depth r ih =>
    rw [partsFrom_pair]
    simp only [extendFirst, chars_append, chars_cons, chars_nil, weigh_append, weigh_nil] at ih ⊢
    omega
  | split c r hpair hsep ih =>
    have hc := hw c hsep
    rw [partsFrom_split hpair hsep]
    simp only [chars_cons, chars_nil, Glyph.chars, weigh_append, weigh_cons, weigh_nil,
      List.map_cons, List.sum_cons] at ih ⊢
    omega
  | next depth g r hpair hnext ih =>
    rw [partsFrom_next hpair hnext]
    simp only [extendFirst, chars_append, chars_cons, chars_nil, weigh_append, weigh_nil] at ih ⊢
    omega

theorem weigh_parts {w : Char → Nat} {n : Nat} (hw : ∀ c, separates c = true → w c = n)
    (cs : List Char) : ((parts separates cs).map fun p ↦ weigh w p + n).sum = weigh w cs + n := by
  have h := weigh_partsFrom hw 0 (glyphs cs)
  rw [chars_glyphs] at h
  simp only [parts, List.map_cons, List.map_map, List.sum_cons, Function.comp_def]
  omega

end Parts

namespace Unseparated

variable {depth : Nat} {g : Glyph} {r gs : List Glyph}

theorem of_pair (h : Unseparated depth (.plain '&' :: .plain '&' :: r)) : Unseparated depth r where
  plain a g b hr hd := h.plain (.plain '&' :: .plain '&' :: a) g b (by rw [hr]; rfl) hd
  paired a n b hr hd ha hb := by
    cases a with
    | nil =>
      have heven := h.paired [] (n + 2) b (by rw [hr]; rfl) hd (by simp) hb
      exact (Nat.even_add.1 heven).2 even_two
    | cons g a =>
      refine h.paired (.plain '&' :: .plain '&' :: g :: a) n b (by rw [hr]; rfl) hd ?_ hb
      simpa using ha

theorem of_next (h : Unseparated depth (g :: r))
    (hpair : g = .plain '&' → r.head? ≠ some (.plain '&')) :
    Unseparated (depthAfter depth g) r where
  plain a g' b hr hd := h.plain (g :: a) g' b (by rw [hr]; rfl) hd
  paired a n b hr hd ha hb := by
    cases a with
    | nil =>
      by_cases hg : g = .plain '&'
      · -- no run goes on after a single sign
        cases n with
        | zero => exact Even.zero
        | succ n => exact absurd (by rw [hr]; rfl) (hpair hg)
      · exact h.paired [g] n b (by rw [hr]; rfl) hd (by simpa using hg) hb
    | cons g' a =>
      refine h.paired (g :: g' :: a) n b (by rw [hr]; rfl) hd ?_ hb
      simpa using ha

theorem ne_separator (h : Unseparated depth (g :: r))
    (hpair : g = .plain '&' → r.head? ≠ some (.plain '&')) (hd : depth = 0) :
    ∃ c, g = .plain c ∧ separatesArguments c = false := by
  obtain ⟨c, rfl, hc⟩ := h.plain [] g r rfl hd
  refine ⟨c, rfl, ?_⟩
  have hamp : c ≠ '&' := by
    rintro rfl
    have hone := h.paired [] 1 r rfl hd (by simp) (hpair rfl)
    exact absurd hone (by decide)
  simp [separatesArguments, hc, hamp]

theorem partsFrom_eq (h : Unseparated depth gs) :
    partsFrom separatesArguments depth gs = (gs, []) := by
  induction gs using pair_induction generalizing depth with
  | nil => rfl
  | pair r ih =>
    rw [partsFrom_pair, ih h.of_pair]
    rfl
  | next g r hpair ih =>
    have hsep : depth = 0 → ∀ c, g = .plain c → separatesArguments c = false := by
      intro hd c hc
      obtain ⟨c', rfl, hc'⟩ := h.ne_separator hpair hd
      cases hc
      exact hc'
    rw [partsFrom_next hpair hsep, ih (h.of_next hpair)]
    rfl

end Unseparated

theorem resolveFrom_eq_chars {depth : Nat} {gs : List Glyph}
    (h : ∀ a g b, gs = a ++ g :: b → a.foldl depthAfter depth = 0 → ∃ c, g = .plain c) :
    resolveFrom depth gs = chars gs := by
  induction gs generalizing depth with
  | nil => rfl
  | cons g r ih =>
    have htail (a : List Glyph) (g' : Glyph) (b : List Glyph) (hr : r = a ++ g' :: b)
        (hd : a.foldl depthAfter (depthAfter depth g) = 0) : ∃ c, g' = .plain c :=
      h (g :: a) g' b (by rw [hr]; rfl) hd
    have hr := ih htail
    have hg := h [] g r rfl
    cases g with
    | plain c => rw [resolveFrom, hr]; rfl
    | escaped c =>
      have hd : depth ≠ 0 := fun hd ↦ nomatch hg hd
      rw [resolveFrom, hr, if_neg hd]
      rfl
    | dangling =>
      have hd : depth ≠ 0 := fun hd ↦ nomatch hg hd
      rw [resolveFrom, hr, if_neg hd]
      rfl

def isOrdinary : Glyph → Bool
  | .plain c => !separatesArguments c
  | _ => false

def isUnseparated (depth : Nat) : List Glyph → Bool
  | [] => true
  | .plain '&' :: .plain '&' :: r => isUnseparated depth r
  | g :: r => (depth ≠ 0 || isOrdinary g) && isUnseparated (depthAfter depth g) r

theorem isOrdinary_iff {g : Glyph} :
    isOrdinary g = true ↔ ∃ c, g = .plain c ∧ separatesArguments c = false := by
  cases g <;> simp [isOrdinary]

namespace Unseparated

variable {depth : Nat} {g : Glyph} {r : List Glyph}

theorem nil (depth : Nat) : Unseparated depth [] where
  plain a g b h _ := by simp at h
  paired a n b h _ _ _ := by
    have hn : n = 0 := by
      have hlen := congrArg List.length h
      simp only [List.length_nil, List.length_append, List.length_replicate] at hlen
      omega
    rw [hn]
    exact Even.zero

theorem pair (h : Unseparated depth r) : Unseparated depth (.plain '&' :: .plain '&' :: r) where
  plain a g b hr hd := by
    match a, hr, hd with
    | [], hr, _ => exact ⟨'&', (List.cons.inj hr).1.symm, by decide⟩
    | [_], hr, _ => exact ⟨'&', (List.cons.inj (List.cons.inj hr).2).1.symm, by decide⟩
    | x :: y :: a, hr, hd =>
      obtain ⟨rfl, htail⟩ := List.cons.inj hr
      obtain ⟨rfl, hrest⟩ := List.cons.inj htail
      exact h.plain a g b hrest hd
  paired a n b hr hd ha hb := by
    match a, n, hr, hd, ha with
    | [], 0, _, _, _ => exact Even.zero
    | [], 1, hr, _, _ =>
      have hrest : .plain '&' :: r = b := (List.cons.inj hr).2
      exact absurd (by rw [← hrest]; rfl) hb
    | [], n + 2, hr, hd, _ =>
      have heven := h.paired [] n b (List.cons.inj (List.cons.inj hr).2).2 hd (by simp) hb
      exact heven.add even_two
    | [x], _, hr, _, ha =>
      obtain ⟨rfl, -⟩ := List.cons.inj hr
      exact absurd rfl ha
    | [x, y], _, hr, _, ha =>
      obtain ⟨rfl, -⟩ := List.cons.inj (List.cons.inj hr).2
      exact absurd rfl ha
    | x :: y :: z :: a, n, hr, hd, ha =>
      obtain ⟨rfl, htail⟩ := List.cons.inj hr
      obtain ⟨rfl, hrest⟩ := List.cons.inj htail
      exact h.paired (z :: a) n b hrest hd (by simpa using ha) hb

theorem next (h : Unseparated (depthAfter depth g) r)
    (hg : depth = 0 → ∃ c, g = .plain c ∧ separatesArguments c = false) :
    Unseparated depth (g :: r) where
  plain a g' b hr hd := by
    cases a with
    | nil =>
      obtain ⟨c, rfl, hc⟩ := hg hd
      refine ⟨c, (List.cons.inj hr).1.symm, ?_⟩
      rintro rfl
      exact absurd hc (by decide)
    | cons x a =>
      obtain ⟨rfl, hrest⟩ := List.cons.inj hr
      exact h.plain a g' b hrest hd
  paired a n b hr hd ha hb := by
    match a, n, hr, hd, ha with
    | [], 0, _, _, _ => exact Even.zero
    | [], n + 1, hr, hd, _ =>
      obtain ⟨c, rfl, hc⟩ := hg hd
      cases (List.cons.inj hr).1
      exact absurd hc (by decide)
    | [x], n, hr, hd, _ =>
      obtain ⟨rfl, hrest⟩ := List.cons.inj hr
      exact h.paired [] n b hrest hd (by simp) hb
    | x :: y :: a, n, hr, hd, ha =>
      obtain ⟨rfl, hrest⟩ := List.cons.inj hr
      exact h.paired (y :: a) n b hrest hd (by simpa using ha) hb

end Unseparated

theorem isUnseparated_iff {depth : Nat} {gs : List Glyph} :
    isUnseparated depth gs = true ↔ Unseparated depth gs := by
  induction gs using pair_induction generalizing depth with
  | nil => exact iff_of_true rfl (.nil depth)
  | pair r ih =>
    rw [isUnseparated, ih]
    exact ⟨.pair, .of_pair⟩
  | next g r hpair ih =>
    have hstep : isUnseparated depth (g :: r) = true ↔
        (depth = 0 → ∃ c, g = .plain c ∧ separatesArguments c = false) ∧
          isUnseparated (depthAfter depth g) r = true := by
      rw [isUnseparated]
      · simp [← isOrdinary_iff, or_iff_not_imp_left]
      · intro r' hg hr
        exact hpair hg (by rw [hr]; rfl)
    rw [hstep, ih]
    exact ⟨fun h ↦ h.2.next h.1, fun h ↦ ⟨h.ne_separator hpair, h.of_next hpair⟩⟩

instance (depth : Nat) (gs : List Glyph) : Decidable (Unseparated depth gs) :=
  decidable_of_iff _ isUnseparated_iff

end Rulebook
