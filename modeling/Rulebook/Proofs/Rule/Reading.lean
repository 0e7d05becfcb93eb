import Rulebook.Proofs.Results
import Rulebook.Proofs.Rule.Shape
import Rulebook.Proofs.Rule.Splitting
import Rulebook.Rule.Reading

namespace Rulebook

open Text

/-- How leaf `i` comes from a trimmed segment: its text, and the captured leaf so far. -/
inductive LeafStep (i : Nat) : Option Nat → List Char → List Char → Option Nat → Prop
  | plain {capture : Option Nat} {raw : List Char} :
    captured? raw = none → LeafStep i capture raw raw capture
  | marked {raw inner : List Char} :
    captured? raw = some inner → LeafStep i none raw (trim inner) (some i)

theorem leafTexts_cons_eq_ok_iff {i : Nat} {capture capture' : Option Nat} {s : Segment}
    {segs : List Segment} {texts : List (List Char)} :
    leafTexts i capture (s :: segs) = .ok (texts, capture') ↔
      ∃ t c ts, LeafStep i capture (trim (chars s.glyphs)) t c ∧ unwrap t ≠ [] ∧
        leafTexts (i + 1) c segs = .ok (ts, capture') ∧ texts = t :: ts := by
  have hrest (t : List Char) (c : Option Nat) :
      (if (unwrap t).isEmpty then .error (.emptyCheck s.offset)
        else leafTexts (i + 1) c segs >>= fun p ↦ .ok (t :: p.1, p.2)) =
          Except.ok (texts, capture') ↔
      unwrap t ≠ [] ∧ ∃ ts, leafTexts (i + 1) c segs = .ok (ts, capture') ∧ texts = t :: ts := by
    by_cases ht : unwrap t = []
    · rw [if_pos (by simp [ht])]
      exact iff_of_false (fun h ↦ nomatch h) fun h ↦ absurd ht h.1
    · rw [if_neg (by simpa using ht), bind_eq_ok_iff]
      constructor
      · rintro ⟨⟨ts, c'⟩, hts, h⟩
        cases h
        exact ⟨ht, ts, hts, rfl⟩
      · rintro ⟨-, ts, hts, rfl⟩
        exact ⟨(ts, capture'), hts, rfl⟩
  cases hc : captured? (trim (chars s.glyphs)) with
  | none =>
    simp only [leafTexts, hc]
    refine (hrest _ _).trans ⟨?_, ?_⟩
    · rintro ⟨ht, ts, h⟩
      exact ⟨_, _, ts, .plain hc, ht, h⟩
    · rintro ⟨t, c, ts, hstep, ht, h⟩
      cases hstep with
      | plain => exact ⟨ht, ts, h⟩
      | marked h' => cases hc.symm.trans h'
  | some inner =>
    cases capture with
    | none =>
      simp only [leafTexts, hc]
      refine (hrest _ _).trans ⟨?_, ?_⟩
      · rintro ⟨ht, ts, h⟩
        exact ⟨_, _, ts, .marked hc, ht, h⟩
      · rintro ⟨t, c, ts, hstep, ht, h⟩
        cases hstep with
        | plain h' => cases hc.symm.trans h'
        | marked h' =>
          cases hc.symm.trans h'
          exact ⟨ht, ts, h⟩
    | some j =>
      simp only [leafTexts, hc]
      refine iff_of_false (fun h ↦ nomatch h) ?_
      rintro ⟨t, c, ts, hstep, -⟩
      cases hstep with
      | plain h' => cases hc.symm.trans h'

def readLeaf (limit levels : Nat) (t : List Char) : Except ReadError Leaf :=
  if hasConnective (unwrap t) then Leaf.nested <$> readLevel limit levels (unwrap t)
  else .ok (.check (String.ofList (unwrap t)))

theorem readLevel_succ_eq_ok_iff {limit levels : Nat} {cs : List Char} {r : Rule} :
    readLevel limit (levels + 1) cs = .ok r ↔
      unwrap cs ≠ [] ∧ ∃ texts leaves capture,
        leafTexts 0 none (segments 0 (glyphs (unwrap cs))).1 = .ok (texts, capture) ∧
        List.Forall₂ (fun t l ↦ readLeaf limit levels t = .ok l) texts leaves ∧
        r = ⟨leaves, groupsOf (segments 0 (glyphs (unwrap cs))).2, capture⟩ := by
  rw [readLevel]
  by_cases hcs : unwrap cs = []
  · rw [if_pos (by simp [hcs])]
    exact iff_of_false (fun h ↦ nomatch h) fun h ↦ absurd hcs h.1
  · rw [if_neg (by simpa using hcs)]
    simp only [bind_eq_ok_iff]
    constructor
    · rintro ⟨⟨texts, capture⟩, ht, leaves, hl, h⟩
      cases h
      exact ⟨hcs, texts, leaves, capture, ht, mapM_eq_ok_iff.1 hl, rfl⟩
    · rintro ⟨-, texts, leaves, capture, ht, hl, rfl⟩
      exact ⟨⟨texts, capture⟩, ht, leaves, mapM_eq_ok_iff.2 hl, rfl⟩

theorem captured?_eq_some_iff {raw r : List Char} :
    captured? raw = some r ↔ raw = '@' :: r ∨
      raw.head? ≠ some '@' ∧ hasConnective (unwrap raw) = false ∧ unwrap raw = '@' :: r := by
  unfold captured?
  split
  · rename_i r'
    simp
  · rename_i hraw
    have hhead : raw.head? ≠ some '@' := by
      intro h
      obtain ⟨r', h⟩ := List.head?_eq_some_iff.1 h
      exact hraw r' h
    have hne : raw ≠ '@' :: r := fun h ↦ hraw r h
    simp only [hne, hhead, false_or, ne_eq, not_false_eq_true, true_and]
    split
    · rename_i hc
      simp [hc]
    · rename_i hc
      simp only [Bool.not_eq_true] at hc
      split
      · rename_i r' hr
        rw [hr] at hc ⊢
        simp [hc]
      · rename_i hr
        exact iff_of_false (fun h ↦ nomatch h) fun h ↦ hr r h.2

theorem captured?_eq_none_iff {raw : List Char} :
    captured? raw = none ↔ raw.head? ≠ some '@' ∧
      (hasConnective (unwrap raw) = false → (unwrap raw).head? ≠ some '@') := by
  simp only [Option.eq_none_iff_forall_ne_some, ne_eq, captured?_eq_some_iff]
  constructor
  · intro h
    have hhead : raw.head? ≠ some '@' := by
      intro hr
      obtain ⟨r, hr⟩ := List.head?_eq_some_iff.1 hr
      exact h r (.inl hr)
    refine ⟨hhead, fun hc hr ↦ ?_⟩
    obtain ⟨r, hr⟩ := List.head?_eq_some_iff.1 hr
    exact h r (.inr ⟨hhead, hc, hr⟩)
  · rintro ⟨hhead, hu⟩ r (rfl | ⟨-, hc, hr⟩)
    · exact hhead rfl
    · exact hu hc (by rw [hr]; rfl)

theorem openBrackets_marker (s : List Bracket) (r : List Char) :
    openBrackets s (glyphs ('@' :: r)) = openBrackets s (glyphs r) := by
  rw [glyphs_plain (by decide), openBrackets_cons, bracketStep_other rfl rfl]
  rfl

theorem balanced_marker {r : List Char} : Balanced (glyphs ('@' :: r)) ↔ Balanced (glyphs r) := by
  rw [Balanced, openBrackets_marker, Balanced]

theorem cutAtConnective_marker (cs : List Char) :
    cutAtConnective 0 (glyphs ('@' :: cs)) = none ↔ cutAtConnective 0 (glyphs cs) = none := by
  have hne : ∀ c : Connective, Glyph.plain '@' ≠ .plain c.sign := by
    intro c
    cases c <;> decide
  rw [glyphs_plain (by decide), cutAtConnective_cons_eq_none]
  exact and_iff_right fun _ ↦ connectiveAt?_of_ne hne _

theorem balanced_of_captured? {raw inner : List Char} (hb : Balanced (glyphs raw))
    (h : captured? raw = some inner) : Balanced (glyphs inner) := by
  obtain rfl | ⟨-, -, hu⟩ := captured?_eq_some_iff.1 h
  · exact balanced_marker.1 hb
  · exact balanced_marker.1 (hu ▸ (unwrap_spec hb).1)

/-- The text of leaf `i` against the trimmed segment it comes from, in a level with the captured
leaf `capture`. -/
def LeafText (i : Nat) (capture : Option Nat) (raw t : List Char) : Prop :=
  unwrap t ≠ [] ∧ (captured? raw = none ∧ t = raw ∨
    ∃ inner, captured? raw = some inner ∧ t = trim inner ∧ capture = some i)

theorem leafTexts_spec {i : Nat} {capture capture' : Option Nat} {segs : List Segment}
    {texts : List (List Char)} (h : leafTexts i capture segs = .ok (texts, capture')) :
    texts.length = segs.length ∧ (∀ j ∈ capture, capture' = some j) ∧
    (∀ j ∈ capture', j ∈ capture ∨ i ≤ j ∧ j < i + segs.length) ∧
    ∀ (k : Nat) (s : Segment) (t : List Char), segs[k]? = some s → texts[k]? = some t →
      LeafText (i + k) capture' (trim (chars s.glyphs)) t := by
  induction segs generalizing i capture texts with
  | nil =>
    cases h
    exact ⟨rfl, fun _ h ↦ h, fun _ h ↦ .inl h, fun _ _ _ h ↦ nomatch h⟩
  | cons s segs ih =>
    obtain ⟨t, c, ts, hstep, ht, hts, rfl⟩ := leafTexts_cons_eq_ok_iff.1 h
    obtain ⟨hlen, hkeep, hrange, hleaf⟩ := ih hts
    have htail : ∀ (k : Nat) (s' : Segment) (t' : List Char), (s :: segs)[k + 1]? = some s' →
        (t :: ts)[k + 1]? = some t' →
        LeafText (i + (k + 1)) capture' (trim (chars s'.glyphs)) t' := by
      intro k s' t' hs' ht'
      rw [show i + (k + 1) = i + 1 + k by omega]
      exact hleaf k s' t' hs' ht'
    have hlen' : (t :: ts).length = (s :: segs).length := congrArg (· + 1) hlen
    simp only [List.length_cons] at hrange ⊢
    cases hstep with
    | plain hc =>
      refine ⟨hlen', hkeep, fun j hj ↦ (hrange j hj).imp_right (by omega), ?_⟩
      rintro (_ | k) s' t' hs' ht'
      · cases hs'
        cases ht'
        exact ⟨ht, .inl ⟨hc, rfl⟩⟩
      · exact htail k s' t' hs' ht'
    | marked hc =>
      have hi := hkeep i rfl
      refine ⟨hlen', fun j hj ↦ (nomatch hj), fun j hj ↦ .inr ?_, ?_⟩
      · obtain rfl : i = j := Option.some.inj (hi.symm.trans hj)
        omega
      · rintro (_ | k) s' t' hs' ht'
        · cases hs'
          cases ht'
          exact ⟨ht, .inr ⟨_, hc, rfl, hi⟩⟩
        · exact htail k s' t' hs' ht'

namespace LeafText

variable {i : Nat} {capture : Option Nat} {raw t : List Char}

theorem balanced (h : LeafText i capture raw t) (hb : Balanced (glyphs raw)) :
    Balanced (glyphs t) := by
  obtain ⟨-, ⟨-, rfl⟩ | ⟨inner, hc, rfl, -⟩⟩ := h
  · exact hb
  · exact balanced_trim.2 (balanced_of_captured? hb hc)

theorem checkText (h : LeafText i capture raw t) (hb : Balanced (glyphs raw))
    (hc : hasConnective (unwrap t) = false) : CheckText (unwrap t) := by
  obtain ⟨hbu, htu, heu⟩ := unwrap_spec (h.balanced hb)
  exact ⟨h.1, htu, checkBalance_eq_ok_iff.2 hbu, hc, heu⟩

theorem captured_of_head (h : LeafText i capture raw t) (hc : hasConnective (unwrap t) = false)
    (hhead : (unwrap t).head? = some '@') : capture = some i := by
  obtain ⟨-, ⟨hn, rfl⟩ | ⟨inner, -, -, hi⟩⟩ := h
  · exact absurd hhead ((captured?_eq_none_iff.1 hn).2 hc)
  · exact hi

end LeafText

theorem readLeaf_eq_ok_iff {limit levels : Nat} {t : List Char} {l : Leaf} :
    readLeaf limit levels t = .ok l ↔
      hasConnective (unwrap t) = true ∧
        (∃ r, readLevel limit levels (unwrap t) = .ok r ∧ l = .nested r) ∨
      hasConnective (unwrap t) = false ∧ l = .check (String.ofList (unwrap t)) := by
  unfold readLeaf
  cases hc : hasConnective (unwrap t) with
  | true =>
    rw [if_pos rfl, map_eq_ok_iff]
    constructor
    · rintro ⟨r, hr, rfl⟩
      exact .inl ⟨rfl, r, hr, rfl⟩
    · rintro (⟨-, r, hr, rfl⟩ | ⟨h, -⟩)
      · exact ⟨r, hr, rfl⟩
      · cases h
  | false => simp [eq_comm]

section Leaves

variable {limit levels : Nat} {text : List Char} {texts : List (List Char)} {leaves : List Leaf}
  {capture : Option Nat}
  (ht : leafTexts 0 none (segments 0 (glyphs text)).1 = .ok (texts, capture))
  (hl : List.Forall₂ (fun t l ↦ readLeaf limit levels t = .ok l) texts leaves)

include ht hl

theorem length_leaves : leaves.length = (segments 0 (glyphs text)).2.length + 1 := by
  rw [← hl.length_eq, (leafTexts_spec ht).1, length_segments]

theorem exists_leafText (hb : Balanced (glyphs text)) {i : Nat} {l : Leaf}
    (hi : leaves[i]? = some l) :
    ∃ s t, (segments 0 (glyphs text)).1[i]? = some s ∧ readLeaf limit levels t = .ok l ∧
      LeafText i capture (trim (chars s.glyphs)) t ∧
      Balanced (glyphs (trim (chars s.glyphs))) := by
  obtain ⟨hlen, -, -, hleaf⟩ := leafTexts_spec ht
  obtain ⟨hlt, rfl⟩ := List.getElem?_eq_some_iff.1 hi
  have hit : i < texts.length := hl.length_eq ▸ hlt
  have his : i < (segments 0 (glyphs text)).1.length := hlen ▸ hit
  have hs := List.getElem?_eq_getElem his
  obtain ⟨hg, hbs, -⟩ := segment_spec rfl hb 0 (List.mem_of_getElem? hs)
  refine ⟨_, texts[i], hs, (List.forall₂_iff_get.1 hl).2 i hit hlt, ?_, ?_⟩
  · have h := hleaf i _ texts[i] hs (List.getElem?_eq_getElem hit)
    rwa [Nat.zero_add] at h
  · rwa [balanced_trim, hg]

theorem check_of_leafTexts (hb : Balanced (glyphs text)) {i : Nat} {t : String}
    (hi : leaves[i]? = some (.check t)) :
    CheckText t.toList ∧ (t.toList.head? = some '@' → capture = some i) := by
  obtain ⟨s, x, -, hread, hx, hbs⟩ := exists_leafText ht hl hb hi
  obtain ⟨-, t', -, h⟩ | ⟨hc, h⟩ := readLeaf_eq_ok_iff.1 hread
  · cases h
  · cases h
    rw [String.toList_ofList]
    exact ⟨hx.checkText hbs hc, hx.captured_of_head hc⟩

theorem nested_of_leafTexts (hb : Balanced (glyphs text)) {t : Rule} (hi : .nested t ∈ leaves) :
    ∃ cs, Balanced (glyphs cs) ∧ hasConnective (unwrap cs) = true ∧
      readLevel limit levels cs = .ok t := by
  obtain ⟨i, hi⟩ := List.mem_iff_getElem?.1 hi
  obtain ⟨s, x, -, hread, hx, hbs⟩ := exists_leafText ht hl hb hi
  obtain ⟨hc, t', hr, h⟩ | ⟨-, h⟩ := readLeaf_eq_ok_iff.1 hread
  · cases h
    have hbx := hx.balanced hbs
    exact ⟨unwrap x, (unwrap_spec hbx).1, by rwa [unwrap_unwrap hbx], hr⟩
  · cases h

theorem captured_of_lone (hb : Balanced (glyphs text)) (hu : unwrap text = text) {t : Rule}
    (hlone : leaves = [.nested t]) : capture = some 0 := by
  have hcut : cutAtConnective 0 (glyphs text) = none := by
    have hlen := length_leaves ht hl
    rw [hlone] at hlen
    exact segments_eq_nil_iff.1 (List.length_eq_zero_iff.1 (Nat.succ.inj hlen).symm)
  obtain ⟨s, x, hs, hread, ⟨-, ⟨-, rfl⟩ | ⟨inner, -, -, hcap⟩⟩, -⟩ :=
    exists_leafText ht hl hb (i := 0) (by rw [hlone]; rfl)
  · rw [segments_of_none hcut] at hs
    cases hs
    have htrim := (unwrap_spec hb).2.1
    rw [hu] at htrim
    obtain ⟨hc, -⟩ | ⟨-, h⟩ := readLeaf_eq_ok_iff.1 hread
    · rw [chars_glyphs, htrim, hu, hasConnective, hcut] at hc
      cases hc
    · cases h
  · exact hcap

end Leaves

/-- What is read within some levels is canonical and needs no more than these levels. -/
theorem readLevel_canonical {limit levels : Nat} {cs : List Char} {r : Rule}
    (hb : Balanced (glyphs cs)) (h : readLevel limit levels cs = .ok r) :
    r.Canonical ∧ r.depth ≤ levels ∧ (hasConnective (unwrap cs) = true → 2 ≤ r.leaves.length) := by
  induction levels generalizing cs r with
  | zero => cases h
  | succ levels ih =>
    obtain ⟨-, texts, leaves, capture, ht, hl, rfl⟩ := readLevel_succ_eq_ok_iff.1 h
    have hbt := (unwrap_spec hb).1
    have hlen := length_leaves ht hl
    have hmem (t : Rule) (hi : .nested t ∈ leaves) :
        t.Canonical ∧ t.depth ≤ levels ∧ 2 ≤ t.leaves.length := by
      obtain ⟨x, hbx, hc, hr⟩ := nested_of_leafTexts ht hl hbt hi
      obtain ⟨hcan, hdepth, htwo⟩ := ih hbx hr
      exact ⟨hcan, hdepth, htwo hc⟩
    have hlevel : Rule.CanonicalLevel
        ⟨leaves, groupsOf (segments 0 (glyphs (unwrap cs))).2, capture⟩ := by
      refine ⟨fun hnil ↦ ?_, isChain_iff.2 ⟨_, hlen.symm, rfl⟩, fun i hi ↦ ?_,
        fun i t hi ↦ check_of_leafTexts ht hl hbt hi, fun t ht ↦ (hmem t ht).2.2,
        fun t hlone ↦ captured_of_lone ht hl hbt (unwrap_unwrap hb) hlone⟩
      · rw [show leaves = [] from hnil] at hlen
        cases hlen
      · obtain hi | ⟨-, hi⟩ := (leafTexts_spec ht).2.2.1 i hi
        · cases hi
        · rw [length_segments, ← hlen, Nat.zero_add] at hi
          exact hi
    refine ⟨Rule.canonical_iff.2 ⟨hlevel, fun t ht ↦ (hmem t ht).1⟩, ?_, fun hc ↦ ?_⟩
    · have hin := depthIn_le_iff.2 fun t ht ↦ (hmem t ht).2.1
      rw [Rule.depth_eq]
      show 1 + depthIn leaves ≤ levels + 1
      omega
    · show 2 ≤ leaves.length
      have hne : (segments 0 (glyphs (unwrap cs))).2 ≠ [] := fun hnil ↦ by
        rw [hasConnective, segments_eq_nil_iff.1 hnil] at hc
        cases hc
      have := List.length_pos_of_ne_nil hne
      omega

theorem read_eq_ok_iff {limits : Limits} {text : String} {r : Rule} :
    Rule.read limits text = .ok r ↔
      text.utf8ByteSize ≤ limits.bytes ∧ Balanced (glyphs text.toList) ∧
        readLevel limits.depth limits.depth text.toList = .ok r := by
  unfold Rule.read
  by_cases hsize : text.utf8ByteSize > limits.bytes
  · rw [if_pos hsize]
    exact iff_of_false (fun h ↦ nomatch h) fun h ↦ by omega
  · rw [if_neg hsize, ← checkBalance_eq_ok_iff]
    cases checkBalance (glyphs text.toList) with
    | error e => exact iff_of_false (fun h ↦ nomatch h) fun h ↦ nomatch h.2.1
    | ok u => exact ⟨fun h ↦ ⟨by omega, rfl, h⟩, fun h ↦ h.2.2⟩

theorem balance_ne_mixedConnectives (brackets : List (Bracket × Nat)) (pos : Nat)
    (gs : List Glyph) : balance brackets pos gs ≠ .error .mixedConnectives := by
  fun_induction balance brackets pos gs with
  | case3 _ _ _ _ _ _ ih => exact ih
  | case4 _ _ _ _ _ _ _ _ ih => exact ih
  | case7 _ _ _ _ _ _ ih => exact ih
  | _ => exact nofun

theorem leafTexts_ne_mixedConnectives (i : Nat) (capture : Option Nat) (segs : List Segment) :
    leafTexts i capture segs ≠ .error .mixedConnectives := by
  induction segs generalizing i capture with
  | nil => exact nofun
  | cons s segs ih =>
    have hrest (text : List Char) (capture : Option Nat) :
        (if (unwrap text).isEmpty then .error (.emptyCheck s.offset)
          else leafTexts (i + 1) capture segs >>= fun p ↦ .ok (text :: p.1, p.2)) ≠
            Except.error ReadError.mixedConnectives := by
      split
      · exact nofun
      · intro h
        obtain h | ⟨_, -, h⟩ := bind_eq_error_iff.1 h
        · exact ih _ _ h
        · cases h
    cases hc : captured? (trim (chars s.glyphs)) with
    | none =>
      simp only [leafTexts, hc]
      exact hrest _ _
    | some inner =>
      cases capture with
      | none =>
        simp only [leafTexts, hc]
        exact hrest _ _
      | some j =>
        simp only [leafTexts, hc]
        exact nofun

theorem readLevel_ne_mixedConnectives (limit levels : Nat) (cs : List Char) :
    readLevel limit levels cs ≠ .error .mixedConnectives := by
  induction levels generalizing cs with
  | zero => exact nofun
  | succ levels ih =>
    rw [readLevel]
    split
    · exact nofun
    · intro h
      obtain h | ⟨⟨texts, capture⟩, -, h⟩ := bind_eq_error_iff.1 h
      · exact leafTexts_ne_mixedConnectives _ _ _ h
      obtain h | ⟨leaves, -, h⟩ := bind_eq_error_iff.1 h
      · obtain ⟨t, -, h⟩ := exists_of_mapM_eq_error h
        simp only at h
        split at h
        · exact ih _ (map_eq_error_iff.1 h)
        · cases h
      · cases h

theorem read_ne_mixedConnectives (limits : Limits) (text : String) :
    Rule.read limits text ≠ .error .mixedConnectives := by
  rw [Rule.read]
  split
  · exact nofun
  · intro h
    obtain h | ⟨_, -, h⟩ := bind_eq_error_iff.1 h
    · exact balance_ne_mixedConnectives _ _ _ h
    · exact readLevel_ne_mixedConnectives _ _ _ h

theorem read_eq_error_of_unbalanced {limits : Limits} {text : String} {e : ReadError}
    (hsize : text.utf8ByteSize ≤ limits.bytes) (h : checkBalance (glyphs text.toList) = .error e) :
    Rule.read limits text = .error e := by
  rw [Rule.read, if_neg (by omega), h]
  rfl

end Rulebook
