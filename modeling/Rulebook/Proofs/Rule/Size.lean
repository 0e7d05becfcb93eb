import Rulebook.Proofs.Rule.Reading
import Rulebook.Proofs.Text.Weight

namespace Rulebook

open Text

theorem unwrap_sublist (cs : List Char) : (unwrap cs).Sublist cs := by
  induction hn : cs.length using Nat.strong_induction_on generalizing cs with
  | _ n ih =>
    have htrim := trim_sublist cs
    cases ht : trim cs with
    | nil => simp [unwrap_nil ht]
    | cons c r =>
      have hlen := length_trim_le cs
      rw [ht, List.length_cons] at hlen
      rw [ht] at htrim
      rw [unwrap_cons ht]
      split
      · have hr := ih r.dropLast.length (by rw [List.length_dropLast]; omega) r.dropLast rfl
        exact hr.trans ((List.dropLast_sublist r).trans ((List.sublist_cons_self c r).trans htrim))
      · exact htrim

theorem segment_sublist {offset : Nat} {gs : List Glyph} {s : Segment}
    (hs : s ∈ (segments offset gs).1) : (chars s.glyphs).Sublist (chars gs) := by
  obtain ⟨before, after, h⟩ := infix_of_mem_segments hs
  refine List.IsInfix.sublist ⟨chars before, chars after, ?_⟩
  rw [← chars_append, ← chars_append, h]

theorem captured?_sublist {raw inner : List Char} (h : captured? raw = some inner) :
    inner.Sublist raw := by
  obtain rfl | ⟨-, -, hu⟩ := captured?_eq_some_iff.1 h
  · exact List.sublist_cons_self _ _
  · have hsub := unwrap_sublist raw
    rw [hu] at hsub
    exact (List.sublist_cons_self _ _).trans hsub

theorem leafText_sublist {text t : List Char} {texts : List (List Char)} {capture : Option Nat}
    (h : leafTexts 0 none (segments 0 (glyphs text)).1 = .ok (texts, capture)) (ht : t ∈ texts) :
    t.Sublist text := by
  obtain ⟨hlen, -, -, hleaf⟩ := leafTexts_spec h
  obtain ⟨i, hi, rfl⟩ := List.getElem_of_mem ht
  have hseg := List.getElem?_eq_getElem (hlen ▸ hi : i < (segments 0 (glyphs text)).1.length)
  have hraw := (trim_sublist _).trans (segment_sublist (List.mem_of_getElem? hseg))
  rw [chars_glyphs] at hraw
  obtain ⟨-, ⟨-, heq⟩ | ⟨inner, hcap, heq, -⟩⟩ := hleaf i _ _ hseg (List.getElem?_eq_getElem hi)
  · rwa [heq]
  · rw [heq]
    exact (trim_sublist inner).trans ((captured?_sublist hcap).trans hraw)

theorem check_sublist {limit levels : Nat} {cs : List Char} {r : Rule} {t : String}
    (h : readLevel limit levels cs = .ok r) (ht : t ∈ r.checks) : t.toList.Sublist cs := by
  induction levels generalizing cs r with
  | zero => cases h
  | succ levels ih =>
    obtain ⟨-, texts, leaves, capture, htexts, hleaves, rfl⟩ := readLevel_succ_eq_ok_iff.1 h
    obtain ⟨l, hl, ht⟩ := Rule.mem_checks.1 ht
    obtain ⟨text, htext, hread⟩ := exists_mem_of_forall₂ hleaves hl
    have htext := (leafText_sublist htexts htext).trans (unwrap_sublist cs)
    have hinner := (unwrap_sublist text).trans htext
    obtain ⟨-, r, hr, rfl⟩ | ⟨-, rfl⟩ := readLeaf_eq_ok_iff.1 hread
    · exact (ih hr ht).trans hinner
    · obtain rfl := List.mem_singleton.1 ht
      rwa [String.toList_ofList]

theorem Rule.check_sublist_of_read {limits : Limits} {text t : String} {r : Rule}
    (h : Rule.read limits text = .ok r) (ht : t ∈ r.checks) : t.toList.Sublist text.toList :=
  check_sublist (read_eq_ok_iff.1 h).2.2 ht

theorem Rule.length_check_le_of_read {limits : Limits} {text t : String} {r : Rule}
    (h : Rule.read limits text = .ok r) (ht : t ∈ r.checks) : t.length ≤ text.length := by
  have hle := (Rule.check_sublist_of_read h ht).length_le
  rwa [String.length_toList, String.length_toList] at hle

theorem Rule.utf8ByteSize_check_le_of_read {limits : Limits} {text t : String} {r : Rule}
    (h : Rule.read limits text = .ok r) (ht : t ∈ r.checks) :
    t.utf8ByteSize ≤ text.utf8ByteSize := by
  rw [utf8ByteSize_eq_weigh, utf8ByteSize_eq_weigh]
  exact weigh_le_of_sublist (Rule.check_sublist_of_read h ht) _

theorem levels_pos_of_readLevel {limit levels : Nat} {cs : List Char} {r : Rule}
    (h : readLevel limit levels cs = .ok r) : 0 < levels := by
  cases levels with
  | zero => cases h
  | succ levels => exact Nat.succ_pos levels

theorem trim_ne_nil_of_readLevel {limit levels : Nat} {cs : List Char} {r : Rule}
    (h : readLevel limit levels cs = .ok r) : trim cs ≠ [] := by
  cases levels with
  | zero => cases h
  | succ levels =>
    obtain ⟨hne, -⟩ := readLevel_succ_eq_ok_iff.1 h
    exact fun htrim ↦ hne (unwrap_nil htrim)

theorem unwrap_trim (cs : List Char) : unwrap (trim cs) = unwrap cs := by
  cases ht : trim cs with
  | nil => rw [unwrap_nil ht, unwrap_nil (by rw [← ht, trim_trim, ht])]
  | cons c r => rw [unwrap_cons ht, unwrap_cons (by rw [← ht, trim_trim, ht])]

theorem unwrap_of_trim_eq {a b : List Char} (h : trim a = trim b) : unwrap a = unwrap b := by
  rw [← unwrap_trim a, h, unwrap_trim]

theorem readLevel_congr {a b : List Char} (h : unwrap a = unwrap b) (limit levels : Nat) :
    readLevel limit levels a = readLevel limit levels b := by
  cases levels with
  | zero => rfl
  | succ levels => rw [readLevel, readLevel, h]

theorem readLevel_trim (limit levels : Nat) (cs : List Char) :
    readLevel limit levels (trim cs) = readLevel limit levels cs :=
  readLevel_congr (unwrap_trim cs) limit levels

theorem utf8ByteSize_strip_le (s : String) : (strip s).utf8ByteSize ≤ s.utf8ByteSize := by
  rw [utf8ByteSize_eq_weigh, utf8ByteSize_eq_weigh, strip, String.toList_ofList]
  exact weigh_le_of_sublist (trim_sublist s.toList) _

theorem Rule.read_strip {limits : Limits} {text : String} (hb : Balanced (glyphs text.toList))
    (hsize : text.utf8ByteSize ≤ limits.bytes) :
    Rule.read limits (strip text) = Rule.read limits text := by
  have hstrip := utf8ByteSize_strip_le text
  have htrim : (strip text).toList = trim text.toList := String.toList_ofList
  rw [Rule.read, Rule.read, htrim, checkBalance_eq_ok_iff.2 hb,
    checkBalance_eq_ok_iff.2 (balanced_trim.2 hb), readLevel_trim, if_neg (Nat.not_lt.2 hsize),
    if_neg (Nat.not_lt.2 (Nat.le_trans hstrip hsize))]

end Rulebook
