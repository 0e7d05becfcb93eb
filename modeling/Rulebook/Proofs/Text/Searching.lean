import Mathlib.Data.List.Infix
import Rulebook.Text.Search

namespace Rulebook.Text

theorem eq_append_of_dropFront? {ps cs r : List Char} (h : dropFront? ps cs = some r) :
    cs = ps ++ r := by
  induction ps generalizing cs with
  | nil =>
    cases h
    rfl
  | cons p ps ih =>
    cases cs with
    | nil => cases h
    | cons c cs =>
      rw [dropFront?] at h
      split at h
      · rename_i hpc
        rw [ih h, hpc]
        rfl
      · cases h

theorem dropFront?_append (ps r : List Char) : dropFront? ps (ps ++ r) = some r := by
  induction ps with
  | nil => rfl
  | cons p ps ih => rw [List.cons_append, dropFront?, if_pos rfl, ih]

theorem dropFront?_eq_none_iff {ps cs : List Char} : dropFront? ps cs = none ↔ ¬ ps <+: cs := by
  constructor
  · rintro h ⟨r, rfl⟩
    rw [dropFront?_append] at h
    cases h
  · intro h
    rw [Option.eq_none_iff_forall_ne_some]
    intro r hr
    exact h ⟨r, (eq_append_of_dropFront? hr).symm⟩

theorem eq_append_of_cutAtWord {word cs before after : List Char}
    (h : cutAtWord word cs = some (before, after)) : cs = before ++ word ++ after := by
  induction cs generalizing before with
  | nil => cases h
  | cons c r ih =>
    rw [cutAtWord] at h
    split at h
    · rename_i hfront
      cases h
      exact eq_append_of_dropFront? hfront
    · obtain ⟨⟨before', after'⟩, hcut, heq⟩ := Option.map_eq_some_iff.1 h
      cases heq
      rw [ih hcut]
      rfl

section Replace

variable {word : List Char} (new : List Char)

theorem replace_nil (hword : word ≠ []) : replace word new [] = [] := by
  cases word with
  | nil => contradiction
  | cons o os => simp [replace]

theorem replace_cons_of_not_prefix {c : Char} {cs : List Char} (h : ¬ word <+: c :: cs) :
    replace word new (c :: cs) = c :: replace word new cs := by
  cases word with
  | nil => exact absurd List.nil_prefix h
  | cons o os =>
    rw [replace]
    split
    · next rest hrest => exact absurd ⟨rest, (eq_append_of_dropFront? hrest).symm⟩ h
    · rfl

theorem replace_word_append (hword : word ≠ []) (cs : List Char) :
    replace word new (word ++ cs) = new ++ replace word new cs := by
  cases word with
  | nil => contradiction
  | cons o os =>
    rw [List.cons_append, replace]
    split
    · next rest hrest =>
      have hfront := dropFront?_append (o :: os) cs
      rw [List.cons_append, hrest] at hfront
      rw [Option.some.inj hfront]
    · next hnone =>
      rw [dropFront?_eq_none_iff] at hnone
      exact absurd ⟨cs, rfl⟩ hnone

theorem replace_append_of_not_prefix {u cs : List Char}
    (h : ∀ v, v ≠ [] → v <:+ u → ¬ word <+: v ++ cs) :
    replace word new (u ++ cs) = u ++ replace word new cs := by
  induction u with
  | nil => rfl
  | cons c u ih =>
    have hc : ¬ word <+: c :: (u ++ cs) := h (c :: u) (List.cons_ne_nil c u) List.suffix_rfl
    rw [List.cons_append, replace_cons_of_not_prefix new hc,
      ih fun v hne hv ↦ h v hne (hv.trans (List.suffix_cons c u))]
    rfl

theorem replace_flatMap {α : Type} [DecidableEq α] {text : α → List Char} {p : α} {ps : List α}
    (hne : text p ≠ [])
    (h : ∀ q qs, q :: qs <:+ ps → q ≠ p →
      ∀ v, v ≠ [] → v <:+ text q → ¬ text p <+: v ++ qs.flatMap text) :
    replace (text p) new (ps.flatMap text) =
      ps.flatMap fun q ↦ if q = p then new else text q := by
  induction ps with
  | nil => exact replace_nil new hne
  | cons q qs ih =>
    have hqs := ih fun q' qs' hq' ↦ h q' qs' (hq'.trans (List.suffix_cons q qs))
    rw [List.flatMap_cons, List.flatMap_cons, ← hqs]
    split
    · next hq => rw [hq, replace_word_append new hne]
    · next hq => exact replace_append_of_not_prefix new (h q qs List.suffix_rfl hq)

end Replace

end Rulebook.Text
