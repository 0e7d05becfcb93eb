import Rulebook.Proofs.Check.Separating
import Rulebook.Proofs.Decimal.Integers
import Rulebook.Proofs.Rule.Splitting

namespace Rulebook

open Text

/-- A character that neither escapes the one after it nor is a bracket. -/
def isQuiet (c : Char) : Bool := !(['\\', '(', ')', '[', ']'].contains c)

theorem isQuiet_of {p : Char → Bool} (hp : ['\\', '(', ')', '[', ']'].any p = false) {c : Char}
    (hc : p c = true) : isQuiet c = true := by
  rw [isQuiet, Bool.not_eq_true', ← Bool.not_eq_true, List.contains_iff_mem]
  intro hmem
  rw [List.any_eq_false] at hp
  exact hp c hmem hc

theorem ne_of_isQuiet {c d : Char} (h : isQuiet c = true) (hd : isQuiet d = false) : c ≠ d := by
  rintro rfl
  cases h.symm.trans hd

theorem bracketStep_of_isQuiet {c : Char} (h : isQuiet c = true) (s : List Bracket) :
    bracketStep s (.plain c) = some s := by
  refine bracketStep_other ?_ ?_ s
  · simp [opens?, ne_of_isQuiet h (d := '(') rfl, ne_of_isQuiet h (d := '[') rfl]
  · simp [closes?, ne_of_isQuiet h (d := ')') rfl, ne_of_isQuiet h (d := ']') rfl]

section Quiet

variable {cs : List Char} (h : ∀ c ∈ cs, isQuiet c = true)

include h

theorem glyphs_quiet_append (ds : List Char) :
    glyphs (cs ++ ds) = cs.map .plain ++ glyphs ds := by
  induction cs with
  | nil => rfl
  | cons c cs ih =>
    obtain ⟨hc, hcs⟩ := List.forall_mem_cons.1 h
    rw [List.cons_append, glyphs_plain (ne_of_isQuiet hc rfl), ih hcs]
    rfl

theorem glyphs_quiet : glyphs cs = cs.map .plain := by
  have hgs := glyphs_quiet_append h []
  rwa [glyphs_nil, List.append_nil, List.append_nil] at hgs

theorem chars_quiet : chars (cs.map .plain) = cs := by
  rw [← glyphs_quiet h, chars_glyphs]

theorem not_dangles_quiet : ¬ Dangles cs := by
  rw [dangles_iff, glyphs_quiet h]
  intro hlast
  obtain ⟨_, -, hc⟩ := List.mem_map.1 (List.mem_of_getLast? hlast)
  cases hc

theorem openBrackets_quiet (s : List Bracket) (gs : List Glyph) :
    openBrackets s (cs.map .plain ++ gs) = openBrackets s gs := by
  induction cs with
  | nil => rfl
  | cons c cs ih =>
    obtain ⟨hc, hcs⟩ := List.forall_mem_cons.1 h
    rw [List.map_cons, List.cons_append, openBrackets_cons, bracketStep_of_isQuiet hc]
    exact ih hcs

theorem balanced_quiet : Balanced (glyphs cs) := by
  have hopen := openBrackets_quiet h [] []
  rwa [List.append_nil, ← glyphs_quiet h] at hopen

end Quiet

theorem not_isBlank_of_isLower {c : Char} (h : c.isLower = true) : isBlank c = false := by
  have hrange : (decide (c.val ≥ 'a'.val) && decide (c.val ≤ 'z'.val)) = true := h
  rw [Bool.and_eq_true, decide_eq_true_iff, decide_eq_true_iff] at hrange
  have hleast : 97 ≤ c.toNat := hrange.1
  have hgreatest : c.toNat ≤ 122 := hrange.2
  rw [← Bool.not_eq_true]
  intro hblank
  simp only [isBlank, Bool.or_eq_true, Bool.and_eq_true, decide_eq_true_iff, beq_iff_eq,
    ← Char.toNat_inj, Decimal.le_iff_toNat_le, Char.reduceToNat] at hblank
  omega

def isReserved (c : Char) : Bool := ['\\', '(', ')', '[', ']', '&', '|'].contains c

structure Name (name : List Char) : Prop where
  nonempty : name ≠ []
  trimmed : trim name = name
  ordinary : ∀ c ∈ name, isReserved c = false

theorem name_iff {name : List Char} :
    Name name ↔ name ≠ [] ∧ trim name = name ∧ name.any isReserved = false := by
  rw [List.any_eq_false]
  simp only [Bool.not_eq_true]
  exact ⟨fun h ↦ ⟨h.nonempty, h.trimmed, h.ordinary⟩, fun ⟨hne, htrim, h⟩ ↦ ⟨hne, htrim, h⟩⟩

instance (name : List Char) : Decidable (Name name) := decidable_of_iff _ name_iff.symm

namespace Name

variable {name : List Char} (h : Name name)

include h

theorem not_mem {c : Char} (hc : isReserved c = true) : c ∉ name := by
  intro hmem
  cases (h.ordinary c hmem).symm.trans hc

theorem quiet : ∀ c ∈ name, isQuiet c = true := by
  intro c hc
  rw [isQuiet, Bool.not_eq_true', ← Bool.not_eq_true, List.contains_iff_mem]
  intro hmem
  have hreserved : ['\\', '(', ')', '[', ']'].all isReserved = true := rfl
  exact h.not_mem (List.all_eq_true.1 hreserved c hmem) hc

theorem cutAt_append {c : Char} (hc : isReserved c = true) (gs : List Glyph) :
    cutAt c (name.map .plain ++ .plain c :: gs) = some (name.map .plain, gs) := by
  refine Rulebook.cutAt_append (fun hmem ↦ h.not_mem hc ?_) gs
  simpa using hmem

theorem cutAtConnective_append {gs : List Glyph} (hgs : cutAtConnective 0 gs = none) :
    cutAtConnective 0 (name.map .plain ++ gs) = none := by
  have hquiet := h.quiet
  have hsigns (k : Connective) : k.sign ∉ name := h.not_mem (by cases k <;> rfl)
  clear h
  induction name with
  | nil => exact hgs
  | cons c name ih =>
    obtain ⟨hc, hname⟩ := List.forall_mem_cons.1 hquiet
    refine cutAtConnective_cons_eq_none.2 ⟨fun _ ↦ connectiveAt?_of_ne (fun k hk ↦ ?_) _, ?_⟩
    · exact hsigns k (Glyph.plain.inj hk ▸ List.mem_cons_self)
    · have hdepth : depthAfter 0 (.plain c) = 0 :=
        depthAfter_bracketStep (bracketStep_of_isQuiet hc [])
      rw [hdepth]
      exact ih hname fun k hk ↦ hsigns k (List.mem_cons_of_mem c hk)

end Name

structure Word (name : List Char) : Prop where
  nonempty : name ≠ []
  letters : ∀ c ∈ name, c.isLower = true

theorem word_iff {name : List Char} :
    Word name ↔ (!name.isEmpty && name.all Char.isLower) = true := by
  rw [Bool.and_eq_true, Bool.not_eq_true', List.isEmpty_eq_false_iff, List.all_eq_true]
  exact ⟨fun h ↦ ⟨h.nonempty, h.letters⟩, fun h ↦ ⟨h.1, h.2⟩⟩

instance (name : List Char) : Decidable (Word name) := decidable_of_iff _ word_iff.symm

namespace Word

variable {name : List Char} (h : Word name)

include h

theorem not_mem {c : Char} (hc : c.isLower = false) : c ∉ name := by
  intro hmem
  cases (h.letters c hmem).symm.trans hc

theorem head?_ne {c : Char} (hc : c.isLower = false) : name.head? ≠ some c :=
  fun hhead ↦ h.not_mem hc (List.mem_of_mem_head? hhead)

theorem toName : Name name where
  nonempty := h.nonempty
  trimmed := by
    refine trim_eq_self_iff.2 ⟨fun c hc ↦ ?_, fun c hc ↦ ?_⟩
    · exact not_isBlank_of_isLower (h.letters c (List.mem_of_mem_head? hc))
    · exact not_isBlank_of_isLower (h.letters c (List.mem_of_mem_getLast? hc))
  ordinary c hc := by
    rw [isReserved, ← Bool.not_eq_true, List.contains_iff_mem]
    intro hmem
    have hlower : ['\\', '(', ')', '[', ']', '&', '|'].any Char.isLower = false := rfl
    exact List.any_eq_false.1 hlower c hmem (h.letters c hc)

end Word

end Rulebook
