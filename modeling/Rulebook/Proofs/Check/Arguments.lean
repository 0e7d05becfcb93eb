import Rulebook.Proofs.Check.Separating
import Rulebook.Proofs.Rule.Nesting

namespace Rulebook

open Text

def isSpecial (c : Char) : Bool := [',', '&', '(', ')', '[', ']', '\\'].contains c

def escape (cs : List Char) : List Char :=
  cs.flatMap fun c ↦ if isSpecial c then ['\\', c] else [c]

/-- A character of an argument as scanners find it in the check. -/
def escapedGlyph (c : Char) : Glyph := if isSpecial c then .escaped c else .plain c

@[simp] theorem escape_nil : escape [] = [] := rfl

theorem escape_cons (c : Char) (cs : List Char) :
    escape (c :: cs) = (escapedGlyph c).chars ++ escape cs := by
  rw [escape, List.flatMap_cons, escapedGlyph]
  cases isSpecial c <;> rfl

theorem escape_append (a b : List Char) : escape (a ++ b) = escape a ++ escape b :=
  List.flatMap_append

theorem ne_of_not_isSpecial {c d : Char} (hc : isSpecial c = false) (hd : isSpecial d = true) :
    c ≠ d := by
  rintro rfl
  cases hc.symm.trans hd

theorem glyphs_escape_append (cs ds : List Char) :
    glyphs (escape cs ++ ds) = cs.map escapedGlyph ++ glyphs ds := by
  induction cs with
  | nil => rfl
  | cons c cs ih =>
    rw [escape_cons, List.append_assoc, List.map_cons, List.cons_append, ← ih, escapedGlyph]
    cases hc : isSpecial c with
    | true => exact glyphs_escaped c _
    | false => exact glyphs_plain (ne_of_not_isSpecial hc rfl) _

theorem glyphs_escape (cs : List Char) : glyphs (escape cs) = cs.map escapedGlyph := by
  have h := glyphs_escape_append cs []
  rwa [glyphs_nil, List.append_nil, List.append_nil] at h

theorem chars_map_escapedGlyph (cs : List Char) : chars (cs.map escapedGlyph) = escape cs := by
  rw [← glyphs_escape, chars_glyphs]

theorem not_dangles_escape (cs : List Char) : ¬ Dangles (escape cs) := by
  rw [dangles_iff, glyphs_escape]
  intro hlast
  obtain ⟨c, -, hc⟩ := List.mem_map.1 (List.mem_of_getLast? hlast)
  rw [escapedGlyph] at hc
  split at hc <;> cases hc

theorem bracketStep_escapedGlyph (s : List Bracket) (c : Char) :
    bracketStep s (escapedGlyph c) = some s := by
  rw [escapedGlyph]
  cases hc : isSpecial c with
  | true => rfl
  | false =>
    refine bracketStep_other ?_ ?_ s
    · simp [opens?, ne_of_not_isSpecial hc (d := '(') rfl, ne_of_not_isSpecial hc (d := '[') rfl]
    · simp [closes?, ne_of_not_isSpecial hc (d := ')') rfl, ne_of_not_isSpecial hc (d := ']') rfl]

theorem openBrackets_escapedGlyph (s : List Bracket) (cs : List Char) :
    openBrackets s (cs.map escapedGlyph) = some s := by
  induction cs with
  | nil => rfl
  | cons c cs ih =>
    rw [List.map_cons, openBrackets_cons, bracketStep_escapedGlyph]
    exact ih

theorem balanced_escape (cs : List Char) : Balanced (glyphs (escape cs)) := by
  rw [glyphs_escape]
  exact openBrackets_escapedGlyph [] cs

theorem resolveFrom_escapedGlyph (cs : List Char) : resolveFrom 0 (cs.map escapedGlyph) = cs := by
  induction cs with
  | nil => rfl
  | cons c cs ih =>
    have hdepth : depthAfter 0 (escapedGlyph c) = 0 :=
      depthAfter_bracketStep (bracketStep_escapedGlyph [] c)
    rw [escapedGlyph] at hdepth
    rw [List.map_cons, escapedGlyph]
    cases hc : isSpecial c with
    | true =>
      rw [if_pos rfl, resolveFrom]
      exact congrArg (c :: ·) ih
    | false =>
      rw [hc] at hdepth
      rw [if_neg Bool.false_ne_true] at hdepth ⊢
      rw [resolveFrom, hdepth, ih]
      rfl

theorem trim_escape {cs : List Char} (h : trim cs = cs) : trim (escape cs) = escape cs := by
  obtain ⟨hhead, hlast⟩ := trim_eq_self_iff.1 h
  refine trim_eq_self_iff.2 ⟨fun c hc ↦ ?_, fun c hc ↦ ?_⟩
  · cases cs with
    | nil => cases hc
    | cons d cs =>
      rw [escape_cons, escapedGlyph] at hc
      cases hd : isSpecial d with
      | true =>
        rw [hd] at hc
        cases hc
        rfl
      | false =>
        rw [hd] at hc
        cases hc
        exact hhead c rfl
  · obtain rfl | ⟨cs, d, rfl⟩ := List.eq_nil_or_concat' cs
    · cases hc
    · have hend : (escape (cs ++ [d])).getLast? = some d := by
        rw [escape_append, escape_cons, escape_nil, List.append_nil, escapedGlyph]
        cases isSpecial d <;> simp [Glyph.chars]
      cases hend.symm.trans hc
      exact hlast _ List.getLast?_concat

theorem resolveEscapes_escape {cs : List Char} (h : trim cs = cs) :
    resolveEscapes (trim (escape cs)) = cs := by
  rw [trim_escape h, resolveEscapes, glyphs_escape, resolveFrom_escapedGlyph]

def listed (css : List (List Char)) : List Char := [','].intercalate css

theorem listed_cons_cons (cs cs' : List Char) (css : List (List Char)) :
    listed (cs :: cs' :: css) = cs ++ ',' :: listed (cs' :: css) := by
  simp [listed, List.intercalate_cons_cons]

def written (css : List (List Char)) : List Char := listed (css.map escape)

theorem written_cons_cons (cs cs' : List Char) (css : List (List Char)) :
    written (cs :: cs' :: css) = escape cs ++ ',' :: written (cs' :: css) :=
  listed_cons_cons ..

theorem not_dangles_written (css : List (List Char)) : ¬ Dangles (written css) := by
  match css with
  | [] => exact not_dangles_nil
  | [cs] =>
    rw [written, List.map_singleton, listed, List.intercalate_singleton]
    exact not_dangles_escape cs
  | cs :: cs' :: css =>
    rw [written_cons_cons, dangles_append_cons (by decide)]
    exact not_dangles_written (cs' :: css)

theorem balanced_written (css : List (List Char)) : Balanced (glyphs (written css)) := by
  match css with
  | [] => rfl
  | [cs] =>
    rw [written, List.map_singleton, listed, List.intercalate_singleton]
    exact balanced_escape cs
  | cs :: cs' :: css =>
    rw [written_cons_cons, glyphs_escape_append, glyphs_plain (by decide), Balanced,
      openBrackets_append, openBrackets_escapedGlyph]
    exact balanced_written (cs' :: css)

theorem not_separates_of_mem {cs : List Char} {c : Char} (h : .plain c ∈ cs.map escapedGlyph) :
    separatesArguments c = false := by
  obtain ⟨d, -, hd⟩ := List.mem_map.1 h
  rw [escapedGlyph] at hd
  cases hspecial : isSpecial d with
  | true =>
    rw [hspecial] at hd
    cases hd
  | false =>
    rw [hspecial] at hd
    cases hd
    simp [separatesArguments, ne_of_not_isSpecial hspecial (d := ',') rfl,
      ne_of_not_isSpecial hspecial (d := '&') rfl]

theorem partsFrom_escape (cs : List Char) {b : List Glyph} (hb : b.head? ≠ some (.plain '&')) :
    partsFrom separatesArguments 0 (cs.map escapedGlyph ++ b) =
      extendFirst (cs.map escapedGlyph) (partsFrom separatesArguments 0 b) := by
  have hdepth : (cs.map escapedGlyph).foldl depthAfter 0 = 0 :=
    depth_openBrackets (openBrackets_escapedGlyph [] cs)
  rw [partsFrom_append (fun a c r hm _ ↦ ?_) fun _ ↦ hb, hdepth]
  have hmem : .plain c ∈ cs.map escapedGlyph := by
    rw [hm]
    exact List.mem_append_right a List.mem_cons_self
  exact not_separates_of_mem hmem

theorem parts_written (cs : List Char) (css : List (List Char)) :
    parts separatesArguments (written (cs :: css)) = (cs :: css).map escape := by
  have hparts : partsFrom separatesArguments 0 (glyphs (written (cs :: css))) =
      (cs.map escapedGlyph, css.map (·.map escapedGlyph)) := by
    induction css generalizing cs with
    | nil =>
      have hall := partsFrom_escape cs (b := []) nofun
      rw [List.append_nil] at hall
      rw [written, List.map_singleton, listed, List.intercalate_singleton, glyphs_escape, hall]
      simp [partsFrom, extendFirst]
    | cons cs' css ih =>
      rw [written_cons_cons, glyphs_escape_append, glyphs_plain (by decide),
        partsFrom_escape cs (by simp), partsFrom_split (by simp) rfl, ih]
      simp [extendFirst]
  rw [parts, hparts]
  show ((cs :: css).map (·.map escapedGlyph)).map chars = _
  rw [List.map_map]
  exact List.map_congr_left fun cs _ ↦ chars_map_escapedGlyph cs

theorem trim_written_ne_nil {css : List (List Char)} (hne : css ≠ []) (hblank : css ≠ [[]])
    (h : ∀ cs ∈ css, trim cs = cs) : trim (written css) ≠ [] := by
  match css with
  | [] => exact absurd rfl hne
  | [[]] => exact absurd rfl hblank
  | [c :: cs] =>
    have hc := (trim_eq_self_iff.1 (h (c :: cs) List.mem_cons_self)).1 c rfl
    refine trim_ne_nil (c := c) ?_ hc
    rw [written, List.map_singleton, listed, List.intercalate_singleton, escape_cons, escapedGlyph]
    cases isSpecial c <;> simp [Glyph.chars]
  | cs :: cs' :: css =>
    refine trim_ne_nil (c := ',') ?_ rfl
    rw [written_cons_cons]
    exact List.mem_append_right _ List.mem_cons_self

theorem argumentsOf_written {css : List (List Char)} (h : ∀ cs ∈ css, trim cs = cs)
    (hblank : css ≠ [[]]) : argumentsOf (written css) = css.map String.ofList := by
  cases css with
  | nil => rfl
  | cons cs css =>
    have hne := trim_written_ne_nil (List.cons_ne_nil cs css) hblank h
    rw [argumentsOf, if_neg (by simpa using hne)]
    show (parts separatesArguments _).map _ = _
    rw [parts_written, List.map_map]
    exact List.map_congr_left fun a ha ↦ congrArg String.ofList (resolveEscapes_escape (h a ha))

end Rulebook
