import Rulebook.Catalog.Dict
import Rulebook.Proofs.Check.Writing

namespace Rulebook

open Text

theorem foldl_depthAfter_blanks {l : List Char} (hl : ∀ b ∈ l, isBlank b = true) :
    (glyphs l).foldl depthAfter 0 = 0 := by
  have hopen : openBrackets [] (glyphs l) = some [] := openBrackets_blanks_after hl [] []
  exact depth_openBrackets hopen

section Argument

variable {cs : List Char} (hb : Balanced (glyphs cs)) (hs : Unseparated 0 (glyphs cs))

include hb hs

theorem not_dangles_of_unseparated : ¬ Dangles cs := by
  intro hd
  have hgs := glyphs_of_dangles hd
  have hdepth := depth_openBrackets hb
  rw [hgs, List.foldl_concat] at hdepth
  obtain ⟨c, hc, -⟩ := hs.plain _ .dangling [] hgs hdepth
  cases hc

theorem not_dangles_trim : ¬ Dangles (trim cs) := by
  intro hd
  obtain ⟨l, r, hcs, hl, -⟩ := exists_trim cs
  have hend := not_dangles_of_unseparated hb hs
  have hinit := depth_openBrackets (balanced_trim.2 hb)
  rw [glyphs_of_dangles hd, List.foldl_concat] at hinit
  have hstart := foldl_depthAfter_blanks hl
  rw [List.append_assoc] at hcs
  cases r with
  | nil =>
    rw [List.append_nil] at hcs
    rw [hcs, dangles_iff, glyphs_append (not_dangles_of_isBlank hl), glyphs_of_dangles hd,
      ← List.append_assoc, List.getLast?_concat] at hend
    exact hend rfl
  | cons b r =>
    have hgs : glyphs cs = (glyphs l ++ (glyphs (trim cs)).dropLast) ++ .escaped b :: glyphs r := by
      conv_lhs => rw [hcs, glyphs_append (not_dangles_of_isBlank hl), glyphs_append_of_dangles hd]
      rw [List.append_assoc]
    obtain ⟨c, hc, -⟩ := hs.plain _ _ _ hgs (by rw [List.foldl_append, hstart]; exact hinit)
    cases hc

theorem resolveEscapes_trim : resolveEscapes (trim cs) = trim cs := by
  obtain ⟨l, r, hcs, hl, -⟩ := exists_trim cs
  have hgs : glyphs cs = glyphs l ++ glyphs (trim cs) ++ glyphs r := by
    conv_lhs =>
      rw [hcs, List.append_assoc, glyphs_append (not_dangles_of_isBlank hl),
        glyphs_append (not_dangles_trim hb hs)]
    rw [List.append_assoc]
  have hstart := foldl_depthAfter_blanks hl
  have hplain (a : List Glyph) (g : Glyph) (b : List Glyph) (h : glyphs (trim cs) = a ++ g :: b)
      (hd : a.foldl depthAfter 0 = 0) : ∃ c, g = .plain c := by
    obtain ⟨c, hc, -⟩ := hs.plain (glyphs l ++ a) g (b ++ glyphs r) (by rw [hgs, h]; simp)
      (by rw [List.foldl_append, hstart]; exact hd)
    exact ⟨c, hc⟩
  rw [resolveEscapes, resolveFrom_eq_chars hplain, chars_glyphs]

theorem argumentsOf_unseparated (hne : trim cs ≠ []) :
    argumentsOf cs = [String.ofList (trim cs)] := by
  have hparts : parts separatesArguments cs = [cs] := by
    rw [parts, hs.partsFrom_eq]
    simp
  rw [argumentsOf, if_neg (by simpa using hne)]
  show (parts separatesArguments cs).map _ = _
  rw [hparts, List.map_singleton, resolveEscapes_trim hb hs]

end Argument

def dictCheck (rule : String) : String := "dict[value(" ++ rule ++ ")]"

def valueCall (cs : List Char) : List Char := 'v' :: "alue(".toList ++ cs ++ [')']

theorem valueCall_eq (cs : List Char) : valueCall cs = bracketed .round "value".toList cs := by
  simp [valueCall, bracketed, Bracket.opening, Bracket.closing]

theorem dictCheck_eq (rule : String) :
    dictCheck rule = checkOf "dict" [String.ofList (valueCall rule.toList)] := by
  rw [← String.toList_inj, toList_checkOf]
  simp [dictCheck, valueCall, bracketed, joined, Bracket.opening, Bracket.closing]

theorem toList_dictCheck (rule : String) :
    (dictCheck rule).toList = bracketed .square "dict".toList (valueCall rule.toList) := by
  rw [dictCheck_eq, toList_checkOf]
  simp [joined]

section DictCheck

variable {cs : List Char} (hb : Balanced (glyphs cs)) (hs : Unseparated 0 (glyphs cs))

include hb hs

theorem callText_valueCall : CallText (valueCall cs) := by
  rw [valueCall_eq]
  exact callText_bracketed (by decide) (not_dangles_of_unseparated hb hs) hb

theorem read_valueCall (hne : trim cs ≠ []) :
    Call.read (valueCall cs) = .ok ⟨"value", [String.ofList (trim cs)]⟩ := by
  rw [valueCall_eq, Call.read_bracketed (by decide) (not_dangles_of_unseparated hb hs),
    argumentsOf_unseparated hb hs hne]
  rfl

theorem checkText_dictCheck {rule : String} (hcs : rule.toList = cs) :
    CheckText (dictCheck rule).toList := by
  rw [dictCheck_eq, hcs]
  refine checkText_checkOf (by decide) (List.forall_mem_singleton.2 ?_)
  rw [String.toList_ofList]
  exact callText_valueCall hb hs

theorem Check.read_dictCheck {rule : String} (hcs : rule.toList = cs) (hne : trim cs ≠ []) :
    Check.read (dictCheck rule) = .ok ⟨"dict", [⟨"value", [String.ofList (trim cs)]⟩]⟩ := by
  have hcall : CallText (String.ofList (valueCall cs)).toList := by
    rw [String.toList_ofList]
    exact callText_valueCall hb hs
  rw [dictCheck_eq, hcs, read_checkOf (by decide) (List.forall_mem_singleton.2 hcall) (by simp)]
  simp only [List.mapM_cons, List.mapM_nil, String.toList_ofList, read_valueCall hb hs hne]
  rfl

end DictCheck

section Weight

theorem resolveFrom_sublist (depth : Nat) (gs : List Glyph) :
    (resolveFrom depth gs).Sublist (chars gs) := by
  induction gs generalizing depth with
  | nil => exact .slnil
  | cons g r ih =>
    have hr := ih (depthAfter depth g)
    rw [chars_cons]
    cases g with
    | plain c => exact hr.cons_cons c
    | escaped c =>
      rw [resolveFrom]
      refine List.Sublist.append ?_ hr
      split
      · exact .cons _ (.refl _)
      · exact .refl _
    | dangling =>
      rw [resolveFrom]
      refine List.Sublist.append ?_ hr
      split
      · exact List.nil_sublist _
      · exact .refl _

theorem resolveEscapes_sublist (cs : List Char) : (resolveEscapes cs).Sublist cs := by
  have h := resolveFrom_sublist 0 (glyphs cs)
  rwa [chars_glyphs] at h

variable {w : Char → Nat}

theorem weigh_intercalate_comma (w : Char → Nat) {l : List String} (h : l ≠ []) :
    weigh w (",".intercalate l).toList + w ',' =
      (l.map fun s ↦ weigh w s.toList + w ',').sum := by
  have hcomma : ",".toList = [','] := rfl
  induction l with
  | nil => exact absurd rfl h
  | cons s l ih =>
    rw [String.toList_intercalate, hcomma] at ih ⊢
    cases l with
    | nil => simp
    | cons s' l =>
      have hl := ih (by simp)
      rw [List.map_cons, List.map_cons, List.intercalate_cons_cons, ← List.map_cons]
      simp only [weigh_append, weigh_cons, weigh_nil, List.map_cons, List.sum_cons] at hl ⊢
      omega

theorem weigh_argumentsOf_le (hw : w '&' = w ',') (body : List Char) :
    weigh w (",".intercalate (argumentsOf body)).toList ≤ weigh w body := by
  rw [argumentsOf]
  split
  · exact Nat.zero_le _
  · show weigh w (",".intercalate ((parts separatesArguments body).map _)).toList ≤ _
    have hsep (c : Char) (hc : separatesArguments c = true) : w c = w ',' := by
      simp only [separatesArguments, Bool.or_eq_true, decide_eq_true_eq] at hc
      obtain rfl | rfl := hc
      · rfl
      · exact hw
    have hparts := weigh_parts hsep body
    have hne : parts separatesArguments body ≠ [] := by simp [parts]
    have hjoin := weigh_intercalate_comma w (l := (parts separatesArguments body).map fun a ↦
      String.ofList (resolveEscapes (trim a))) (by simpa using hne)
    have hle : ((parts separatesArguments body).map fun a ↦
        weigh w (resolveEscapes (trim a)) + w ',').sum ≤
          ((parts separatesArguments body).map fun a ↦ weigh w a + w ',').sum := by
      refine List.sum_le_sum fun a _ ↦ ?_
      have hsub := (resolveEscapes_sublist (trim a)).trans (trim_sublist a)
      exact Nat.add_le_add_right (weigh_le_of_sublist hsub w) _
    rw [List.map_map] at hjoin
    simp only [Function.comp_def, String.toList_ofList] at hjoin
    omega

theorem weigh_arguments_le (hw : w '&' = w ',') {text : List Char} {call : Call}
    (h : Call.read text = .ok call) :
    weigh w (",".intercalate call.arguments).toList ≤ weigh w text := by
  have htrim := weigh_le_of_sublist (trim_sublist text) w
  simp only [Call.read] at h
  split at h
  · cases h
  · split at h
    · obtain rfl := Except.ok.inj h
      exact Nat.zero_le _
    · rename_i before after hcut
      have hgs := congrArg chars (eq_append_of_cutAt hcut)
      rw [chars_glyphs, chars_append, chars_cons] at hgs
      split at h
      · cases h
      · rename_i body hbody
        obtain rfl := Except.ok.inj h
        have hsum := congrArg (weigh w) hgs
        rw [eq_concat_of_dropLast? hbody] at hsum
        simp only [weigh_append] at hsum
        have hargs := weigh_argumentsOf_le hw body
        show weigh w (",".intercalate (argumentsOf body)).toList ≤ _
        omega

/-- What the arguments of a call spell out weighs less than the check that the call is a part of, as
long as commas stand in for separators of their own weight. -/
theorem weigh_arguments_lt (hw : w '&' = w ',') (hclose : 0 < w ']') {t : String} {check : Check}
    (h : Check.read t = .ok check) {call : Call} (hcall : call ∈ check.calls) :
    weigh w (",".intercalate call.arguments).toList < weigh w t.toList := by
  have htrim := weigh_le_of_sublist (trim_sublist t.toList) w
  simp only [Check.read] at h
  split at h
  · obtain ⟨type, -, h⟩ := bind_eq_ok_iff.1 h
    cases h
    cases hcall
  · rename_i before after hcut
    have hgs := congrArg chars (eq_append_of_cutAt hcut)
    rw [chars_glyphs, chars_append, chars_cons] at hgs
    split at h
    · cases h
    · rename_i inner hinner
      obtain ⟨calls, hcalls, h⟩ := bind_eq_ok_iff.1 h
      obtain ⟨type, -, h⟩ := bind_eq_ok_iff.1 h
      cases h
      obtain ⟨part, hpart, hread⟩ := exists_mem_of_forall₂ (mapM_eq_ok_iff.1 hcalls) hcall
      have hparts : ((parts (· = '&') inner).map fun p ↦ weigh w p + w '&').sum =
          weigh w inner + w '&' :=
        weigh_parts (fun c hc ↦ congrArg w (of_decide_eq_true hc)) inner
      have hmem : weigh w part + w '&' ≤
          ((parts (· = '&') inner).map fun p ↦ weigh w p + w '&').sum :=
        List.le_sum_of_mem (List.mem_map_of_mem hpart)
      have hsum := congrArg (weigh w) hgs
      rw [eq_concat_of_dropLast? hinner] at hsum
      simp only [weigh_append, weigh_cons, weigh_nil] at hsum
      have hargs := weigh_arguments_le hw hread
      omega

theorem length_arguments_lt {t : String} {check : Check} (h : Check.read t = .ok check)
    {call : Call} (hcall : call ∈ check.calls) :
    (",".intercalate call.arguments).length < t.length := by
  have hlt := weigh_arguments_lt (w := fun _ ↦ 1) rfl Nat.one_pos h hcall
  rwa [weigh_one, weigh_one, String.length_toList, String.length_toList] at hlt

theorem utf8ByteSize_arguments_lt {t : String} {check : Check} (h : Check.read t = .ok check)
    {call : Call} (hcall : call ∈ check.calls) :
    (",".intercalate call.arguments).utf8ByteSize < t.utf8ByteSize := by
  rw [utf8ByteSize_eq_weigh, utf8ByteSize_eq_weigh]
  exact weigh_arguments_lt rfl (Char.utf8Size_pos _) h hcall

end Weight

end Rulebook
