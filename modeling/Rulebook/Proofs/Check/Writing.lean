import Rulebook.Proofs.Check.Arguments
import Rulebook.Proofs.Check.Names
import Rulebook.Proofs.Results
import Rulebook.Proofs.Rule.Shape

namespace Rulebook

open Text

def bracketed (b : Bracket) (name inner : List Char) : List Char :=
  name ++ b.opening :: (inner ++ [b.closing])

section Bracketed

variable {b : Bracket} {name inner : List Char} (hname : Name name)

include hname

theorem trim_bracketed : trim (bracketed b name inner) = bracketed b name inner := by
  obtain ⟨c, name, rfl⟩ := List.exists_cons_of_ne_nil hname.nonempty
  have hc := (trim_eq_self_iff.1 hname.trimmed).1 c rfl
  have hclosing : isBlank b.closing = false := by cases b <;> rfl
  have h := trim_eq_self_of_ends hc hclosing (name ++ b.opening :: inner)
  simpa [bracketed] using h

variable (hinner : ¬ Dangles inner)

include hinner

theorem glyphs_bracketed : glyphs (bracketed b name inner) =
    name.map .plain ++ .plain b.opening :: (glyphs inner ++ [.plain b.closing]) := by
  rw [bracketed, glyphs_quiet_append hname.quiet, glyphs_opening, glyphs_append hinner,
    glyphs_closing, glyphs_nil]

theorem cutAt_bracketed : cutAt b.opening (glyphs (bracketed b name inner)) =
    some (name.map .plain, glyphs inner ++ [.plain b.closing]) := by
  have hopening : isReserved b.opening = true := by cases b <;> rfl
  rw [glyphs_bracketed hname hinner]
  exact hname.cutAt_append hopening _

variable (hb : Balanced (glyphs inner))

include hb

theorem balanced_bracketed : Balanced (glyphs (bracketed b name inner)) := by
  rw [glyphs_bracketed hname hinner, Balanced, openBrackets_quiet hname.quiet]
  exact hb.bracket b

theorem checkText_bracketed : CheckText (bracketed b name inner) where
  nonempty := by simp [bracketed]
  trimmed := trim_bracketed hname
  balanced := checkBalance_eq_ok_iff.2 (balanced_bracketed hname hinner hb)
  single := by
    rw [hasConnective_eq_false_iff, glyphs_bracketed hname hinner]
    exact hname.cutAtConnective_append (cutAtConnective_bracket hb b)
  bare := by
    rintro ⟨m, -, hm⟩
    obtain ⟨c, name, rfl⟩ := List.exists_cons_of_ne_nil hname.nonempty
    rw [glyphs_bracketed hname hinner] at hm
    have hc : c = '(' := Glyph.plain.inj (List.cons.inj hm).1
    exact hname.not_mem (c := '(') rfl (hc ▸ List.mem_cons_self)

end Bracketed

theorem dropLast?_glyphs (c : Char) (cs : List Char) :
    dropLast? c (chars (glyphs cs ++ [.plain c])) = some cs := by
  rw [chars_append, chars_glyphs]
  exact dropLast?_concat c cs

section Reading

variable {name inner : List Char} (hname : Name name) (hinner : ¬ Dangles inner)

include hname hinner

theorem Check.read_bracketed {t : String} (ht : t.toList = bracketed .square name inner) :
    Check.read t = (do
      let calls ← (parts (· = '&') inner).mapM Call.read
      .ok ⟨lower (String.ofList name), calls⟩) := by
  have hcut : cutAt '[' (glyphs (bracketed .square name inner)) =
      some (name.map .plain, glyphs inner ++ [.plain ']']) :=
    cutAt_bracketed (b := .square) hname hinner
  have hdrop := dropLast?_glyphs ']' inner
  have htype : readTypeName (chars (name.map .plain)) = .ok (lower (String.ofList name)) := by
    rw [readTypeName, chars_quiet hname.quiet, hname.trimmed]
    simp [hname.nonempty]
  rw [Check.read, ht, trim_bracketed hname]
  simp only [hcut, hdrop, htype]
  rfl

theorem Call.read_bracketed : Call.read (bracketed .round name inner) =
    .ok ⟨lower (String.ofList name), argumentsOf inner⟩ := by
  have hcut : cutAt '(' (glyphs (bracketed .round name inner)) =
      some (name.map .plain, glyphs inner ++ [.plain ')']) :=
    cutAt_bracketed (b := .round) hname hinner
  have hdrop := dropLast?_glyphs ')' inner
  have hne : (bracketed .round name inner).isEmpty = false := by simp [bracketed]
  rw [Call.read, trim_bracketed hname]
  simp only [hcut, hdrop, hne, chars_quiet hname.quiet, hname.trimmed]
  rfl

end Reading

/-- A call that can stand beside others: all of its brackets are closed, it does not escape what
follows, and no `&` is outside its brackets. -/
structure CallText (cs : List Char) : Prop where
  balanced : Balanced (glyphs cs)
  complete : ¬ Dangles cs
  inside : ∀ a b, glyphs cs = a ++ .plain '&' :: b → a.foldl depthAfter 0 ≠ 0

theorem eq_append_of_not_mem {α : Type} {w m a r : List α} {c : α} (hc : c ∉ w)
    (h : w ++ m = a ++ c :: r) : ∃ a', a = w ++ a' ∧ m = a' ++ c :: r := by
  obtain ⟨a', rfl, hm⟩ | ⟨d, rfl, hd⟩ := List.append_eq_append_iff.1 h
  · exact ⟨a', rfl, hm⟩
  · cases d with
    | nil => exact ⟨[], by simp, hd.symm⟩
    | cons _ d =>
      obtain ⟨rfl, -⟩ := List.cons.inj hd
      exact absurd (List.mem_append_right a List.mem_cons_self) hc

theorem CallText.of_not_mem {cs : List Char} (hb : Balanced (glyphs cs)) (hcs : ¬ Dangles cs)
    (h : '&' ∉ cs) : CallText cs where
  balanced := hb
  complete := hcs
  inside a b hgs := by
    have hchars := congrArg chars hgs
    rw [chars_glyphs, chars_append, chars_cons] at hchars
    exact absurd (by rw [hchars]; simp [Glyph.chars]) h

theorem callText_bracketed {b : Bracket} {name inner : List Char} (hname : Name name)
    (hinner : ¬ Dangles inner) (hb : Balanced (glyphs inner)) :
    CallText (bracketed b name inner) where
  balanced := balanced_bracketed hname hinner hb
  complete := by
    have hend := not_dangles_concat (closing_ne_backslash b) (name ++ b.opening :: inner)
    simpa [bracketed] using hend
  inside a r hgs := by
    have hopening : '&' ≠ b.opening := by cases b <;> decide
    have hopen : depthAfter 0 (.plain b.opening) = 1 := by cases b <;> rfl
    have hword : (name.map Glyph.plain).foldl depthAfter 0 = 0 := by
      rw [← glyphs_quiet hname.quiet]
      exact depth_openBrackets (balanced_quiet hname.quiet)
    have hmem : .plain '&' ∉ name.map Glyph.plain ++ [.plain b.opening] := by
      simpa [hopening] using hname.not_mem rfl
    rw [glyphs_bracketed hname hinner, ← List.singleton_append, ← List.append_assoc] at hgs
    obtain ⟨m, rfl, hm⟩ := eq_append_of_not_mem hmem hgs
    rw [List.foldl_append, List.foldl_concat, hword, hopen]
    obtain rfl | ⟨c, hc⟩ := List.prefix_concat_iff.1 (⟨_, hm.symm⟩ : m <+: _)
    · have hlen := congrArg List.length hm
      simp at hlen
    · exact foldl_depthAfter_ne_zero hb hc.symm

def joined (css : List (List Char)) : List Char := [' ', '&', ' '].intercalate css

theorem joined_cons_cons (cs cs' : List Char) (css : List (List Char)) :
    joined (cs :: cs' :: css) = cs ++ ' ' :: '&' :: ' ' :: joined (cs' :: css) := by
  simp [joined, List.intercalate_cons_cons]

section Calls

variable {css : List (List Char)} (h : ∀ cs ∈ css, CallText cs)

include h

theorem not_dangles_joined : ¬ Dangles (joined css) := by
  induction css with
  | nil => exact not_dangles_nil
  | cons cs css ih =>
    obtain ⟨hcs, hcss⟩ := List.forall_mem_cons.1 h
    cases css with
    | nil => simpa [joined] using hcs.complete
    | cons cs' css =>
      rw [joined_cons_cons, dangles_append_cons (by decide), dangles_plain (by decide),
        dangles_plain (by decide)]
      exact ih hcss

theorem balanced_joined : Balanced (glyphs (joined css)) := by
  induction css with
  | nil => rfl
  | cons cs css ih =>
    obtain ⟨hcs, hcss⟩ := List.forall_mem_cons.1 h
    cases css with
    | nil => simpa [joined] using hcs.balanced
    | cons cs' css =>
      rw [joined_cons_cons, glyphs_append hcs.complete, Balanced, openBrackets_append,
        hcs.balanced, glyphs_plain (by decide), glyphs_plain (by decide), glyphs_plain (by decide)]
      exact ih hcss

theorem partsFrom_joined {cs : List Char} (hcs : CallText cs) : ∃ first rest,
    partsFrom (· = '&') 0 (glyphs (joined (cs :: css))) = (first, rest) ∧
      List.Forall₂ (fun part text ↦ trim (chars part) = trim text) (first :: rest) (cs :: css) := by
  have hwhole {cs : List Char} (hcs : CallText cs) {b : List Glyph}
      (hb : b.head? ≠ some (.plain '&')) : partsFrom (· = '&') 0 (glyphs cs ++ b) =
        extendFirst (glyphs cs) (partsFrom (· = '&') 0 b) := by
    have hdepth : (glyphs cs).foldl depthAfter 0 = 0 := depth_openBrackets hcs.balanced
    rw [partsFrom_append (fun a c r hm hd ↦ ?_) fun _ ↦ hb, hdepth]
    refine decide_eq_false fun hc ↦ hcs.inside a r ?_ hd
    rw [hm, hc]
  induction css generalizing cs with
  | nil =>
    refine ⟨glyphs cs, [], ?_, .cons (by rw [chars_glyphs]) .nil⟩
    have hcall := hwhole hcs (b := []) nofun
    rw [List.append_nil] at hcall
    rw [joined, List.intercalate_singleton, hcall]
    simp [partsFrom, extendFirst]
  | cons cs' css ih =>
    obtain ⟨hcs', hcss⟩ := List.forall_mem_cons.1 h
    obtain ⟨first, rest, hparts, hall⟩ := ih hcss hcs'
    cases hall with
    | cons hfirst hrest =>
      refine ⟨glyphs cs ++ [.plain ' '], (.plain ' ' :: first) :: rest, ?_, ?_⟩
      · have hspace (gs : List Glyph) : partsFrom (· = '&') 0 (.plain ' ' :: gs) =
            extendFirst [.plain ' '] (partsFrom (· = '&') 0 gs) :=
          partsFrom_next (by simp) (by simp)
        rw [joined_cons_cons, glyphs_append hcs.complete, glyphs_plain (by decide),
          glyphs_plain (by decide), glyphs_plain (by decide), hwhole hcs (by simp), hspace,
          partsFrom_split (by simp) rfl, hspace, hparts, extendFirst_extendFirst]
        simp [extendFirst]
      · refine .cons ?_ (.cons ?_ hrest)
        · rw [chars_append, chars_glyphs]
          exact trim_concat (by decide) cs
        · rw [← hfirst]
          exact trim_append_left isBlank_of_mem_space (chars first)

end Calls

theorem Call.read_congr {a b : List Char} (h : trim a = trim b) : Call.read a = Call.read b := by
  rw [Call.read, Call.read, h]

def checkOf (type : String) (calls : List String) : String :=
  type ++ "[" ++ " & ".intercalate calls ++ "]"

section CheckOf

theorem toList_checkOf (type : String) (calls : List String) : (checkOf type calls).toList =
    bracketed .square type.toList (joined (calls.map String.toList)) := by
  simp [checkOf, bracketed, Bracket.opening, Bracket.closing, joined, String.toList_intercalate]

variable {type : String} {calls : List String} (hname : Name type.toList)

include hname

theorem head?_checkOf : (checkOf type calls).toList.head? = type.toList.head? := by
  obtain ⟨c, name, hc⟩ := List.exists_cons_of_ne_nil hname.nonempty
  rw [toList_checkOf, bracketed, hc]
  rfl

variable (h : ∀ call ∈ calls, CallText call.toList)

include h

theorem checkText_checkOf : CheckText (checkOf type calls).toList := by
  have hcalls : ∀ cs ∈ calls.map String.toList, CallText cs := List.forall_mem_map.2 h
  rw [toList_checkOf]
  exact checkText_bracketed hname (not_dangles_joined hcalls) (balanced_joined hcalls)

theorem Check.read_checkOf (hne : calls ≠ []) : Check.read (checkOf type calls) = (do
    let cs ← calls.mapM fun call ↦ Call.read call.toList
    .ok ⟨lower type, cs⟩) := by
  have hcalls : ∀ cs ∈ calls.map String.toList, CallText cs := List.forall_mem_map.2 h
  obtain ⟨call, calls, rfl⟩ := List.exists_cons_of_ne_nil hne
  rw [List.map_cons, List.forall_mem_cons] at hcalls
  obtain ⟨first, rest, hparts, hall⟩ := partsFrom_joined hcalls.2 hcalls.1
  have hread : (parts (· = '&') (joined ((call :: calls).map String.toList))).mapM Call.read =
      (call :: calls).mapM fun call ↦ Call.read call.toList := by
    rw [parts, List.map_cons, hparts]
    refine mapM_congr_of_forall₂ ?_
    rw [List.forall₂_map_left_iff]
    rw [← List.map_cons, List.forall₂_map_right_iff] at hall
    exact hall.imp fun _ _ htrim ↦ Call.read_congr htrim
  rw [read_bracketed hname (not_dangles_joined (List.forall_mem_map.2 h)) (toList_checkOf ..),
    hread, String.ofList_toList]

end CheckOf

theorem head?_checkOf_ne {type : String} {calls : List String} (h : Word type.toList) :
    (checkOf type calls).toList.head? ≠ some '@' := by
  rw [head?_checkOf h.toName]
  exact h.head?_ne rfl

def escaped (s : String) : String := String.ofList (escape s.toList)

def callWith (name : String) (arguments : List String) : String :=
  name ++ "(" ++ ",".intercalate arguments ++ ")"

theorem toList_callWith (name : String) (arguments : List String) :
    (callWith name (arguments.map escaped)).toList =
      bracketed .round name.toList (written (arguments.map String.toList)) := by
  have hescaped : (arguments.map escaped).map String.toList =
      (arguments.map String.toList).map escape := by
    simp [escaped, Function.comp_def]
  simp only [callWith, bracketed, Bracket.opening, Bracket.closing, written, listed,
    ← hescaped, String.toList_append, String.toList_intercalate]
  simp

section CallWith

variable {name : String} (hname : Name name.toList) {arguments : List String}

include hname

theorem callText_callWith_escaped (arguments : List String) :
    CallText (callWith name (arguments.map escaped)).toList := by
  rw [toList_callWith]
  exact callText_bracketed hname (not_dangles_written _) (balanced_written _)

theorem Call.read_callWith_escaped (h : ∀ a ∈ arguments, trim a.toList = a.toList)
    (hblank : arguments ≠ [""]) :
    Call.read (callWith name (arguments.map escaped)).toList = .ok ⟨lower name, arguments⟩ := by
  have htrim : ∀ cs ∈ arguments.map String.toList, trim cs = cs := List.forall_mem_map.2 h
  have hne : arguments.map String.toList ≠ [[]] := by
    intro hnil
    refine hblank (List.map_injective_iff.2 (fun _ _ ↦ String.toList_inj.1) ?_)
    exact hnil
  rw [toList_callWith, read_bracketed hname (not_dangles_written _), argumentsOf_written htrim hne,
    String.ofList_toList]
  simp

end CallWith

/-- An argument that is read as it is written. -/
structure ArgumentText (cs : List Char) : Prop where
  nonempty : cs ≠ []
  trimmed : trim cs = cs
  quiet : ∀ c ∈ cs, isQuiet c = true
  whole : ∀ c ∈ cs, separatesArguments c = false

theorem ArgumentText.escape_eq {cs : List Char} (h : ArgumentText cs) : escape cs = cs := by
  have hspecial : [',', '&', '(', ')', '[', ']', '\\'].all
      (fun c ↦ separatesArguments c || !isQuiet c) = true := rfl
  have hplain : ∀ c ∈ cs, (if isSpecial c then ['\\', c] else [c]) = [c] := by
    intro c hc
    rw [if_neg]
    intro hmem
    have hsep := List.all_eq_true.1 hspecial c (List.contains_iff_mem.1 hmem)
    rw [h.whole c hc, h.quiet c hc] at hsep
    cases hsep
  exact (List.flatMap_congr hplain).trans (List.flatMap_singleton' cs)

section ArgumentTexts

variable {name : String} {arguments : List String} (hname : Name name.toList)
  (h : ∀ a ∈ arguments, ArgumentText a.toList)

include h

theorem map_escaped : arguments.map escaped = arguments := by
  refine (List.map_congr_left fun a ha ↦ ?_).trans (List.map_id' arguments)
  rw [escaped, (h a ha).escape_eq, String.ofList_toList]

include hname

theorem callText_callWith : CallText (callWith name arguments).toList := by
  rw [← map_escaped h]
  exact callText_callWith_escaped hname arguments

theorem Call.read_callWith :
    Call.read (callWith name arguments).toList = .ok ⟨lower name, arguments⟩ := by
  have hblank : arguments ≠ [""] := by
    rintro rfl
    exact (h "" List.mem_cons_self).nonempty rfl
  have hread := read_callWith_escaped hname (fun a ha ↦ (h a ha).trimmed) hblank
  rwa [map_escaped h] at hread

end ArgumentTexts

theorem argumentText_toString (n : Int) : ArgumentText (toString n).toList where
  nonempty := by
    intro hnil
    have hread := Decimal.int?_toString n
    rw [hnil] at hread
    cases hread
  trimmed := Decimal.trim_toString n
  quiet c hc := by
    obtain rfl | hc := Decimal.mem_toString hc
    · rfl
    · exact isQuiet_of rfl hc
  whole c hc := by
    obtain rfl | hc := Decimal.mem_toString hc
    · rfl
    · rw [← Bool.not_eq_true]
      intro hsep
      simp only [separatesArguments, Bool.or_eq_true, decide_eq_true_eq] at hsep
      obtain rfl | rfl := hsep <;> cases hc

end Rulebook
