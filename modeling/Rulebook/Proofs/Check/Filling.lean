import Mathlib
import Rulebook.Check.Template
import Rulebook.Proofs.Decimal.Integers
import Rulebook.Proofs.Text.Searching
import Rulebook.Proofs.Equality

namespace Rulebook.Template

open Text Decimal

inductive Part
  | char (c : Char)
  | argument (n : Nat)
  | all
deriving DecidableEq

def Part.text : Part → List Char
  | .char c => [c]
  | .argument n => '%' :: (toString n).toList
  | .all => "%all".toList

/-- The placeholder that begins with a `%` in front of a text, and what follows it. A number takes
in all digits. -/
def placeholder? (cs : List Char) : Option (Part × List Char) :=
  match dropFront? "all".toList cs with
  | some rest => some (.all, rest)
  | none => (nat? (cs.takeWhile isDigit)).map fun n ↦ (.argument n, cs.dropWhile isDigit)

theorem length_of_placeholder? {cs rest : List Char} {p : Part}
    (h : placeholder? cs = some (p, rest)) : rest.length ≤ cs.length := by
  unfold placeholder? at h
  split at h
  · next hfront =>
    cases h
    rw [eq_append_of_dropFront? hfront, List.length_append]
    exact Nat.le_add_left _ _
  · obtain ⟨n, -, hn⟩ := Option.map_eq_some_iff.1 h
    cases hn
    exact (List.dropWhile_suffix _).length_le

def parts : List Char → List Part
  | [] => []
  | c :: cs =>
    match _h : (if c = '%' then placeholder? cs else none) with
    | some (p, rest) => p :: parts rest
    | none => .char c :: parts cs
termination_by cs => cs.length
decreasing_by
  · split at _h
    · exact Nat.lt_succ_of_le (length_of_placeholder? _h)
    · cases _h
  · exact Nat.lt_succ_self _

def argument (arguments : List String) (n : Nat) : List Char := ((arguments[n]?).getD "").toList

def Part.value (arguments : List String) : Part → List Char
  | .char c => [c]
  | .argument n => Template.argument arguments n
  | .all => (", ".intercalate arguments).toList

/-- A template with all of its placeholders replaced at once. -/
def substitute (arguments : List String) (template : String) : String :=
  String.ofList ((parts template.toList).flatMap (Part.value arguments))

/-- Every `%` begins a placeholder, and each number is that of one of `count` arguments. -/
def Complete (count : Nat) (template : List Char) : Prop :=
  ∀ cs, '%' :: cs <:+ template →
    "all".toList <+: cs ∨ ∃ n < count, cs.takeWhile isDigit = (toString n).toList

instance (count : Nat) (template : List Char) : Decidable (Complete count template) :=
  decidable_of_iff (∀ cs ∈ template.tails, cs.head? = some '%' →
      "all".toList <+: cs.tail ∨
        ∃ n < count, cs.tail.takeWhile isDigit = (toString n).toList)
    ⟨fun h cs hcs ↦ h _ ((List.mem_tails _ _).2 hcs) rfl, fun h cs hcs hhead ↦ by
      obtain ⟨ds, rfl⟩ := List.head?_eq_some_iff.1 hhead
      exact h ds ((List.mem_tails _ _).1 hcs)⟩

/-- A character on its way into a description. It is the template's own, or an argument brought
it. -/
structure Letter where
  char : Char
  own : Bool

/-- A part of a template in which the arguments from number `k` on are filled in. -/
def Part.letters (arguments : List String) (k : Nat) : Part → List Letter
  | .argument n =>
    if n < k then (Part.argument n).text.map (⟨·, true⟩)
    else (Template.argument arguments n).map (⟨·, false⟩)
  | p => p.text.map (⟨·, true⟩)

def letters (arguments : List String) (k : Nat) (ps : List Part) : List Letter :=
  ps.flatMap (Part.letters arguments k)

/-- Wherever a word occurs, it consists of the template's own characters. -/
def OccursOwn (word : List Char) (ls : List Letter) : Prop :=
  ∀ v, v <:+ ls → word <+: v.map Letter.char → ∀ l ∈ v.take word.length, l.own = true

instance (word : List Char) (ls : List Letter) : Decidable (OccursOwn word ls) :=
  decidable_of_iff (∀ v ∈ ls.tails, word <+: v.map Letter.char →
      ∀ l ∈ v.take word.length, l.own = true)
    ⟨fun h v hv ↦ h v ((List.mem_tails _ _).2 hv), fun h v hv ↦ h v ((List.mem_tails _ _).1 hv)⟩

/-- No step of filling in a template takes up a character that an argument brought. -/
structure Untouched (arguments : List String) (ps : List Part) : Prop where
  numbered : ∀ k < arguments.length,
    OccursOwn (Part.argument k).text (letters arguments (k + 1) ps)
  all : OccursOwn Part.all.text (letters arguments 0 ps)

instance (arguments : List String) (ps : List Part) : Decidable (Untouched arguments ps) :=
  decidable_of_iff ((∀ k < arguments.length,
      OccursOwn (Part.argument k).text (letters arguments (k + 1) ps)) ∧
        OccursOwn Part.all.text (letters arguments 0 ps))
    ⟨fun h ↦ ⟨h.1, h.2⟩, fun h ↦ ⟨h.numbered, h.all⟩⟩

/-- Texts put together from characters, placeholders for all arguments, and numbers that no digit
follows. -/
inductive Composed (count : Nat) : List Char → Prop
  | nil : Composed count []
  | char {c : Char} {cs : List Char} (hc : c ≠ '%') (h : Composed count cs) :
    Composed count (c :: cs)
  | all {cs : List Char} (h : Composed count cs) : Composed count (Part.all.text ++ cs)
  | argument {n : Nat} {cs : List Char} (hn : n < count) (hcs : ∀ c ∈ cs.head?, isDigit c = false)
    (h : Composed count cs) : Composed count ((Part.argument n).text ++ cs)

structure WellSpelt (count : Nat) (ps : List Part) : Prop where
  char_ne : Part.char '%' ∉ ps
  lt_count : ∀ n, .argument n ∈ ps → n < count
  digits_end : ∀ n qs, .argument n :: qs <:+ ps → ∀ c, .char c ∈ qs.head? → isDigit c = false

section Reading

variable {count : Nat} {cs : List Char}

theorem placeholder?_of_all {rest : List Char} :
    placeholder? ("all".toList ++ rest) = some (.all, rest) := by
  rw [placeholder?, dropFront?_append]

theorem placeholder?_of_digits {n : Nat} (h : cs.takeWhile isDigit = (toString n).toList) :
    placeholder? cs = some (.argument n, cs.dropWhile isDigit) := by
  have hnone : dropFront? "all".toList cs = none := by
    rw [dropFront?_eq_none_iff]
    rintro ⟨rest, rfl⟩
    rw [Nat.toString_eq_repr, Nat.toList_repr] at h
    exact Nat.toDigits_ne_nil h.symm
  rw [placeholder?, hnone, h, Nat.toString_eq_repr, Nat.toList_repr, nat?_toDigits]
  rfl

theorem Complete.of_suffix {cs' : List Char} (h : Complete count cs') (hcs : cs <:+ cs') :
    Complete count cs :=
  fun ds hds ↦ h ds (hds.trans hcs)

theorem Complete.composed (h : Complete count cs) : Composed count cs := by
  induction hlen : cs.length using Nat.strong_induction_on generalizing cs with
  | h len ih =>
    obtain _ | ⟨c, cs⟩ := cs
    · exact .nil
    subst hlen
    have hrest (ds : List Char) (hds : ds <:+ cs) : Composed count ds :=
      ih ds.length (Nat.lt_succ_of_le hds.length_le)
        (h.of_suffix (hds.trans (List.suffix_cons c cs))) rfl
    by_cases hc : c = '%'
    · subst hc
      obtain ⟨ds, rfl⟩ | ⟨n, hn, hdigits⟩ := h cs List.suffix_rfl
      · exact .all (hrest ds (List.suffix_append _ ds))
      · have hsplit := List.takeWhile_append_dropWhile (p := isDigit) (l := cs)
        rw [hdigits] at hsplit
        rw [← hsplit]
        refine .argument hn (fun d hd ↦ ?_) (hrest _ (List.dropWhile_suffix _))
        have hend := List.head?_dropWhile_not isDigit cs
        rwa [Option.mem_def.1 hd] at hend
    · exact .char hc (hrest cs List.suffix_rfl)

theorem parts_char {c : Char} (hc : c ≠ '%') : parts (c :: cs) = .char c :: parts cs := by
  rw [parts]
  split
  · next p rest h =>
    rw [if_neg hc] at h
    cases h
  · rfl

theorem parts_of_placeholder? {rest : List Char} {p : Part}
    (h : placeholder? cs = some (p, rest)) : parts ('%' :: cs) = p :: parts rest := by
  rw [parts]
  split
  · next p' rest' h' =>
    rw [if_pos rfl, h] at h'
    cases h'
    rfl
  · next h' =>
    rw [if_pos rfl, h] at h'
    cases h'

theorem parts_all : parts (Part.all.text ++ cs) = .all :: parts cs :=
  parts_of_placeholder? placeholder?_of_all

theorem parts_argument {n : Nat} (hcs : ∀ c ∈ cs.head?, isDigit c = false) :
    parts ((Part.argument n).text ++ cs) = .argument n :: parts cs := by
  have hdigits : ∀ d ∈ (toString n).toList, isDigit d = true := by
    intro d hd
    rw [Nat.toString_eq_repr, Nat.toList_repr] at hd
    exact isDigit_of_mem_toDigits hd
  have htake : ((toString n).toList ++ cs).takeWhile isDigit = (toString n).toList := by
    rw [List.takeWhile_append_of_pos hdigits]
    cases cs with
    | nil => simp
    | cons c cs => simp [hcs c rfl]
  have hdrop : ((toString n).toList ++ cs).dropWhile isDigit = cs := by
    rw [List.dropWhile_append_of_pos hdigits]
    cases cs with
    | nil => rfl
    | cons c cs => simp [hcs c rfl]
  have hread := placeholder?_of_digits htake
  rw [hdrop] at hread
  exact parts_of_placeholder? hread

theorem char_mem_head?_parts {c : Char} (h : Part.char c ∈ (parts cs).head?) : c ∈ cs.head? := by
  cases cs with
  | nil => simp [parts] at h
  | cons c' cs =>
    rw [parts] at h
    split at h
    · next p rest hp =>
      split at hp
      · obtain rfl : p = .char c := by simpa using h
        unfold placeholder? at hp
        split at hp
        · cases hp
        · obtain ⟨n, -, hn⟩ := Option.map_eq_some_iff.1 hp
          cases hn
      · cases hp
    · simpa using h

theorem WellSpelt.nil : WellSpelt count [] where
  char_ne := List.not_mem_nil
  lt_count _ h := absurd h List.not_mem_nil
  digits_end _ _ h := absurd (List.suffix_nil.1 h) (List.cons_ne_nil _ _)

theorem WellSpelt.cons {p : Part} {ps : List Part} (h : WellSpelt count ps) (hp : p ≠ .char '%')
    (hn : ∀ n, p = .argument n → n < count ∧ ∀ c, .char c ∈ ps.head? → isDigit c = false) :
    WellSpelt count (p :: ps) where
  char_ne := List.not_mem_cons_of_ne_of_not_mem hp.symm h.char_ne
  lt_count n hmem := by
    obtain rfl | hmem := List.mem_cons.1 hmem
    · exact (hn n rfl).1
    · exact h.lt_count n hmem
  digits_end n qs hqs := by
    obtain heq | hqs := List.suffix_cons_iff.1 hqs
    · cases heq
      exact (hn n rfl).2
    · exact h.digits_end n qs hqs

theorem Composed.wellSpelt_parts (h : Composed count cs) :
    WellSpelt count (parts cs) ∧ (parts cs).flatMap Part.text = cs := by
  induction h with
  | nil => exact ⟨by rw [parts]; exact .nil, by rw [parts]; rfl⟩
  | char hc _ ih =>
    obtain ⟨hps, htext⟩ := ih
    rw [parts_char hc, List.flatMap_cons, htext]
    refine ⟨hps.cons (fun heq ↦ hc (Part.char.inj heq)) fun n hn ↦ ?_, rfl⟩
    cases hn
  | all _ ih =>
    obtain ⟨hps, htext⟩ := ih
    rw [parts_all, List.flatMap_cons, htext]
    refine ⟨hps.cons (fun heq ↦ ?_) fun n hn ↦ ?_, rfl⟩
    · cases heq
    · cases hn
  | argument hn hcs _ ih =>
    obtain ⟨hps, htext⟩ := ih
    rw [parts_argument hcs, List.flatMap_cons, htext]
    refine ⟨hps.cons (fun heq ↦ ?_) fun m hm ↦ ?_, rfl⟩
    · cases heq
    · cases hm
      exact ⟨hn, fun c hc ↦ hcs c (char_mem_head?_parts hc)⟩

end Reading

section Stages

variable {arguments : List String} {count k : Nat} {ps qs : List Part} {q : Part} {v : List Letter}

theorem letters_cons (q : Part) (qs : List Part) :
    letters arguments k (q :: qs) = q.letters arguments k ++ letters arguments k qs :=
  List.flatMap_cons

theorem letters_suffix (h : qs <:+ ps) : letters arguments k qs <:+ letters arguments k ps := by
  obtain ⟨rs, rfl⟩ := h
  rw [letters, letters, List.flatMap_append]
  exact List.suffix_append _ _

theorem Part.letters_cases (arguments : List String) (k : Nat) (q : Part) :
    (q.letters arguments k = q.text.map (⟨·, true⟩) ∧ ∀ n, q = .argument n → n < k) ∨
      ∃ n, q = .argument n ∧ k ≤ n ∧
        q.letters arguments k = (Template.argument arguments n).map (⟨·, false⟩) := by
  cases q with
  | char c => exact .inl ⟨rfl, fun n hn ↦ by cases hn⟩
  | all => exact .inl ⟨rfl, fun n hn ↦ by cases hn⟩
  | argument n =>
    rw [letters]
    split
    · next hn => exact .inl ⟨rfl, fun m hm ↦ by cases hm; exact hn⟩
    · next hn => exact .inr ⟨n, rfl, Nat.le_of_not_lt hn, rfl⟩

theorem Part.text_of_suffix {cs : List Char} (h : '%' :: cs <:+ q.text) : q.text = '%' :: cs := by
  cases q with
  | char c =>
    obtain heq | hnil := List.suffix_cons_iff.1 h
    · exact heq.symm
    · exact absurd (List.suffix_nil.1 hnil) (List.cons_ne_nil _ _)
  | argument n =>
    obtain heq | hdigits := List.suffix_cons_iff.1 h
    · exact heq.symm
    · have hmem : '%' ∈ (toString n).toList := hdigits.mem List.mem_cons_self
      rw [Nat.toString_eq_repr, Nat.toList_repr] at hmem
      exact absurd (isDigit_of_mem_toDigits hmem) (by decide)
  | all =>
    obtain heq | hall := List.suffix_cons_iff.1 h
    · exact heq.symm
    · exact absurd (hall.mem List.mem_cons_self) (by decide)

theorem exists_toList_eq_argument {n : Nat} (h : argument arguments n ≠ []) :
    ∃ a ∈ arguments, a.toList = argument arguments n := by
  rw [argument] at h ⊢
  cases ha : arguments[n]? with
  | none =>
    rw [ha] at h
    exact absurd rfl h
  | some a => exact ⟨a, List.mem_of_getElem? ha, rfl⟩

theorem digit_behind_number (hps : WellSpelt count ps) {n : Nat} (h : .argument n :: qs <:+ ps)
    {d : Char} (hd : d ∈ ((letters arguments k qs).map Letter.char).head?)
    (hdigit : isDigit d = true) :
    (letters arguments k qs).head? = some ⟨d, false⟩ ∧ ∃ a ∈ arguments, d ∈ a.toList.head? := by
  induction qs generalizing n with
  | nil => cases hd
  | cons q qs ih =>
    rw [letters_cons] at hd ⊢
    obtain ⟨hq, -⟩ | ⟨m, rfl, -, hm⟩ := q.letters_cases arguments k
    · rw [hq] at hd
      cases q with
      | char c =>
        obtain rfl : c = d := Option.some.inj hd
        rw [hps.digits_end n _ h c rfl] at hdigit
        cases hdigit
      | argument m =>
        obtain rfl : '%' = d := Option.some.inj hd
        exact absurd hdigit (by decide)
      | all =>
        obtain rfl : '%' = d := Option.some.inj hd
        exact absurd hdigit (by decide)
    · rw [hm] at hd ⊢
      cases hcs : argument arguments m with
      | nil =>
        rw [hcs] at hd
        exact ih ((List.suffix_cons _ _).trans h) hd
      | cons c cs =>
        obtain ⟨a, ha, harg⟩ := exists_toList_eq_argument (hcs ▸ List.cons_ne_nil c cs)
        rw [hcs] at hd
        obtain rfl : c = d := Option.some.inj hd
        exact ⟨rfl, a, ha, by rw [harg, hcs]; rfl⟩

theorem text_of_prefix {word : List Char} (hq : q.letters arguments k = q.text.map (⟨·, true⟩))
    (hv : v <:+ q.letters arguments k) (hne : v ≠ [])
    (hword : '%' :: word <+: (v ++ letters arguments k qs).map Letter.char) :
    ∃ cs, q.text = '%' :: cs ∧ v = ('%' :: cs).map (⟨·, true⟩) ∧
      word <+: cs ++ (letters arguments k qs).map Letter.char := by
  rw [hq, List.suffix_map_iff] at hv
  obtain ⟨cs, hcs, rfl⟩ := hv
  obtain _ | ⟨c, cs⟩ := cs
  · contradiction
  rw [List.map_cons, List.cons_append, List.map_cons, List.cons_prefix_cons] at hword
  obtain ⟨rfl, hword⟩ := hword
  refine ⟨cs, Part.text_of_suffix hcs, rfl, ?_⟩
  simpa [Function.comp_def] using hword

/-- Where `%` and a number begin in the own text of a part, the part is the placeholder with this
number, or a smaller number that digits lengthen. Greater numbers have been filled in before. -/
theorem number_of_prefix (hps : WellSpelt count ps) (hq : q ∈ ps) {cs ds : List Char}
    (htext : q.text = '%' :: cs) (hle : ∀ n, q = .argument n → n ≤ k)
    (h : (toString k).toList <+: cs ++ ds) :
    q = .argument k ∨ ∃ n, q = .argument n ∧ cs.length < (toString k).toList.length ∧
      ∃ d ∈ ds.head?, isDigit d = true := by
  rw [Nat.toString_eq_repr, Nat.toList_repr] at h ⊢
  cases q with
  | char c =>
    cases htext
    exact absurd hq hps.char_ne
  | all =>
    cases htext
    obtain ⟨d, r, hd⟩ := List.exists_cons_of_ne_nil (Nat.toDigits_ne_nil (n := k) (b := 10))
    have hdigit : isDigit d = true := isDigit_of_mem_toDigits (n := k) (by simp [hd])
    rw [hd] at h
    obtain rfl : d = 'a' := (List.cons_prefix_cons.1 h).1
    exact absurd hdigit (by decide)
  | argument n =>
    obtain rfl : (toString n).toList = cs := (List.cons.inj htext).2
    rw [Nat.toString_eq_repr, Nat.toList_repr] at h ⊢
    obtain rfl | hlonger := prefix_toDigits_append h (hle n rfl)
    · exact .inl rfl
    · exact .inr ⟨n, rfl, hlonger⟩

theorem all_of_text (hps : WellSpelt count ps) (hq : q ∈ ps) {cs : List Char}
    (htext : q.text = '%' :: cs) (hlt : ∀ n, q ≠ .argument n) : q = .all := by
  cases q with
  | char c =>
    cases htext
    exact absurd hq hps.char_ne
  | all => rfl
  | argument n => exact absurd rfl (hlt n)

theorem OccursOwn.letters_eq {word : List Char} (h : OccursOwn word (letters arguments k ps))
    (hq : q :: qs <:+ ps) (hv : v <:+ q.letters arguments k) (hne : v ≠ []) (hpos : word ≠ [])
    (hword : word <+: (v ++ letters arguments k qs).map Letter.char) :
    (∀ l ∈ (v ++ letters arguments k qs).take word.length, l.own = true) ∧
      q.letters arguments k = q.text.map (⟨·, true⟩) ∧ ∀ n, q = .argument n → n < k := by
  have hsuffix : v ++ letters arguments k qs <:+ letters arguments k ps := by
    refine List.IsSuffix.trans ?_ (letters_suffix hq)
    rw [letters_cons]
    obtain ⟨u, hu⟩ := hv
    exact ⟨u, by rw [← List.append_assoc, hu]⟩
  have hown := h _ hsuffix hword
  refine ⟨hown, (q.letters_cases arguments k).resolve_right ?_⟩
  -- an argument has no characters of the template
  rintro ⟨n, -, -, hn⟩
  obtain ⟨l, v, rfl⟩ := List.exists_cons_of_ne_nil hne
  obtain ⟨c, word, rfl⟩ := List.exists_cons_of_ne_nil hpos
  obtain ⟨c', -, rfl⟩ := List.mem_map.1 (hn ▸ hv.mem List.mem_cons_self)
  cases hown _ List.mem_cons_self

theorem OccursOwn.not_prefix_argument (hps : WellSpelt count ps)
    (h : OccursOwn (Part.argument k).text (letters arguments (k + 1) ps)) (hq : q :: qs <:+ ps)
    (hqk : q ≠ .argument k) (hv : v <:+ q.letters arguments (k + 1)) (hne : v ≠ []) :
    ¬ (Part.argument k).text <+: (v ++ letters arguments (k + 1) qs).map Letter.char := by
  intro hword
  obtain ⟨hown, hletters, hlt⟩ := h.letters_eq hq hv hne (List.cons_ne_nil _ _) hword
  obtain ⟨cs, htext, rfl, hprefix⟩ := text_of_prefix hletters hv hne hword
  have hle : ∀ n, q = .argument n → n ≤ k := fun n hn ↦ Nat.le_of_lt_succ (hlt n hn)
  obtain hqk' | ⟨n, rfl, hlonger, d, hd, hdigit⟩ :=
    number_of_prefix hps (hq.mem List.mem_cons_self) htext hle hprefix
  · exact hqk hqk'
  -- an argument brought the digit that lengthens `n`
  obtain ⟨hhead, -⟩ := digit_behind_number hps hq hd hdigit
  obtain ⟨ls, hls⟩ := List.head?_eq_some_iff.1 hhead
  have hmem : Letter.mk d false ∈ (('%' :: cs).map (Letter.mk · true) ++
      letters arguments (k + 1) qs).take (Part.argument k).text.length := by
    have hlen : (('%' :: cs).map (Letter.mk · true)).length < (Part.argument k).text.length := by
      simpa [Part.text] using hlonger
    obtain ⟨i, hi⟩ := Nat.exists_eq_add_of_lt hlen
    rw [hls, hi, Nat.add_assoc, List.take_length_add_append]
    exact List.mem_append_right _ List.mem_cons_self
  cases hown _ hmem

theorem OccursOwn.not_prefix_all (hps : WellSpelt count ps)
    (h : OccursOwn Part.all.text (letters arguments 0 ps)) (hq : q :: qs <:+ ps) (hqa : q ≠ .all)
    (hv : v <:+ q.letters arguments 0) (hne : v ≠ []) :
    ¬ Part.all.text <+: (v ++ letters arguments 0 qs).map Letter.char := by
  intro hword
  obtain ⟨-, hletters, hlt⟩ := h.letters_eq hq hv hne (List.cons_ne_nil _ _) hword
  obtain ⟨cs, htext, -, -⟩ := text_of_prefix hletters hv hne hword
  exact hqa (all_of_text hps (hq.mem List.mem_cons_self) htext
    fun n hn ↦ Nat.not_lt_zero n (hlt n hn))

theorem exists_part_of_suffix (h : v <:+ letters arguments k ps) (hne : v ≠ []) :
    ∃ q qs w, q :: qs <:+ ps ∧ w <:+ q.letters arguments k ∧ w ≠ [] ∧
      v = w ++ letters arguments k qs := by
  induction ps with
  | nil => exact absurd (List.suffix_nil.1 h) hne
  | cons p ps ih =>
    have hrest (hv : v <:+ letters arguments k ps) : ∃ q qs w, q :: qs <:+ p :: ps ∧
        w <:+ q.letters arguments k ∧ w ≠ [] ∧ v = w ++ letters arguments k qs := by
      obtain ⟨q, qs, w, hq, hw⟩ := ih hv
      exact ⟨q, qs, w, hq.trans (List.suffix_cons p ps), hw⟩
    obtain ⟨u, hu⟩ := h
    rw [letters_cons] at hu
    obtain ⟨w, hw, rfl⟩ | ⟨w, -, hw⟩ := List.append_eq_append_iff.1 hu
    · by_cases hnil : w = []
      · exact hrest (by rw [hnil]; exact List.suffix_rfl)
      · exact ⟨p, ps, w, List.suffix_rfl, ⟨u, hw.symm⟩, hnil, rfl⟩
    · exact hrest ⟨w, hw.symm⟩

theorem exists_part_of_notMem (hpercent : ∀ a ∈ arguments, '%' ∉ a.toList) {word : List Char}
    (hv : v <:+ letters arguments k ps) (hword : '%' :: word <+: v.map Letter.char) :
    ∃ q qs cs, q :: qs <:+ ps ∧ q.text = '%' :: cs ∧ (∀ n, q = .argument n → n < k) ∧
      v = q.text.map (⟨·, true⟩) ++ letters arguments k qs ∧
      word <+: cs ++ (letters arguments k qs).map Letter.char := by
  have hne : v ≠ [] := by
    rintro rfl
    exact absurd (List.prefix_nil.1 hword) (List.cons_ne_nil _ _)
  obtain ⟨q, qs, w, hq, hw, hwne, rfl⟩ := exists_part_of_suffix hv hne
  have hargument (n : Nat) :
      q.letters arguments k ≠ (argument arguments n).map (Letter.mk · false) := by
    intro hn
    obtain ⟨l, w, rfl⟩ := List.exists_cons_of_ne_nil hwne
    obtain ⟨c, hc, rfl⟩ := List.mem_map.1 (hn ▸ hw.mem List.mem_cons_self)
    obtain rfl : '%' = c := (List.cons_prefix_cons.1 hword).1
    obtain ⟨a, ha, harg⟩ := exists_toList_eq_argument (List.ne_nil_of_mem hc)
    exact hpercent a ha (harg ▸ hc)
  obtain ⟨hletters, hlt⟩ | ⟨n, -, -, hn⟩ := q.letters_cases arguments k
  swap
  · exact absurd hn (hargument n)
  obtain ⟨cs, htext, rfl, hprefix⟩ := text_of_prefix hletters hw hwne hword
  exact ⟨q, qs, cs, hq, htext, hlt, by rw [htext], hprefix⟩

theorem own_of_mem_take {cs : List Char} {ls : List Letter} {l : Letter}
    (h : l ∈ (cs.map (Letter.mk · true) ++ ls).take cs.length) : l.own = true := by
  rw [List.take_left' (List.length_map _)] at h
  obtain ⟨c, -, rfl⟩ := List.mem_map.1 h
  rfl

theorem untouched_of_notMem (hps : WellSpelt arguments.length ps)
    (hpercent : ∀ a ∈ arguments, '%' ∉ a.toList)
    (hdigit : arguments.length ≤ 10 ∨ ∀ a ∈ arguments, ∀ c ∈ a.toList.head?, isDigit c = false) :
    Untouched arguments ps where
  numbered k hk v hv hword := by
    obtain ⟨q, qs, cs, hq, htext, hlt, rfl, hprefix⟩ := exists_part_of_notMem hpercent hv hword
    have hle : ∀ n, q = .argument n → n ≤ k := fun n hn ↦ Nat.le_of_lt_succ (hlt n hn)
    obtain rfl | ⟨n, rfl, hlonger, d, hd, hisDigit⟩ :=
      number_of_prefix hps (hq.mem List.mem_cons_self) htext hle hprefix
    · exact fun l ↦ own_of_mem_take
    · exfalso
      obtain hcount | hdigit := hdigit
      · rw [Nat.toString_eq_repr, Nat.toList_repr] at hlonger
        have hshort : (Nat.toDigits 10 k).length ≤ 1 :=
          (Nat.length_toDigits_le_iff (by decide) (by decide)).2 (by omega)
        obtain rfl : (toString n).toList = cs := (List.cons.inj htext).2
        rw [Nat.toString_eq_repr, Nat.toList_repr] at hlonger
        have hpos : 0 < (Nat.toDigits 10 n).length := List.length_pos_iff.2 Nat.toDigits_ne_nil
        omega
      · obtain ⟨-, a, ha, hda⟩ := digit_behind_number hps hq hd hisDigit
        rw [hdigit a ha d hda] at hisDigit
        cases hisDigit
  all v hv hword := by
    obtain ⟨q, qs, cs, hq, htext, hlt, rfl, -⟩ := exists_part_of_notMem hpercent hv hword
    obtain rfl := all_of_text hps (hq.mem List.mem_cons_self) htext
      fun n hn ↦ Nat.not_lt_zero n (hlt n hn)
    exact fun l ↦ own_of_mem_take

end Stages

def stage (arguments : List String) (k : Nat) (ps : List Part) : List Char :=
  (letters arguments k ps).map Letter.char

def Part.stage (arguments : List String) (k : Nat) (q : Part) : List Char :=
  (q.letters arguments k).map Letter.char

section Filling

variable {arguments : List String} {count k : Nat} {ps : List Part}

theorem stage_eq_flatMap : stage arguments k ps = ps.flatMap (Part.stage arguments k) :=
  List.map_flatMap

theorem Part.stage_argument (n : Nat) : (Part.argument n).stage arguments k =
    if n < k then (Part.argument n).text else Template.argument arguments n := by
  rw [stage, letters]
  split <;> simp [Function.comp_def]

theorem replace_stage {p : Part} {new : List Char} (hne : p.stage arguments k ≠ [])
    (h : ∀ q qs, q :: qs <:+ ps → q ≠ p → ∀ v, v <:+ q.letters arguments k → v ≠ [] →
      ¬ p.stage arguments k <+: (v ++ letters arguments k qs).map Letter.char) :
    replace (p.stage arguments k) new (stage arguments k ps) =
      ps.flatMap fun q ↦ if q = p then new else q.stage arguments k := by
  rw [stage_eq_flatMap]
  refine replace_flatMap new hne fun q qs hqs hq v hv hvq ↦ ?_
  obtain ⟨w, hw, rfl⟩ := List.suffix_map_iff.1 hvq
  rw [← stage_eq_flatMap, stage, ← List.map_append]
  exact h q qs hqs hq w hw fun hnil ↦ hv (by rw [hnil]; rfl)

/-- One step: the argument with the highest number that is left. -/
theorem replace_argument (hps : WellSpelt count ps)
    (h : OccursOwn (Part.argument k).text (letters arguments (k + 1) ps)) :
    replace (Part.argument k).text (argument arguments k) (stage arguments (k + 1) ps) =
      stage arguments k ps := by
  have htext : (Part.argument k).stage arguments (k + 1) = (Part.argument k).text := by
    rw [Part.stage_argument, if_pos (Nat.lt_succ_self k)]
  have hne : (Part.argument k).stage arguments (k + 1) ≠ [] := htext ▸ List.cons_ne_nil _ _
  rw [← htext, replace_stage hne fun q qs hqs hq v hv hv' ↦
    htext ▸ h.not_prefix_argument hps hqs hq hv hv', stage_eq_flatMap]
  refine List.flatMap_congr fun q _ ↦ ?_
  cases q with
  | char c => rfl
  | all => rfl
  | argument n =>
    rw [Part.stage_argument, Part.stage_argument]
    by_cases hn : n = k
    · rw [hn, if_pos rfl, if_neg (Nat.lt_irrefl k)]
    · have hiff : n < k + 1 ↔ n < k := by omega
      rw [if_neg (mt Part.argument.inj hn)]
      simp only [hiff]

theorem fillNumbered_stage (hps : WellSpelt count ps)
    (h : ∀ n < k, OccursOwn (Part.argument n).text (letters arguments (n + 1) ps)) :
    fillNumbered arguments (stage arguments k ps) k = stage arguments 0 ps := by
  induction k with
  | zero => rfl
  | succ k ih =>
    have hstep := replace_argument hps (h k (Nat.lt_succ_self k))
    rw [fillNumbered]
    refine (congrArg (fillNumbered arguments · k) hstep).trans ?_
    exact ih fun n hn ↦ h n (Nat.lt_succ_of_lt hn)

theorem replace_all (hps : WellSpelt count ps)
    (h : OccursOwn Part.all.text (letters arguments 0 ps)) :
    replace Part.all.text (", ".intercalate arguments).toList (stage arguments 0 ps) =
      ps.flatMap (Part.value arguments) := by
  have htext : Part.all.stage arguments 0 = Part.all.text := rfl
  have hne : Part.all.stage arguments 0 ≠ [] := htext ▸ List.cons_ne_nil _ _
  rw [← htext, replace_stage hne fun q qs hqs hq v hv hv' ↦
    h.not_prefix_all hps hqs hq hv hv']
  refine List.flatMap_congr fun q _ ↦ ?_
  cases q with
  | char c => rfl
  | all => rfl
  | argument n =>
    rw [if_neg (by simp), Part.stage_argument, if_neg (Nat.not_lt_zero n)]
    rfl

theorem stage_count (hps : WellSpelt arguments.length ps) :
    stage arguments arguments.length ps = ps.flatMap Part.text := by
  rw [stage_eq_flatMap]
  refine List.flatMap_congr fun q hq ↦ ?_
  cases q with
  | char c => rfl
  | all => rfl
  | argument n => rw [Part.stage_argument, if_pos (hps.lt_count n hq)]

end Filling

/-- Filling in a complete template replaces all placeholders at once, as long as no step takes up a
character that an argument brought. That is so at least if the arguments have no `%` in them, and no
argument begins with a digit or there are at most ten. -/
theorem fillTemplate_eq_substitute {template : String} {arguments : List String}
    (h : Complete arguments.length template.toList) :
    (Untouched arguments (parts template.toList) →
      fillTemplate template arguments = substitute arguments template) ∧
    ((∀ a ∈ arguments, '%' ∉ a.toList) →
      (arguments.length ≤ 10 ∨ ∀ a ∈ arguments, ∀ c ∈ a.toList.head?, isDigit c = false) →
      Untouched arguments (parts template.toList)) := by
  obtain ⟨hps, htext⟩ := h.composed.wellSpelt_parts
  refine ⟨fun hu ↦ ?_, untouched_of_notMem hps⟩
  have hstart : template.toList = stage arguments arguments.length (parts template.toList) := by
    rw [stage_count hps, htext]
  rw [fillTemplate, substitute, hstart, fillNumbered_stage hps hu.numbered, ← hstart]
  exact congrArg String.ofList (replace_all hps hu.all)

theorem fillTemplate_eq_substitute_percent :
    fillTemplate "%1 of %0, not %10" ["%1", "50%", "", "", "", "", "", "", "", "", "b"] =
      "50% of %1, not b" := by
  have hcomplete : Complete 11 "%1 of %0, not %10".toList := by decide +kernel
  have hparts : parts "%1 of %0, not %10".toList = [.argument 1, .char ' ', .char 'o', .char 'f',
      .char ' ', .argument 0, .char ',', .char ' ', .char 'n', .char 'o', .char 't', .char ' ',
      .argument 10] := by
    decide +kernel
  have hu : Untouched ["%1", "50%", "", "", "", "", "", "", "", "", "b"]
      (parts "%1 of %0, not %10".toList) := by
    rw [hparts]
    decide +kernel
  obtain ⟨hfill, -⟩ := @fillTemplate_eq_substitute "%1 of %0, not %10"
    ["%1", "50%", "", "", "", "", "", "", "", "", "b"] hcomplete
  rw [hfill hu]
  decide +kernel

/-- The `%0` of an argument is taken for a placeholder. -/
theorem not_forall_fillTemplate :
    ¬ ∀ (template : String) (arguments : List String),
      Complete arguments.length template.toList →
        fillTemplate template arguments = substitute arguments template := by
  intro h
  have hcomplete : Complete 2 "%0 and %1".toList := by decide +kernel
  have hfill : fillTemplate "%0 and %1" ["a", "%0"] = "a and a" := by decide +kernel
  have hsubstitute : substitute ["a", "%0"] "%0 and %1" = "a and %0" := by decide +kernel
  have heq := h "%0 and %1" ["a", "%0"] hcomplete
  rw [hfill, hsubstitute] at heq
  exact absurd heq (by decide)

end Rulebook.Template
