import Mathlib
import Rulebook.Catalog.Dict
import Rulebook.Proofs.Fields

namespace Rulebook.Dict

variable {cs head v w : List Char} {key : List Char} {done m : Fields}

theorem cutSeparator_eq_none_iff : cutSeparator cs = none ↔ ¬ ['=', '='] <:+: cs := by
  fun_induction cutSeparator cs with
  | case1 => simp
  | case2 a => simp [List.infix_cons_iff]
  | case3 a b r hab => simp [List.infix_cons_iff, hab]
  | case4 a b r hab ih =>
    have hfront : ¬ ['=', '='] <+: a :: b :: r := by
      simpa [eq_comm] using hab
    rw [Option.map_eq_none_iff, ih, List.infix_cons_iff (a := a), not_or]
    exact (and_iff_right hfront).symm

theorem cutSeparator_concat : cutSeparator (v ++ ['=']) = none ↔
    cutSeparator v = none ∧ v.getLast? ≠ some '=' := by
  fun_induction cutSeparator v with
  | case1 => simp [cutSeparator]
  | case2 a => simp [cutSeparator]
  | case3 a b r hab => simp [cutSeparator, hab]
  | case4 a b r hab ih =>
    rw [List.cons_append, List.cons_append, cutSeparator, if_neg hab, Option.map_eq_none_iff,
      ← List.cons_append, ih, Option.map_eq_none_iff, List.getLast?_cons_cons]

theorem cutSeparator_append_cons {c : Char} (hc : c ≠ '=') :
    cutSeparator (v ++ c :: w) = none ↔ cutSeparator v = none ∧ cutSeparator w = none := by
  fun_induction cutSeparator v with
  | case1 => cases w <;> simp [cutSeparator, hc]
  | case2 a => cases w <;> simp [cutSeparator, hc]
  | case3 a b r hab => simp [cutSeparator, hab]
  | case4 a b r hab ih =>
    rw [List.cons_append, List.cons_append, cutSeparator, if_neg hab, Option.map_eq_none_iff,
      ← List.cons_append, ih, Option.map_eq_none_iff]

theorem cutSeparator_append (h : cutSeparator (v ++ ['=']) = none) (w : List Char) :
    cutSeparator (v ++ '=' :: '=' :: w) = some (v, w) := by
  fun_induction cutSeparator v with
  | case1 => rfl
  | case2 a =>
    have ha : a ≠ '=' := by simpa [cutSeparator] using h
    simp [cutSeparator, ha]
  | case3 a b r hab => simp [cutSeparator, hab] at h
  | case4 a b r hab ih =>
    rw [List.cons_append, List.cons_append, cutSeparator, if_neg hab, Option.map_eq_none_iff] at h
    rw [List.cons_append, List.cons_append, cutSeparator, if_neg hab, ← List.cons_append, ih h]
    rfl

theorem of_cutSeparator_eq_some (h : cutSeparator cs = some (v, w)) :
    cs = v ++ '=' :: '=' :: w ∧ cutSeparator (v ++ ['=']) = none := by
  fun_induction cutSeparator cs generalizing v with
  | case1 => cases h
  | case2 => cases h
  | case3 a b r hab =>
    cases h
    simp [cutSeparator, hab]
  | case4 a b r hab ih =>
    obtain ⟨⟨before, after⟩, hcut, heq⟩ := Option.map_eq_some_iff.1 h
    cases heq
    obtain ⟨hr, hbefore⟩ := ih hcut
    refine ⟨by rw [hr]; rfl, ?_⟩
    cases before with
    | nil =>
      have hb : b = '=' := (List.cons.inj hr).1
      have ha : a ≠ '=' := fun ha ↦ hab ⟨ha, hb⟩
      simp [cutSeparator, ha]
    | cons c before =>
      have hc : b = c := (List.cons.inj hr).1
      rw [← hc] at hbefore ⊢
      rw [List.cons_append, List.cons_append, cutSeparator, if_neg hab, Option.map_eq_none_iff]
      exact hbefore

theorem span_of_not_mem (h : ' ' ∉ cs) : cs.span (· ≠ ' ') = (cs, []) := by
  have hall : ∀ c ∈ cs, decide (c ≠ ' ') = true := fun c hc ↦ by
    simpa using ne_of_mem_of_not_mem hc h
  rw [List.span_eq_takeWhile_dropWhile, List.takeWhile_eq_self_iff.2 hall,
    List.dropWhile_eq_nil_iff.2 hall]

theorem span_append_space (h : ' ' ∉ cs) (rest : List Char) :
    (cs ++ ' ' :: rest).span (· ≠ ' ') = (cs, ' ' :: rest) := by
  have hall : ∀ c ∈ cs, decide (c ≠ ' ') = true := fun c hc ↦ by
    simpa using ne_of_mem_of_not_mem hc h
  rw [List.span_eq_takeWhile_dropWhile, List.takeWhile_append_of_pos hall,
    List.dropWhile_append_of_pos hall]
  simp

theorem splitKey_of_not_mem (h : ' ' ∉ key.dropLast) : splitKey key = (none, key) := by
  obtain rfl | ⟨front, last, rfl⟩ := List.eq_nil_or_concat' key
  · rfl
  · rw [List.dropLast_concat, ← List.mem_reverse] at h
    rw [splitKey, List.reverse_concat]
    simp only [span_of_not_mem h]

theorem splitKey_append (hne : key ≠ []) (h : ' ' ∉ key.dropLast) (v : List Char) :
    splitKey (v ++ ' ' :: key) = (some v, key) := by
  obtain rfl | ⟨front, last, rfl⟩ := List.eq_nil_or_concat' key
  · exact absurd rfl hne
  · have hreverse : (v ++ ' ' :: (front ++ [last])).reverse =
        last :: (front.reverse ++ ' ' :: v.reverse) := by
      simp
    rw [List.dropLast_concat, ← List.mem_reverse] at h
    rw [splitKey, hreverse]
    simp only [span_append_space h, List.reverse_reverse, List.reverse_cons]

theorem splitKey_cases (head : List Char) :
    ' ' ∉ head.dropLast ∧ splitKey head = (none, head) ∨
    ∃ v key, head = v ++ ' ' :: key ∧ key ≠ [] ∧ ' ' ∉ key.dropLast ∧
      splitKey head = (some v, key) := by
  obtain rfl | ⟨front, last, rfl⟩ := List.eq_nil_or_concat' head
  · exact .inl ⟨List.not_mem_nil, rfl⟩
  · by_cases h : ' ' ∈ front
    · obtain ⟨r, l, hr, hl⟩ := List.eq_append_cons_of_mem (List.mem_reverse.2 h)
      have hfront : front ++ [last] = l.reverse ++ ' ' :: (r.reverse ++ [last]) := by
        rw [← List.reverse_reverse front, hr]
        simp
      have hne : r.reverse ++ [last] ≠ [] := List.concat_ne_nil _ _
      have hkey : ' ' ∉ (r.reverse ++ [last]).dropLast := by
        simpa using hl
      rw [hfront]
      exact .inr ⟨_, _, rfl, hne, hkey, splitKey_append hne hkey _⟩
    · have hdrop : ' ' ∉ (front ++ [last]).dropLast := by
        rwa [List.dropLast_concat]
      exact .inl ⟨hdrop, splitKey_of_not_mem hdrop⟩

theorem splitKey_ne_nil (h : head ≠ []) : (splitKey head).2 ≠ [] := by
  obtain ⟨-, hsplit⟩ | ⟨v, key, -, hkey, -, hsplit⟩ := splitKey_cases head
  · rwa [hsplit]
  · rwa [hsplit]

/-- A key as reading finds it: a space can only be its last character, and no separator begins in it
or at its end. -/
def IsKey (key : List Char) : Prop := ' ' ∉ key.dropLast ∧ cutSeparator (key ++ ['=']) = none

theorem splitKey_isKey (h : cutSeparator (head ++ ['=']) = none) :
    IsKey (splitKey head).2 ∧ cutSeparator ((splitKey head).1.getD []) = none := by
  obtain ⟨hspace, hsplit⟩ | ⟨v, key, rfl, -, hspace, hsplit⟩ := splitKey_cases head
  · rw [hsplit]
    exact ⟨⟨hspace, h⟩, rfl⟩
  · rw [List.append_assoc, List.cons_append, cutSeparator_append_cons (by decide)] at h
    rw [hsplit]
    exact ⟨⟨hspace, h.2⟩, h.1⟩

def IsEntry (entry : String × Value) : Prop :=
  IsKey entry.1.toList ∧ ∃ s : String, entry.2 = .string s ∧ cutSeparator s.toList = none

theorem entriesFrom_of_none (h : cutSeparator cs = none) (done : Fields) (key : List Char) :
    entriesFrom done (some key) cs = .ok (insertText key cs done) := by
  rw [entriesFrom]
  split
  · rfl
  · next hcut => simp [h] at hcut

theorem entriesFrom_of_cut (h : cutSeparator cs = some (head, w)) (done : Fields)
    (key : List Char) :
    entriesFrom done (some key) cs =
      entriesFrom (insertText key ((splitKey head).1.getD []) done) (some (splitKey head).2) w := by
  rw [entriesFrom]
  split
  · next hcut => simp [h] at hcut
  · next hcut =>
    cases h.symm.trans hcut
    split <;> simp_all

theorem read_of_cut {text : String} (h : cutSeparator text.toList = some (head, w))
    (hsplit : splitKey head = (none, key)) : read text = entriesFrom [] (some key) w := by
  rw [read, entriesFrom]
  split
  · next hcut => simp [h] at hcut
  · next hcut =>
    cases h.symm.trans hcut
    rw [hsplit]

structure Legible (m : Fields) : Prop where
  ne_nil : m ≠ []
  nodup : m.keys.Nodup
  entries : ∀ entry ∈ m, IsEntry entry

theorem IsEntry.of_parts (hkey : IsKey key) (hv : cutSeparator v = none) :
    IsEntry (String.ofList key, .string (String.ofList v)) :=
  ⟨by rwa [String.toList_ofList], _, rfl, by rwa [String.toList_ofList]⟩

theorem legible_insertText (hdone : ∀ entry ∈ done, IsEntry entry) (hnodup : done.keys.Nodup)
    (hkey : IsKey key) (hv : cutSeparator v = none) : Legible (insertText key v done) where
  ne_nil := Fields.insert_ne_nil _ _ _
  nodup := Fields.nodup_keys_insert hnodup _ _
  entries entry hentry := by
    obtain rfl | hentry := Fields.mem_of_mem_insert hentry
    · exact .of_parts hkey hv
    · exact hdone entry hentry

theorem legible_of_entriesFrom {o : Option (List Char)}
    (hdone : ∀ entry ∈ done, IsEntry entry) (hnodup : done.keys.Nodup) (ho : ∀ key ∈ o, IsKey key)
    (h : entriesFrom done o cs = .ok m) : Legible m := by
  fun_induction entriesFrom done o cs with
  | case1 done o cs hcut =>
    cases o with
    | none => cases h
    | some key =>
      cases h
      exact legible_insertText hdone hnodup (ho key rfl) hcut
  | case2 => cases h
  | case3 done cs head after hcut next hsplit ih =>
    obtain ⟨hnext, -⟩ := splitKey_isKey (of_cutSeparator_eq_some hcut).2
    rw [hsplit] at hnext
    exact ih hdone hnodup (by simpa using hnext) h
  | case4 done cs head after hcut v next key hsplit ih =>
    obtain ⟨hnext, hv⟩ := splitKey_isKey (of_cutSeparator_eq_some hcut).2
    rw [hsplit] at hnext hv
    have hinsert := legible_insertText hdone hnodup (ho key rfl) hv
    exact ih hinsert.entries hinsert.nodup (by simpa using hnext) h

theorem legible_of_read {text : String} (h : read text = .ok m) : Legible m :=
  legible_of_entriesFrom (List.forall_mem_nil _) List.nodup_nil (by simp) h

def tailText (m : Fields) : List Char :=
  m.flatMap fun (k, v) ↦ ' ' :: (k.toList ++ '=' :: '=' :: v.display.toList)

theorem toList_write_cons (k : String) (v : Value) (m : Fields) :
    (write ((k, v) :: m)).toList =
      k.toList ++ '=' :: '=' :: (v.display.toList ++ tailText m) := by
  induction m generalizing k v with
  | nil => simp [write, tailText]
  | cons entry m ih =>
    obtain ⟨k', v'⟩ := entry
    have hwrite : write ((k, v) :: (k', v') :: m) =
        k ++ "==" ++ v.display ++ " " ++ write ((k', v') :: m) := by
      simp only [write, List.map_cons, String.intercalate_cons_cons]
    rw [hwrite, String.toList_append, ih]
    simp [tailText]

theorem entriesFrom_tailText_cons {k : String} {s : String} (hv : cutSeparator v = none)
    (hk : IsKey k.toList) (done : Fields) (key : List Char) (m : Fields) :
    entriesFrom done (some key) (v ++ tailText ((k, .string s) :: m)) =
      entriesFrom (insertText key ((splitKey (v ++ ' ' :: k.toList)).1.getD []) done)
        (some (splitKey (v ++ ' ' :: k.toList)).2) (s.toList ++ tailText m) := by
  have hhead : cutSeparator (v ++ ' ' :: k.toList ++ ['=']) = none := by
    rw [List.append_assoc, List.cons_append]
    exact (cutSeparator_append_cons (by decide)).2 ⟨hv, hk.2⟩
  have htext : v ++ tailText ((k, .string s) :: m) =
      v ++ ' ' :: k.toList ++ '=' :: '=' :: (s.toList ++ tailText m) := by
    simp [tailText, Value.display]
  rw [htext]
  exact entriesFrom_of_cut (cutSeparator_append hhead _) done key

theorem entriesFrom_tailText {s : String} (hs : cutSeparator s.toList = none)
    (hm : ∀ entry ∈ m, IsEntry entry) (hne : "" ∉ m.keys) {k : String}
    (hnodup : (done.keys ++ k :: m.keys).Nodup) :
    entriesFrom done (some k.toList) (s.toList ++ tailText m) =
      .ok (done ++ (k, .string s) :: m) := by
  induction m generalizing done k s with
  | nil =>
    obtain ⟨hinsert, -⟩ := Fields.insert_of_nodup hnodup (.string s)
    rw [tailText, List.flatMap_nil, List.append_nil, entriesFrom_of_none hs, insertText]
    simp [hinsert]
  | cons entry m ih =>
    obtain ⟨k', v'⟩ := entry
    obtain ⟨⟨hk', s', rfl, hs'⟩, htail⟩ := List.forall_mem_cons.1 hm
    obtain ⟨hk, hne⟩ := not_or.1 (List.mem_cons.not.1 hne)
    have hnil : k'.toList ≠ [] := by
      intro h
      exact hk (String.toList_inj.1 h.symm)
    obtain ⟨hinsert, hrest⟩ := Fields.insert_of_nodup hnodup (.string s)
    rw [entriesFrom_tailText_cons hs hk', splitKey_append hnil hk'.1]
    simp only [Option.getD_some, insertText, String.ofList_toList, hinsert]
    rw [ih hs' htail hne hrest]
    simp

theorem not_mem_tail_insertText (h : "" ∉ (done.keys ++ [String.ofList key]).tail)
    (v : List Char) : "" ∉ (insertText key v done).keys.tail := by
  by_cases hkey : String.ofList key ∈ done.keys
  · have hne : done.keys ≠ [] := List.ne_nil_of_mem hkey
    rw [List.tail_append_of_ne_nil hne, List.mem_append, not_or] at h
    rw [insertText, Fields.keys_insert_of_mem hkey]
    exact h.1
  · rwa [insertText, Fields.keys_insert_of_not_mem hkey]

theorem entriesFrom_tailText_keys (hv : cutSeparator v = none)
    (hm : ∀ entry ∈ m, IsEntry entry) (hkey : "" ∉ (done.keys ++ [String.ofList key]).tail) :
    ∃ m', entriesFrom done (some key) (v ++ tailText m) = .ok m' ∧ "" ∉ m'.keys.tail := by
  induction m generalizing done key v with
  | nil =>
    rw [tailText, List.flatMap_nil, List.append_nil, entriesFrom_of_none hv]
    exact ⟨_, rfl, not_mem_tail_insertText hkey v⟩
  | cons entry m ih =>
    obtain ⟨k, v'⟩ := entry
    obtain ⟨⟨hk, s, rfl, hs⟩, htail⟩ := List.forall_mem_cons.1 hm
    rw [entriesFrom_tailText_cons hv hk]
    refine ih hs htail ?_
    -- an empty key would take the space in front of it along
    have hhead : v ++ ' ' :: k.toList ≠ [] := by simp
    generalize hsplit : splitKey (v ++ ' ' :: k.toList) = split
    have hnext : split.2 ≠ [] := hsplit ▸ splitKey_ne_nil hhead
    have hkeys : (insertText key (split.1.getD []) done).keys ≠ [] :=
      fun h ↦ Fields.insert_ne_nil _ _ _ (List.map_eq_nil_iff.1 h)
    rw [List.tail_append_of_ne_nil hkeys, List.mem_append, not_or]
    refine ⟨not_mem_tail_insertText hkey _, ?_⟩
    intro h
    exact hnext (String.ofList_eq_empty_iff.1 (List.mem_singleton.1 h).symm)

theorem Legible.read_write (h : Legible m) :
    ∃ m', read (write m) = .ok m' ∧ (m' = m ↔ "" ∉ m.keys.tail) := by
  obtain ⟨⟨k, v⟩, m, rfl⟩ := List.exists_cons_of_ne_nil h.ne_nil
  obtain ⟨⟨hk, s, rfl, hs⟩, htail⟩ := List.forall_mem_cons.1 h.entries
  have hcut : cutSeparator (write ((k, .string s) :: m)).toList =
      some (k.toList, s.toList ++ tailText m) := by
    rw [toList_write_cons]
    exact cutSeparator_append hk.2 _
  rw [read_of_cut hcut (splitKey_of_not_mem hk.1)]
  have hfirst : "" ∉ (Fields.keys [] ++ [String.ofList k.toList]).tail := List.not_mem_nil
  obtain ⟨m', hread, hm'⟩ := entriesFrom_tailText_keys hs htail hfirst
  refine ⟨m', hread, ?_, fun hne ↦ ?_⟩
  · intro heq
    rwa [heq] at hm'
  · have hnodup : (Fields.keys [] ++ k :: Fields.keys m).Nodup := h.nodup
    have hwhole := entriesFrom_tailText hs htail hne hnodup
    exact Except.ok.inj (hread.symm.trans hwhole)

/-- A map with at least one entry, whose keys are words and whose values have no separator, is read
back from its text entry by entry. -/
theorem convert_format_of_words (entries : List (String × String)) (hne : entries ≠ [])
    (hnodup : (entries.map Prod.fst).Nodup)
    (hkeys : ∀ k ∈ entries.map Prod.fst, k ≠ "" ∧ ' ' ∉ k.toList ∧ ¬ ['=', '='] <:+: k.toList ∧
      k.toList.getLast? ≠ some '=')
    (hvalues : ∀ v ∈ entries.map Prod.snd, ¬ ['=', '='] <:+: v.toList) (scope : Scope) :
    convert scope (format (.object (entries.map fun (k, v) ↦ (k, .string v)))) =
      .pure (.object (entries.map fun (k, v) ↦ (k, .string v))) := by
  have hfst : Fields.keys (entries.map fun (k, v) ↦ (k, Value.string v)) =
      entries.map Prod.fst := by
    rw [Fields.keys, List.map_map]
    rfl
  have hlegible : Legible (entries.map fun (k, v) ↦ (k, .string v)) := by
    refine ⟨List.map_eq_nil_iff.not.2 hne, hfst ▸ hnodup, fun entry hentry ↦ ?_⟩
    obtain ⟨⟨k, v⟩, hmem, rfl⟩ := List.mem_map.1 hentry
    obtain ⟨-, hspace, hseparator, hlast⟩ := hkeys k (List.mem_map_of_mem hmem)
    have hkey := cutSeparator_concat.2 ⟨cutSeparator_eq_none_iff.2 hseparator, hlast⟩
    have hv := cutSeparator_eq_none_iff.2 (hvalues v (List.mem_map_of_mem hmem))
    exact ⟨⟨fun h ↦ hspace (List.mem_of_mem_dropLast h), hkey⟩, v, rfl, hv⟩
  obtain ⟨m', hread, hiff⟩ := hlegible.read_write
  have hnonempty : "" ∉ entries.map Prod.fst := fun h ↦ (hkeys "" h).1 rfl
  rw [hfst] at hiff
  obtain rfl := hiff.2 fun h ↦ hnonempty (List.mem_of_mem_tail h)
  rw [convert, format, hread]

theorem convert_format_of_words_spaced :
    format (.object [("a", .string ""), ("=b", .string " = "), ("c=d", .string "=x=")]) =
      "a== =b== =  c=d===x=" ∧
    convert ⟨[], fun _ _ ↦ .pure (.valid .null)⟩
      (format (.object [("a", .string ""), ("=b", .string " = "), ("c=d", .string "=x=")])) =
        .pure (.object [("a", .string ""), ("=b", .string " = "), ("c=d", .string "=x=")]) :=
  ⟨by cbv, convert_format_of_words [("a", ""), ("=b", " = "), ("c=d", "=x=")]
    (by decide) (by decide) (by decide) (by decide) _⟩

end Rulebook.Dict
