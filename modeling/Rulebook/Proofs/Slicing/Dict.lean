import Rulebook.Proofs.Catalog.DictText
import Rulebook.Proofs.Slicing.Check

namespace Rulebook

open Text Dict

def findSeparator : List Char → Option Nat
  | [] => none
  | [_] => none
  | a :: b :: r =>
    if a = '=' ∧ b = '=' then some 0 else (findSeparator (b :: r)).map (a.utf8Size + ·)

def findLastSpace : List Char → Option Nat
  | [] => none
  | c :: r =>
    match findLastSpace r with
    | some i => some (c.utf8Size + i)
    | none => if c = ' ' then some 0 else none

def lastOffset (cs : List Char) : Nat := size cs.dropLast

theorem findSeparator_eq (cs : List Char) :
    findSeparator cs = (cutSeparator cs).map fun (head, _) ↦ size head := by
  fun_induction cutSeparator cs with
  | case1 => rfl
  | case2 => rfl
  | case3 a b r hab => rw [findSeparator, if_pos hab]; rfl
  | case4 a b r hab ih =>
    rw [findSeparator, if_neg hab, ih]
    simp only [Option.map_map, Function.comp_def, size_cons]

theorem findLastSpace_eq_none {cs : List Char} (h : ' ' ∉ cs) : findLastSpace cs = none := by
  induction cs with
  | nil => rfl
  | cons c r ih =>
    rw [List.mem_cons, not_or] at h
    rw [findLastSpace, ih h.2]
    exact if_neg fun hc ↦ h.1 hc.symm

theorem findLastSpace_append {cs : List Char} (h : ' ' ∉ cs) (v : List Char) :
    findLastSpace (v ++ ' ' :: cs) = some (size v) := by
  induction v with
  | nil =>
    rw [List.nil_append, findLastSpace, findLastSpace_eq_none h]
    rfl
  | cons c v ih =>
    rw [List.cons_append, findLastSpace, ih, size_cons]

/-- The entries once what stands in front of a key is stored as the value of the one before. -/
def store (entries : Fields) : Option (List Char) → Option (List Char) → Except Reason Fields
  | some _, none => .error .unkeyedText
  | none, none => .ok entries
  | value, some key => .ok (insertText key (value.getD []) entries)

theorem entriesFrom_uncut {text : List Char} (h : cutSeparator text = none) (entries : Fields)
    (key : Option (List Char)) :
    entriesFrom entries key text =
      key.elim (.error .noSeparator) fun k ↦ .ok (insertText k text entries) := by
  rw [entriesFrom]
  split
  · rfl
  · rename_i h'
    cases h.symm.trans h'

theorem entriesFrom_cut {text head rest : List Char} (h : cutSeparator text = some (head, rest))
    (entries : Fields) (key : Option (List Char)) :
    entriesFrom entries key text = (do
      let entries ← store entries (splitKey head).1 key
      entriesFrom entries (some (splitKey head).2) rest) := by
  rw [entriesFrom]
  split
  · rename_i h'
    cases h.symm.trans h'
  · rename_i h'
    cases h.symm.trans h'
    obtain ⟨value, next⟩ := splitKey head
    cases value <;> cases key <;> rfl

namespace Sliced

def storeValue (entries : Fields) (text : List Char) :
    Option Nat → Option (List Char) → Guarded Reason Fields
  | some _, none => throw .unkeyedText
  | some space, some key => do
    let value ← slice text 0 space
    return insertText key value.val entries
  | none, some key => return insertText key [] entries
  | none, none => return entries

def entriesFrom (entries : Fields) (key : Option (List Char)) (text : List Char) :
    Guarded Reason Fields :=
  match _h : findSeparator text with
  | none => match key with
    | none => throw .noSeparator
    | some key => return insertText key text entries
  | some index => do
    let head ← slice text 0 index
    let front ← slice head.val 0 (lastOffset head.val)
    let space := findLastSpace front.val
    let entries ← storeValue entries text space key
    let next ← slice text (space.elim 0 (· + 1)) index
    let rest ← slice text (index + 2) (size text)
    entriesFrom entries (some next.val) rest.val
termination_by size text
decreasing_by
  have _hrest := rest.property
  have hpos : 0 < size text := size_pos fun h ↦ by rw [h] at _h; cases _h
  omega

def readDict (text : String) : Guarded Reason Fields := entriesFrom [] none text.toList

theorem findLastSpace_splitKey (head : List Char) :
    findLastSpace head.dropLast = none ∧ splitKey head = (none, head) ∨
    ∃ v next, head = v ++ [' '] ++ next ∧ findLastSpace head.dropLast = some (size v) ∧
      splitKey head = (some v, next) := by
  obtain ⟨h, hsplit⟩ | ⟨v, next, rfl, hne, h, hsplit⟩ := splitKey_cases head
  · exact .inl ⟨findLastSpace_eq_none h, hsplit⟩
  · refine .inr ⟨v, next, by simp, ?_, hsplit⟩
    rw [List.dropLast_append_of_ne_nil (List.cons_ne_nil _ _), List.dropLast_cons_of_ne_nil hne]
    exact findLastSpace_append h v

theorem entriesFrom_yields (entries : Fields) (key : Option (List Char)) (text : List Char) :
    Yields (entriesFrom entries key text) (Dict.entriesFrom entries key text) := by
  induction hn : text.length using Nat.strong_induction_on generalizing entries key text with
  | _ n ih =>
    rw [entriesFrom.eq_def]
    split
    · rename_i hfind
      have hcut : cutSeparator text = none := by
        rw [findSeparator_eq] at hfind
        exact Option.map_eq_none_iff.1 hfind
      rw [entriesFrom_uncut hcut]
      cases key with
      | none => exact Yields.throw _
      | some key => exact Yields.pure _
    · rename_i index hfind
      rw [findSeparator_eq] at hfind
      obtain ⟨⟨head, rest⟩, hcut, rfl⟩ := Option.map_eq_some_iff.1 hfind
      obtain ⟨htext, -⟩ := of_cutSeparator_eq_some hcut
      obtain ⟨last, hlast⟩ := List.dropLast_prefix head
      have hlen : rest.length < n := by rw [← hn, htext, List.length_append]; simp; omega
      have hback : slice text (size head + 2) (size text) = .ok ⟨rest, _⟩ :=
        slice_back (a := head ++ ['=', '=']) (by rw [htext]; simp) (by rw [size_append]; rfl)
      rw [entriesFrom_cut hcut]
      refine Yields.lift_bind (slice_front htext) ?_
      refine Yields.lift_bind (slice_front hlast.symm) ?_
      dsimp only
      obtain ⟨hspace, hsplit⟩ | ⟨v, next, rfl, hspace, hsplit⟩ := findLastSpace_splitKey head
      · rw [hspace, hsplit]
        have hstore : Yields (storeValue entries text none key) (store entries none key) := by
          cases key <;> exact Yields.pure _
        exact hstore.bind fun entries _ ↦ Yields.lift_bind (slice_front htext)
          (Yields.lift_bind hback (ih rest.length hlen _ _ rest rfl))
      · rw [hspace, hsplit]
        have hstore : Yields (storeValue entries text (some (size v)) key)
            (store entries (some v) key) := by
          cases key with
          | none => exact Yields.throw _
          | some key =>
            have hfront : text = v ++ (' ' :: next ++ '=' :: '=' :: rest) := by rw [htext]; simp
            exact Yields.lift_bind (slice_front hfront) (Yields.pure _)
        refine hstore.bind fun entries _ ↦ ?_
        refine Yields.lift_bind (slice_eq (a := v ++ [' ']) (b := next) htext
          (by rw [size_append]; rfl) (by simp only [size_append]; rfl)) ?_
        exact Yields.lift_bind hback (ih rest.length hlen _ _ rest rfl)

theorem readDict_yields (text : String) : Yields (readDict text) (Dict.read text) :=
  entriesFrom_yields [] none text.toList

end Sliced

/-- No text makes the readers take a slice whose start is after its end, or that ends past the text
or begins or ends inside a character: these are the slices that are not there, and reading by slices
always comes to what reading by characters comes to. -/
theorem reading_slices (limits : Limits) (text : String) :
    (∀ cs start stop, (∃ piece, slice cs start stop = .ok piece) ↔ start ≤ stop ∧
      (⟨start⟩ : String.Pos.Raw).IsValid (String.ofList cs) ∧
      (⟨stop⟩ : String.Pos.Raw).IsValid (String.ofList cs)) ∧
    (Sliced.readRule limits text).run = .ok (Rule.read limits text) ∧
    (Sliced.readCheck text).run = .ok (Check.read text) ∧
    (Sliced.readDict text).run = .ok (Dict.read text) :=
  ⟨fun _ _ _ ↦ exists_slice_iff, Sliced.readRule_yields limits text,
    Sliced.readCheck_yields text, Sliced.readDict_yields text⟩

end Rulebook
