import Rulebook.Catalog.Builtin
import Rulebook.Evaluation.Description
import Rulebook.Pattern.Matching
import Rulebook.Proofs.Evaluation.Chain
import Rulebook.Proofs.Rule.Closing
import Rulebook.Proofs.Equality

namespace Rulebook

/-- A line for each leaf of a chain, with its connective in front. -/
def Catalog.chainLines (catalog : Catalog) : List Leaf → List Connective → List String
  | [], _ => []
  | l :: ls, cs => describeLeaf catalog l ::
      List.zipWith (fun c l ↦ c.word ++ " " ++ describeLeaf catalog l) cs ls

def article (name : String) : String :=
  if name.toList.head?.any ['a', 'e', 'i', 'o', 'u'].contains then "An" else "A"

theorem genericDescription_eq (name : String) :
    genericDescription name = article name ++ " " ++ name := by
  have hAn : "An " ++ name = "An" ++ " " ++ name := congrArg (· ++ name) (by decide : "An " = _)
  have hA : "A " ++ name = "A" ++ " " ++ name := congrArg (· ++ name) (by decide : "A " = _)
  rw [genericDescription, article, hAn, hA]
  cases name.toList with
  | nil => rfl
  | cons c cs => exact (apply_ite (· ++ " " ++ name) _ "An" "A").symm

theorem describeLeaves_eq_map (catalog : Catalog) (ls : List Leaf) :
    describeLeaves catalog ls = ls.map (describeLeaf catalog) := by
  induction ls with
  | nil => rfl
  | cons l ls ih => rw [describeLeaves, ih, List.map_cons]

theorem toList_unbroken (s : String) :
    (unbroken s).toList = s.toList.map fun c ↦ if c = '\n' then ' ' else c :=
  String.toList_map

theorem newline_notMem_unbroken (s : String) : '\n' ∉ (unbroken s).toList := by
  rw [toList_unbroken, List.mem_map]
  rintro ⟨c, -, hc⟩
  split at hc
  · exact absurd hc (by decide)
  · contradiction

section Lines

variable {parts : List String} {added : List Nat} {k : Nat}

theorem joinedLines_next (c : Connective) (hk : k + 1 < parts.length)
    (h : ∀ i, i ∈ added ↔ i ≤ k) :
    joinedLines parts c added [k, k + 1] = ([c.word ++ " " ++ parts[k + 1]], (k + 1) :: added) := by
  have hmem : added.contains k = true := List.contains_iff_mem.2 ((h k).2 (Nat.le_refl k))
  have hnew : added.contains (k + 1) = false := by
    rw [← Bool.not_eq_true, List.contains_iff_mem, h]
    omega
  rw [joinedLines, hmem, List.getElem?_eq_getElem (Nat.lt_of_succ_lt hk)]
  simp only [joinedLines, hnew, List.getElem?_eq_getElem hk, Nat.add_one_ne_zero, if_false]

/-- The leaves up to `k` have their lines; each group that follows adds the line of one leaf. -/
theorem descriptionLines_groupsFrom {cs : List Connective} (hlen : parts.length = k + cs.length + 1)
    (h : ∀ i, i ∈ added ↔ i ≤ k) :
    descriptionLines parts added (groupsFrom k cs) =
      List.zipWith (fun c part ↦ c.word ++ " " ++ part) cs (parts.drop (k + 1)) := by
  induction cs generalizing added k with
  | nil => rfl
  | cons c cs ih =>
    rw [List.length_cons] at hlen
    have hk : k + 1 < parts.length := by omega
    rw [groupsFrom_cons, descriptionLines, joinedLines_next c hk h, List.drop_eq_getElem_cons hk,
      List.zipWith_cons_cons]
    exact congrArg (_ :: ·) (ih (by omega) (visitedAfter_next h))

theorem descriptionLines_groupsOf {part : String} {cs : List Connective}
    (hlen : parts.length = cs.length) :
    descriptionLines (part :: parts) [] (groupsOf cs) =
      part :: List.zipWith (fun c part ↦ c.word ++ " " ++ part) cs parts := by
  obtain _ | ⟨c, cs⟩ := cs
  · rfl
  obtain _ | ⟨part', parts⟩ := parts
  · cases hlen
  have hlen' : (part :: part' :: parts).length = 1 + cs.length + 1 := by
    rw [List.length_cons, List.length_cons, Nat.succ.inj hlen]
    omega
  have htail := descriptionLines_groupsFrom hlen' mem_visitedAfter_first
  rw [groupsOf_cons, descriptionLines]
  exact congrArg (part :: (c.word ++ " " ++ part') :: ·) htail

end Lines

theorem Catalog.describe_chain (catalog : Catalog) {ls : List Leaf} {cs : List Connective}
    (hlen : ls.length = cs.length + 1) (capture : Option Nat) :
    catalog.describe ⟨ls, groupsOf cs, capture⟩ =
      "\n".intercalate (catalog.chainLines ls cs) := by
  obtain _ | ⟨l, ls⟩ := ls
  · cases hlen
  rw [describe, describeLeaves_eq_map, List.map_cons,
    descriptionLines_groupsOf (by rw [List.length_map]; exact Nat.succ.inj hlen),
    List.zipWith_map_right]
  rfl

theorem Catalog.describeCheck_eq (catalog : Catalog) (t : String) :
    (∀ m, Check.read t = .error m → catalog.describeCheck t = t) ∧
    ∀ check, Check.read t = .ok check → catalog.describeCheck t =
      ((catalog.find? check.typeName).elim (article check.typeName ++ " " ++ check.typeName)
        RuleType.describe) ++
      if check.calls = [] then "" else
        " " ++ ", ".intercalate
          (check.calls.map (describeCall (catalog.find? check.typeName))) := by
  refine ⟨fun m hm ↦ by rw [describeCheck, hm], fun check hcheck ↦ ?_⟩
  simp only [describeCheck, hcheck, genericDescription_eq, List.isEmpty_iff]
  split
  · rw [String.append_empty]
  · rw [String.append_assoc]

/-- The description of any level of a rule that was read has one line for each leaf, in order. All
but the first begin with the connective that stands in front of the leaf in the canonical text. A
nested rule has its own description on one line. A check that cannot be read has its text; any other
has the description of its type, which a catalogue without the type replaces by article and name,
and those of its calls in order. -/
theorem describe_of_read {limits : Limits} {text : String} {r s : Rule}
    (h : Rule.read limits text = .ok r) (hs : s ∈ r.levels) (catalog : Catalog) :
    s.leaves.length = s.connectives.length + 1 ∧
    s.chars = chainText s.pieces s.connectives ∧
    catalog.describe s = "\n".intercalate (catalog.chainLines s.leaves s.connectives) ∧
    (∀ q, (describeLeaf catalog (.nested q)).toList =
        (catalog.describe q).toList.map (fun c ↦ if c = '\n' then ' ' else c) ∧
      '\n' ∉ (describeLeaf catalog (.nested q)).toList) ∧
    ∀ t, (∀ m, Check.read t = .error m → describeLeaf catalog (.check t) = t) ∧
      ∀ check, Check.read t = .ok check → describeLeaf catalog (.check t) =
        ((catalog.find? check.typeName).elim (article check.typeName ++ " " ++ check.typeName)
          RuleType.describe) ++
        if check.calls = [] then "" else
          " " ++ ", ".intercalate
            (check.calls.map (describeCall (catalog.find? check.typeName))) := by
  obtain ⟨-, hb, hr⟩ := read_eq_ok_iff.1 h
  have hlevel : s.CanonicalLevel := (readLevel_canonical hb hr).1 s hs
  obtain ⟨cs, hlen, hgroups, hchars⟩ := hlevel.chars_eq
  obtain ⟨ls, gs, capture⟩ := s
  obtain rfl : gs = groupsOf cs := hgroups
  have hcs : (Rule.mk ls (groupsOf cs) capture).connectives = cs := connectives_groupsOf cs
  have hleaves : ls.length = cs.length + 1 := (Rule.length_pieces _).symm.trans hlen
  rw [hcs]
  refine ⟨hleaves, hchars, catalog.describe_chain hleaves capture, fun q ↦ ?_, fun t ↦ ?_⟩
  · rw [describeLeaf]
    exact ⟨toList_unbroken _, newline_notMem_unbroken _⟩
  · rw [describeLeaf]
    exact catalog.describeCheck_eq t

theorem describe_of_read_nested :
    ∃ r, Rule.read {} "int[between(1,5)] || (bool && @str || opt) && ipv4[x & in(a,b)]" = .ok r ∧
      Catalog.builtin.describe r =
        "an integer between 1 and 5\nor a boolean and a string or An opt\n" ++
          "and An ipv4 x, in(a, b)" := by
  let q : Rule := ⟨[.check "bool", .check "str", .check "opt"],
    [.combine .and 0 1, .combine .or 1 2], some 1⟩
  let r : Rule := ⟨[.check "int[between(1,5)]", .nested q, .check "ipv4[x & in(a,b)]"],
    [.combine .or 0 1, .combine .and 1 2], none⟩
  have hread : Rule.read {} "int[between(1,5)] || (bool && @str || opt) && ipv4[x & in(a,b)]" =
      .ok r := by
    decide +kernel
  obtain ⟨-, -, hr, -, -⟩ := describe_of_read hread r.self_mem_levels .builtin
  refine ⟨r, hread, hr.trans ?_⟩
  decide +kernel

end Rulebook
