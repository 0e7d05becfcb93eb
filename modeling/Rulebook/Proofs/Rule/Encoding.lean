import Rulebook.Rule.Encoding
import Rulebook.Proofs.Fields
import Rulebook.Proofs.Rule.Levels

namespace Rulebook

theorem index?_integer (i : Nat) : index? (.integer i) = some i := by
  rw [index?, if_pos (Int.natCast_nonneg i), Int.toNat_natCast]

theorem Connective.ofWord?_word (c : Connective) : ofWord? c.word = some c := by
  cases c <;> rfl

theorem Group.ofValue?_toValue (g : Group) : ofValue? g.toValue = some g := by
  cases g with
  | solo i =>
    show (index? (.integer i)).map solo = some (.solo i)
    rw [index?_integer]
    rfl
  | combine c i j =>
    show combine? (.string c.word) (.array [.integer i, .integer j]) = some (.combine c i j)
    rw [combine?, Connective.ofValue?, Connective.ofWord?_word, leafPair?, index?_integer,
      index?_integer]
    rfl

theorem mapM_groupValues (gs : List Group) :
    (gs.map Group.toValue).mapM Group.ofValue? = some gs := by
  induction gs with
  | nil => rfl
  | cons g gs ih =>
    rw [List.map_cons, List.mapM_cons, Group.ofValue?_toValue, ih]
    rfl

theorem captureOfValue?_captureValue (capture : Option Nat) :
    captureOfValue? (captureValue capture) = some capture := by
  cases capture with
  | none => rfl
  | some i =>
    show (index? (.integer i)).map some = some (some i)
    rw [index?_integer]
    rfl

theorem leavesField?_eq (fs : Fields) :
    leavesField? fs = (fs.get? "leaves").bind leavesOfValue? := by
  induction fs with
  | nil => rfl
  | cons field fs ih =>
    obtain ⟨k, v⟩ := field
    rw [leavesField?, Fields.get?, List.lookup_cons]
    by_cases hk : k = "leaves"
    · rw [if_pos hk, hk]
      rfl
    · rw [if_neg hk, ih, beq_false_of_ne (Ne.symm hk)]
      rfl

/-- Fields that hold a rule: in any order, with others among them, and a null capture there or
not. -/
structure RuleFields (leaves groups : Value) (capture : Option Nat) (fs : Fields) : Prop where
  nodup : fs.keys.Nodup
  leaves : ("leaves", leaves) ∈ fs
  groups : ("groups", groups) ∈ fs
  capture : ("capture", captureValue capture) ∈ fs ∨ capture = none ∧ "capture" ∉ fs.keys

theorem RuleFields.captureField?_eq {leaves groups : Value} {capture : Option Nat} {fs : Fields}
    (h : RuleFields leaves groups capture fs) : captureField? fs = some capture := by
  obtain hmem | ⟨rfl, habsent⟩ := h.capture
  · rw [captureField?, Fields.get?_of_mem h.nodup hmem]
    exact captureOfValue?_captureValue capture
  · rw [captureField?, Fields.get?_of_not_mem habsent]
    rfl

mutual

/-- The value writes the rule down: each level of the rule is an object that holds its fields, or
the array of them by position. -/
inductive Rule.WrittenAs : Rule → Value → Prop
  | object {leaves : List Leaf} {groups : List Group} {capture : Option Nat} {vs : List Value}
      {fs : Fields} (hleaves : List.Forall₂ Leaf.WrittenAs leaves vs)
      (hfields : RuleFields (.array vs) (.array (groups.map Group.toValue)) capture fs) :
      Rule.WrittenAs ⟨leaves, groups, capture⟩ (.object fs)
  | positional {leaves : List Leaf} {groups : List Group} {capture : Option Nat} {vs : List Value}
      (hleaves : List.Forall₂ Leaf.WrittenAs leaves vs) :
      Rule.WrittenAs ⟨leaves, groups, capture⟩
        (.array [.array vs, .array (groups.map Group.toValue), captureValue capture])

inductive Leaf.WrittenAs : Leaf → Value → Prop
  | check (t : String) : Leaf.WrittenAs (.check t) (.object [("check", .string t)])
  | nested {r : Rule} {v : Value} (h : r.WrittenAs v) :
      Leaf.WrittenAs (.nested r) (.object [("nested", v)])

end

theorem Leaf.ofValue?_of_writtenAs {l : Leaf} {v : Value} (h : l.WrittenAs v)
    (ih : ∀ t, l = .nested t → ∀ w, t.WrittenAs w → Rule.ofValue? w = some t) :
    ofValue? v = some l := by
  cases h with
  | check t =>
    rw [ofValue?]
    rfl
  | nested hr =>
    rw [ofValue?, if_neg (by decide), if_pos rfl, ih _ rfl _ hr]
    rfl

theorem leavesOf?_of_writtenAs {ls : List Leaf} {vs : List Value}
    (h : List.Forall₂ Leaf.WrittenAs ls vs)
    (ih : ∀ t, .nested t ∈ ls → ∀ w, t.WrittenAs w → Rule.ofValue? w = some t) :
    leavesOf? vs = some ls := by
  induction h with
  | nil => rw [leavesOf?]
  | cons hl _ ihs =>
    have hfirst := Leaf.ofValue?_of_writtenAs hl fun t ht ↦ ih t (ht ▸ List.mem_cons_self)
    have hrest := ihs fun t ht ↦ ih t (List.mem_cons_of_mem _ ht)
    rw [leavesOf?, hfirst, hrest]
    rfl

theorem groupsOfValue?_groupValues (gs : List Group) :
    groupsOfValue? (.array (gs.map Group.toValue)) = some gs := mapM_groupValues gs

theorem Rule.ofValue?_of_writtenAs {r : Rule} {v : Value} (h : r.WrittenAs v) :
    ofValue? v = some r := by
  induction r using rule_induction generalizing v with
  | step r ih =>
    cases h with
    | object hleaves hfields =>
      rw [ofValue?, leavesField?_eq, Fields.get?_of_mem hfields.nodup hfields.leaves,
        Fields.get?_of_mem hfields.nodup hfields.groups, hfields.captureField?_eq,
        Option.bind_some, Option.bind_some, leavesOfValue?,
        leavesOf?_of_writtenAs hleaves fun t ht w ↦ ih t ht, groupsOfValue?_groupValues]
      rfl
    | positional hleaves =>
      rw [ofValue?, captureOfValue?_captureValue, leavesOfValue?,
        leavesOf?_of_writtenAs hleaves fun t ht w ↦ ih t ht, groupsOfValue?_groupValues]
      rfl

theorem leafValues_eq_map (ls : List Leaf) : leafValues ls = ls.map Leaf.toValue := by
  induction ls with
  | nil => rw [leafValues, List.map_nil]
  | cons l ls ih => rw [leafValues, List.map_cons, ih]

theorem Rule.writtenAs_toValue (r : Rule) : r.WrittenAs r.toValue := by
  induction r using rule_induction with
  | step r ih =>
    obtain ⟨leaves, groups, capture⟩ := r
    have hleaves : List.Forall₂ Leaf.WrittenAs leaves (leafValues leaves) := by
      rw [leafValues_eq_map, List.forall₂_map_right_iff, List.forall₂_same]
      intro l hl
      cases l with
      | check t =>
        rw [Leaf.toValue]
        exact .check t
      | nested t =>
        rw [Leaf.toValue]
        exact .nested (ih t hl)
    rw [toValue]
    exact .object hleaves
      ⟨by simp [Fields.keys], by simp, by simp, .inl (by simp)⟩

theorem Rule.ofValue?_toValue (r : Rule) : ofValue? r.toValue = some r :=
  ofValue?_of_writtenAs r.writtenAs_toValue

/-- Rules survive being written down: each is read back from its own value and from every value
that writes it down, and no two rules have one value. -/
theorem Rule.encoding_faithful :
    (∀ r : Rule, r.WrittenAs r.toValue) ∧
      (∀ (r : Rule) (v : Value), r.WrittenAs v → ofValue? v = some r) ∧
      Function.Injective toValue := by
  refine ⟨writtenAs_toValue, fun r v ↦ ofValue?_of_writtenAs, fun r s h ↦ ?_⟩
  have hread := r.ofValue?_toValue
  rw [h, s.ofValue?_toValue] at hread
  exact (Option.some.inj hread).symm

theorem Rule.encoding_faithful_rearranged :
    let inner : Rule := ⟨[.check "int", .check "str"], [.combine .or 0 1], some 1⟩
    let outer : Rule := ⟨[.nested inner, .check "exists"], [.solo 0, .combine .and 0 1], none⟩
    ofValue? (.object [("note", .string "cached"),
        ("groups", .array [Group.toValue (.solo 0), Group.toValue (.combine .and 0 1)]),
        ("leaves", .array
          [.object [("nested", .array
            [.array [.object [("check", .string "int")], .object [("check", .string "str")]],
              .array [Group.toValue (.combine .or 0 1)], .integer 1])],
          .object [("check", .string "exists")]])]) = some outer := by
  intro inner outer
  refine encoding_faithful.2.1 outer _ (.object
    (.cons (.nested (.positional (.cons (.check _) (.cons (.check _) .nil))))
      (.cons (.check _) .nil)) ⟨by simp [Fields.keys], by simp [captureValue], by simp, ?_⟩)
  exact .inr ⟨rfl, by simp [Fields.keys]⟩

end Rulebook
