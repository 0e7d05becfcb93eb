import Rulebook.Pattern.Matching
import Rulebook.Proofs.Catalog.Applications
import Rulebook.Proofs.Catalog.Entries
import Rulebook.Proofs.Catalog.Formatting
import Rulebook.Proofs.Evaluation.Faults

namespace Rulebook.Dict

variable {scope : Scope} {arguments : List Value} {m : Fields}

theorem zipWith_put_key (m : Fields) (vs : List Value) :
    m.zipWith Part.key.put vs = (vs.map Value.display).zip (m.map Prod.snd) := by
  rw [List.zip_eq_zipWith, List.zipWith_map, List.zipWith_comm]
  rfl

theorem keys_zip {vs : List Value} (hlen : m.length = vs.length) :
    Fields.keys ((vs.map Value.display).zip (m.map Prod.snd)) = vs.map Value.display := by
  rw [Fields.keys, List.map_fst_zip (by rw [List.length_map, List.length_map, hlen])]

theorem key_eq_ok_iff {o : Option Value} : (key scope (.object m) arguments).result = .ok o ↔
    ∃ vs, List.Forall₂ (fun entry v ↦
        (scope.apply (.text (ruleOf arguments)) (.raw entry.1)).result = .ok (.valid v)) m vs ∧
      o = some (.object (Fields.ofList ((vs.map Value.display).zip (m.map Prod.snd)))) := by
  rw [key_eq, Part.apply_object, map_bind, Traced.bind_eq_ok_iff]
  simp only [Traced.mapM_eq_ok_iff, Part.forall₂_pass_iff, zipWith_put_key]
  constructor
  · intro h
    obtain ⟨_, ⟨vs, hvs, rfl⟩, h⟩ := h
    cases h
    exact ⟨vs, hvs, rfl⟩
  · intro h
    obtain ⟨vs, hvs, rfl⟩ := h
    exact ⟨_, ⟨vs, hvs, rfl⟩, rfl⟩

/-- Where all keys follow a rule, the result has at most as many entries, and none is lost exactly
when the texts of the values that the rule gives are distinct. Then the texts are the new keys, in
order, and every item stays with its key. -/
theorem entries_of_key [PatternLibrary] {e : Engine} (he : e.catalog.ExtendsBuiltin)
    {context : Context} {depth : Nat} (hdepth : (ruleOf arguments).length < depth) {o : Option Value}
    (h : (key ⟨context, e.applyWithin depth context⟩ (.object m) arguments).result = .ok o) :
    ∃ vs m', o = some (.object m') ∧
      List.Forall₂ (fun entry v ↦
        (e.apply context (.text (ruleOf arguments)) (.raw entry.1)).result = .ok (.valid v)) m vs ∧
      m'.length ≤ m.length ∧
      (m'.length = m.length ↔ (vs.map Value.display).Nodup) ∧
      ((vs.map Value.display).Nodup →
        m' = (vs.map Value.display).zip (m.map Prod.snd)) := by
  obtain ⟨vs, hvs, rfl⟩ := key_eq_ok_iff.1 h
  have hkeys := keys_zip hvs.length_eq
  have hlen : ((vs.map Value.display).zip (m.map Prod.snd)).length = m.length := by
    rw [List.length_zip, List.length_map, List.length_map, hvs.length_eq, Nat.min_self]
  simp only [Engine.applyWithin_eq_apply he.contained hdepth] at hvs
  refine ⟨vs, _, rfl, hvs, ?_, ?_, fun hnodup ↦ ?_⟩
  · rw [← hlen]
    exact Fields.length_ofList_le _
  · rw [← hlen, Fields.length_ofList_eq_iff, hkeys]
  · exact Fields.ofList_of_nodup (by rwa [hkeys])

theorem applyWithin_int {text : String} {n : Int}
    (h : Decimal.signed? (Text.trim text.toList) = some n) (depth : Nat) (context : Context) :
    (Engine.applyWithin { catalog := .builtin } (depth + 1) context (.text "int")
      (.raw text)).result = .ok (.valid (.integer n)) := by
  have hcompile : (Engine.obtain { catalog := .builtin } (.text "int")).result =
      .ok ⟨[.check "int"], [.solo 0], none⟩ := by
    cbv
  have hread : Check.read "int" = .ok ⟨"int", []⟩ := by cbv
  have hconvert (scope : Scope) :
      (Integer.type.receive scope (.raw text)).result = .ok (.integer n) :=
    show (Integer.convert scope text).result = .ok (.integer n) from
      Integer.convert_eq_ok_iff.2 ⟨n, h, rfl⟩
  have hfind : Catalog.builtin.find? "int" = some Integer.type :=
    Catalog.find?_builtin.2 (.inr (.inl ⟨by decide, rfl⟩))
  rw [Engine.applyWithin, Engine.applyWith_result_of_obtain hcompile, Engine.applyIn,
    Rule.apply_check, settle_eq_valid_iff, Catalog.evaluate_of_requires hread hfind rfl,
    Traced.bind_of_ok (hconvert _)]
  rfl

theorem entries_of_key_int :
    (key ⟨[], Engine.applyWithin { catalog := .builtin } 4 []⟩
      (.object [("+1", .string "a"), (" 02", .null)]) [.string "int"]).result =
        .ok (some (.object [("1", .string "a"), ("2", .null)])) ∧
    ∃ vs : List Value, (vs.map Value.display).Nodup ∧
      [("1", Value.string "a"), ("2", .null)] =
        (vs.map Value.display).zip [.string "a", .null] := by
  let e : Engine := { catalog := .builtin }
  have hkey : (key ⟨[], Engine.applyWithin { catalog := .builtin } 4 []⟩
      (.object [("+1", .string "a"), (" 02", .null)]) [.string "int"]).result =
        .ok (some (.object [("1", .string "a"), ("2", .null)])) := by
    rw [key_eq_ok_iff, ruleOf_string]
    refine ⟨[.integer 1, .integer 2], .cons ?_ (.cons ?_ .nil), by cbv⟩
    · exact applyWithin_int (by cbv) 3 []
    · exact applyWithin_int (by cbv) 3 []
  obtain ⟨vs, m', hm', -, -, hiff, hzip⟩ :=
    entries_of_key (e := e) Catalog.extendsBuiltin_builtin (by decide) hkey
  cases hm'
  have hnodup := hiff.1 rfl
  exact ⟨hkey, vs, hnodup, hzip hnodup⟩

/-- Two keys that are read as the same integer leave one entry. -/
theorem not_forall_length_key : ¬∀ (e : Engine) (context : Context) (depth : Nat)
    (arguments : List Value) (m m' : Fields), e.catalog.ExtendsBuiltin →
      (ruleOf arguments).length < depth →
      (key ⟨context, e.applyWithin depth context⟩ (.object m) arguments).result =
        .ok (some (.object m')) → m'.length = m.length := by
  intro h
  have hkey : (key ⟨[], Engine.applyWithin { catalog := .builtin } 4 []⟩
      (.object [("1", .string "a"), ("+1", .string "b")]) [.string "int"]).result =
        .ok (some (.object [("1", .string "b")])) := by
    rw [key_eq_ok_iff, ruleOf_string]
    refine ⟨[.integer 1, .integer 1], .cons ?_ (.cons ?_ .nil), by cbv⟩
    · exact applyWithin_int (by cbv) 3 []
    · exact applyWithin_int (by cbv) 3 []
  have hlen := h { catalog := .builtin } [] 4 [.string "int"] _ _ Catalog.extendsBuiltin_builtin
    (by decide) hkey
  cases hlen

end Rulebook.Dict
