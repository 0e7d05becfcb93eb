import Mathlib
import Rulebook.Pattern.Matching
import Rulebook.Proofs.Catalog.Builtin
import Rulebook.Proofs.Catalog.DictText
import Rulebook.Proofs.Decimal.Integers

namespace Rulebook

open Text

namespace RuleType

variable {type : RuleType} {name describe : String} {convert : Scope → String → Run Value}

@[simp] theorem convert_make {accepts : List Kind} :
    (make name describe accepts convert).convert = convert := rfl

@[simp] theorem convert_formattedBy {format : Value → String} :
    (type.formattedBy format).convert = type.convert := rfl

@[simp] theorem convert_withFunction {signature : Signature}
    {apply : Scope → Value → List Value → Run (Option Value)} :
    (type.withFunction name describe signature apply).convert = type.convert := rfl

@[simp] theorem format_make {accepts : List Kind} :
    (make name describe accepts convert).format = Value.display := rfl

@[simp] theorem format_formattedBy {format : Value → String} :
    (type.formattedBy format).format = format := rfl

@[simp] theorem format_withFunction {signature : Signature}
    {apply : Scope → Value → List Value → Run (Option Value)} :
    (type.withFunction name describe signature apply).format = type.format := rfl

end RuleType

variable {scope : Scope} {text : String} {v : Value}

theorem Integer.convert_eq_ok_iff : (convert scope text).result = .ok v ↔
    ∃ n, Decimal.signed? (trim text.toList) = some n ∧ v = .integer n := by
  rw [convert]
  cases Decimal.signed? (trim text.toList) with
  | none => simp [Run.reject, Traced.fail]
  | some n => simp [Traced.pure, eq_comm]

theorem Truth.convert_eq_ok_iff : (convert scope text).result = .ok v ↔
    ∃ b, read? text = some b ∧ v = .bool b := by
  rw [convert]
  cases read? text with
  | none => simp [Run.reject, Traced.fail]
  | some n => simp [Traced.pure, eq_comm]

theorem Url.convert_eq_ok_iff : (convert scope text).result = .ok v ↔
    check (strip text) = .ok () ∧ v = .string (strip text) := by
  rw [convert]
  cases check (strip text) with
  | error f => simp [Run.reject, Traced.fail]
  | ok _ => simp [Traced.pure, eq_comm]

theorem Dict.convert_eq_ok_iff : (convert scope text).result = .ok v ↔
    ∃ m, read text = .ok m ∧ v = .object m := by
  rw [convert]
  cases read text with
  | error r => simp [Run.reject, Traced.fail]
  | ok m => simp [Traced.pure, eq_comm]

theorem Integer.convert_format (h : (convert scope text).result = .ok v) (scope' : Scope) :
    (convert scope' v.display).result = .ok v := by
  obtain ⟨n, hn, rfl⟩ := convert_eq_ok_iff.1 h
  exact convert_eq_ok_iff.2 ⟨n, Decimal.signed?_toString hn, rfl⟩

theorem Truth.convert_format (h : (convert scope text).result = .ok v) (scope' : Scope) :
    (convert scope' (format v)).result = .ok v := by
  have hyes : read? "Yes" = some true := by decide +kernel
  have hno : read? "No" = some false := by decide +kernel
  obtain ⟨b, -, rfl⟩ := convert_eq_ok_iff.1 h
  refine convert_eq_ok_iff.2 ⟨b, ?_, rfl⟩
  cases b with
  | true => exact hyes
  | false => exact hno

theorem Url.convert_format (h : (convert scope text).result = .ok v) (scope' : Scope) :
    (convert scope' v.display).result = .ok v := by
  obtain ⟨hcheck, rfl⟩ := convert_eq_ok_iff.1 h
  have hstrip : strip (Value.display (.string (strip text))) = strip text := strip_strip text
  rw [← hstrip] at hcheck
  exact convert_eq_ok_iff.2 ⟨hcheck, congrArg Value.string hstrip.symm⟩

theorem Dict.convert_format (h : (convert scope text).result = .ok v) (scope' : Scope) :
    ∃ m, v = .object m ∧ ∃ w, (convert scope' (format v)).result = .ok w ∧
      (w = v ↔ "" ∉ (Fields.keys m).tail) := by
  obtain ⟨m, hm, rfl⟩ := convert_eq_ok_iff.1 h
  obtain ⟨m', hread, hiff⟩ := (legible_of_read hm).read_write
  refine ⟨m, rfl, .object m', convert_eq_ok_iff.2 ⟨m', hread, rfl⟩, ?_⟩
  rw [← hiff, Value.object.injEq]

/-- A built-in type converts the text of a value that it converted a text to. The result is the same
value, except for a dictionary with an empty key after the first. -/
theorem Catalog.exists_convert_format [PatternLibrary] {name : String} {type : RuleType}
    (htype : builtin.find? name = some type) (h : (type.convert scope text).result = .ok v)
    (scope' : Scope) :
    ∃ w, (type.convert scope' (type.format v)).result = .ok w ∧
      (w = v ↔ ∀ m : Fields, v = .object m → "" ∉ m.keys.tail) := by
  have hscalar (hkind : v.kind ≠ .map) (m : Fields) (hm : v = .object m) : "" ∉ m.keys.tail := by
    rw [hm] at hkind
    exact absurd rfl hkind
  obtain ⟨-, rfl⟩ | ⟨-, rfl⟩ | ⟨-, rfl⟩ | ⟨-, rfl⟩ | ⟨-, rfl⟩ := find?_builtin.1 htype
  · cases h
    exact ⟨.string text, rfl, iff_of_true rfl (hscalar nofun)⟩
  · simp only [Integer.type, RuleType.convert_withFunction, RuleType.convert_make,
      RuleType.format_withFunction, RuleType.format_make] at h ⊢
    have hresult := Integer.convert_format h scope'
    obtain ⟨n, -, rfl⟩ := Integer.convert_eq_ok_iff.1 h
    exact ⟨.integer n, hresult, iff_of_true rfl (hscalar nofun)⟩
  · simp only [Truth.type, RuleType.convert_formattedBy, RuleType.convert_make,
      RuleType.format_formattedBy] at h ⊢
    have hresult := Truth.convert_format h scope'
    obtain ⟨b, -, rfl⟩ := Truth.convert_eq_ok_iff.1 h
    exact ⟨.bool b, hresult, iff_of_true rfl (hscalar nofun)⟩
  · simp only [Url.type, RuleType.convert_make, RuleType.format_make] at h ⊢
    have hresult := Url.convert_format h scope'
    obtain ⟨-, rfl⟩ := Url.convert_eq_ok_iff.1 h
    exact ⟨.string (strip text), hresult, iff_of_true rfl (hscalar nofun)⟩
  · simp only [Dict.type, RuleType.convert_withFunction, RuleType.convert_formattedBy,
      RuleType.convert_make, RuleType.format_withFunction, RuleType.format_formattedBy] at h ⊢
    obtain ⟨m, rfl, w, hw, hiff⟩ := Dict.convert_format h scope'
    refine ⟨w, hw, hiff.trans ⟨fun hm m' hm' ↦ ?_, fun hm ↦ hm m rfl⟩⟩
    cases hm'
    exact hm

theorem Catalog.convert_format_repeated :
    (Dict.type.convert ⟨[], fun _ _ ↦ .pure (.valid .null)⟩ "==1 b== 2 b==3 ").result =
      .ok (.object [("", .string "1"), ("b", .string "3 ")]) ∧
    ∃ w, (Dict.type.convert ⟨[], fun _ _ ↦ .pure (.valid .null)⟩
      (Dict.type.format (.object [("", .string "1"), ("b", .string "3 ")]))).result = .ok w ∧
      w = .object [("", .string "1"), ("b", .string "3 ")] := by
  have hconvert : (Dict.type.convert ⟨[], fun _ _ ↦ .pure (.valid .null)⟩
      "==1 b== 2 b==3 ").result = .ok (.object [("", .string "1"), ("b", .string "3 ")]) := by
    cbv
  obtain ⟨w, hw, hiff⟩ := exists_convert_format find?_dict hconvert
    ⟨[], fun _ _ ↦ .pure (.valid .null)⟩
  refine ⟨hconvert, w, hw, hiff.2 fun m hm ↦ ?_⟩
  cases hm
  decide

/-- With nothing but a space between two separators, the space is taken for the key. -/
theorem Catalog.not_forall_convert_format :
    ¬ ∀ (name : String) (type : RuleType), builtin.find? name = some type →
      ∀ (scope : Scope) (text : String) (v : Value), (type.convert scope text).result = .ok v →
        (type.convert scope (type.format v)).result = .ok v := by
  intro h
  have hsame := h "dict" Dict.type find?_dict ⟨[], fun _ _ ↦ .pure (.valid .null)⟩ "a====b"
    (.object [("a", .string ""), ("", .string "b")]) (by cbv)
  have hspace : (Dict.type.convert ⟨[], fun _ _ ↦ .pure (.valid .null)⟩
      (Dict.type.format (.object [("a", .string ""), ("", .string "b")]))).result =
        .ok (.object [("a", .string ""), (" ", .string "b")]) := by
    cbv
  rw [hsame] at hspace
  simp at hspace

end Rulebook
