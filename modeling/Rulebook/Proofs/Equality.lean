import Mathlib.Control.Monad.Basic
import Rulebook.Config.Schema

namespace Rulebook

mutual

theorem Leaf.eq_of_beq : {l m : Leaf} → l.beq m = true → l = m
  | .check s, .check t, h => by rw [LawfulBEq.eq_of_beq (α := String) h]
  | .nested r, .nested s, h => by rw [Rule.eq_of_beq (r := r) (s := s) h]

theorem Rule.eq_of_beq : {r s : Rule} → r.beq s = true → r = s
  | ⟨ls, gs, c⟩, ⟨ls', gs', c'⟩, h => by
    rw [Rule.beq, Bool.and_eq_true, Bool.and_eq_true] at h
    rw [eq_of_beqLeaves h.1.1, LawfulBEq.eq_of_beq h.1.2, LawfulBEq.eq_of_beq h.2]

theorem eq_of_beqLeaves : {ls ms : List Leaf} → beqLeaves ls ms = true → ls = ms
  | [], [], _ => rfl
  | l :: ls, m :: ms, h => by
    rw [beqLeaves, Bool.and_eq_true] at h
    rw [Leaf.eq_of_beq h.1, eq_of_beqLeaves h.2]

end

mutual

theorem Leaf.beq_self : (l : Leaf) → l.beq l = true
  | .check s => beq_self_eq_true s
  | .nested r => r.beq_self

theorem Rule.beq_self : (r : Rule) → r.beq r = true
  | ⟨ls, gs, c⟩ => by
    rw [Rule.beq, beqLeaves_self ls, beq_self_eq_true, beq_self_eq_true]
    rfl

theorem beqLeaves_self : (ls : List Leaf) → beqLeaves ls ls = true
  | [] => rfl
  | l :: ls => by
    rw [beqLeaves, l.beq_self, beqLeaves_self ls]
    rfl

end

instance : DecidableEq Rule := fun r s ↦
  decidable_of_iff (r.beq s = true) ⟨Rule.eq_of_beq, fun h ↦ h ▸ r.beq_self⟩

mutual

def Reason.beq : Reason → Reason → Bool
  | .wrongKind s, .wrongKind t => s == t
  | .notString, .notString | .notInteger, .notInteger | .notDict, .notDict
  | .unreadableInteger, .unreadableInteger | .unreadableBool, .unreadableBool
  | .unkeyedText, .unkeyedText | .noSeparator, .noSeparator
  | .notAlphanumeric, .notAlphanumeric => true
  | .url f, .url g => f == g
  | .lengthOutside lo hi, .lengthOutside lo' hi' => lo == lo' && hi == hi'
  | .includesNone ws, .includesNone ws' => ws == ws'
  | .notAmong ps, .notAmong ps' => ps == ps'
  | .patternFailed p, .patternFailed q => p == q
  | .outside lo hi, .outside lo' hi' => lo == lo' && hi == hi'
  | .notLess n, .notLess m | .notGreater n, .notGreater m => n == m
  | .badKey k rs, .badKey l ss | .badEntry k rs, .badEntry l ss => k == l && beqReasons rs ss
  | .missingKey s, .missingKey t | .other s, .other t => s == t
  | _, _ => false

def beqReasons : List Reason → List Reason → Bool
  | [], [] => true
  | r :: rs, s :: ss => r.beq s && beqReasons rs ss
  | _, _ => false

end

mutual

theorem Reason.eq_of_beq {r s : Reason} (h : r.beq s = true) : r = s := by
  cases r
  case badKey k rs =>
    cases s <;> try cases h
    rw [Reason.beq, Bool.and_eq_true] at h
    rw [LawfulBEq.eq_of_beq h.1, eq_of_beqReasons h.2]
  case badEntry k rs =>
    cases s <;> try cases h
    rw [Reason.beq, Bool.and_eq_true] at h
    rw [LawfulBEq.eq_of_beq h.1, eq_of_beqReasons h.2]
  all_goals
    cases s <;> first | (cases h; done) | simp_all [Reason.beq]

theorem eq_of_beqReasons : {rs ss : List Reason} → beqReasons rs ss = true → rs = ss
  | [], [], _ => rfl
  | r :: rs, s :: ss, h => by
    rw [beqReasons, Bool.and_eq_true] at h
    rw [Reason.eq_of_beq h.1, eq_of_beqReasons h.2]

end

mutual

theorem Reason.beq_self (r : Reason) : r.beq r = true := by
  cases r
  case badKey k rs =>
    rw [Reason.beq, beqReasons_self rs, beq_self_eq_true]
    rfl
  case badEntry k rs =>
    rw [Reason.beq, beqReasons_self rs, beq_self_eq_true]
    rfl
  all_goals simp [Reason.beq]

theorem beqReasons_self : (rs : List Reason) → beqReasons rs rs = true
  | [] => rfl
  | r :: rs => by
    rw [beqReasons, r.beq_self, beqReasons_self rs]
    rfl

end

instance : DecidableEq Reason := fun r s ↦
  decidable_of_iff (r.beq s = true) ⟨Reason.eq_of_beq, fun h ↦ h ▸ r.beq_self⟩

deriving instance DecidableEq for Fault, Refusal, ConfigFault, SchemaEntry

mutual

def Value.beq : Value → Value → Bool
  | .null, .null => true
  | .bool b, .bool c => b == c
  | .integer n, .integer m => n == m
  | .float x, .float y => decide (x = y)
  | .string s, .string t => s == t
  | .array vs, .array ws => beqItems vs ws
  | .object fs, .object gs => beqFields fs gs
  | _, _ => false

def beqItems : List Value → List Value → Bool
  | [], [] => true
  | v :: vs, w :: ws => v.beq w && beqItems vs ws
  | _, _ => false

def beqFields : List (String × Value) → List (String × Value) → Bool
  | [], [] => true
  | (k, v) :: fs, (l, w) :: gs => k == l && v.beq w && beqFields fs gs
  | _, _ => false

end

mutual

theorem Value.eq_of_beq : {v w : Value} → v.beq w = true → v = w
  | .null, .null, _ => rfl
  | .bool _, .bool _, h => by rw [LawfulBEq.eq_of_beq h]
  | .integer _, .integer _, h => by rw [LawfulBEq.eq_of_beq h]
  | .float _, .float _, h => by rw [of_decide_eq_true h]
  | .string _, .string _, h => by rw [LawfulBEq.eq_of_beq h]
  | .array _, .array _, h => by rw [eq_of_beqItems h]
  | .object _, .object _, h => by rw [eq_of_beqFields h]

theorem eq_of_beqItems : {vs ws : List Value} → beqItems vs ws = true → vs = ws
  | [], [], _ => rfl
  | v :: vs, w :: ws, h => by
    rw [beqItems, Bool.and_eq_true] at h
    rw [Value.eq_of_beq h.1, eq_of_beqItems h.2]

theorem eq_of_beqFields : {fs gs : List (String × Value)} → beqFields fs gs = true → fs = gs
  | [], [], _ => rfl
  | (k, v) :: fs, (l, w) :: gs, h => by
    rw [beqFields, Bool.and_eq_true, Bool.and_eq_true] at h
    rw [LawfulBEq.eq_of_beq h.1.1, Value.eq_of_beq h.1.2, eq_of_beqFields h.2]

end

mutual

theorem Value.beq_self : (v : Value) → v.beq v = true
  | .null => rfl
  | .bool b => beq_self_eq_true b
  | .integer n => beq_self_eq_true n
  | .float _ => decide_eq_true rfl
  | .string s => beq_self_eq_true s
  | .array vs => beqItems_self vs
  | .object fs => beqFields_self fs

theorem beqItems_self : (vs : List Value) → beqItems vs vs = true
  | [] => rfl
  | v :: vs => by
    rw [beqItems, v.beq_self, beqItems_self vs]
    rfl

theorem beqFields_self : (fs : List (String × Value)) → beqFields fs fs = true
  | [] => rfl
  | (k, v) :: fs => by
    rw [beqFields, v.beq_self, beqFields_self fs, beq_self_eq_true]
    rfl

end

instance : DecidableEq Value := fun v w ↦
  decidable_of_iff (v.beq w = true) ⟨Value.eq_of_beq, fun h ↦ h ▸ v.beq_self⟩

deriving instance DecidableEq for Outcome, Issue, Report, Traced

end Rulebook
