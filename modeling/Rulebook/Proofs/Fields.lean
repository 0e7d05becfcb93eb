import Mathlib.Data.List.Induction
import Mathlib.Data.List.Nodup
import Rulebook.Value

namespace Rulebook.Fields

variable {fs : Fields} {k : String} {v : Value}

def keys (fs : Fields) : List String := fs.map Prod.fst

theorem insert_of_not_mem (h : k ∉ fs.keys) (v : Value) : fs.insert k v = fs ++ [(k, v)] := by
  induction fs with
  | nil => rfl
  | cons entry fs ih =>
    obtain ⟨k', v'⟩ := entry
    rw [keys, List.map_cons, List.mem_cons, not_or] at h
    rw [insert, if_neg fun hk ↦ h.1 hk.symm, ih h.2]
    rfl

theorem insert_of_nodup {ks : List String} (h : (fs.keys ++ k :: ks).Nodup) (v : Value) :
    fs.insert k v = fs ++ [(k, v)] ∧ (keys (fs ++ [(k, v)]) ++ ks).Nodup := by
  have hfresh : k ∉ fs.keys := by
    intro hk
    have hdisjoint := (List.nodup_append.1 h).2.2
    exact hdisjoint k hk k List.mem_cons_self rfl
  refine ⟨insert_of_not_mem hfresh v, ?_⟩
  simpa [keys] using h

theorem keys_insert_of_mem (h : k ∈ fs.keys) (v : Value) : (fs.insert k v).keys = fs.keys := by
  induction fs with
  | nil => cases h
  | cons entry fs ih =>
    obtain ⟨k', v'⟩ := entry
    by_cases hk : k' = k
    · rw [insert, if_pos hk, hk]
      rfl
    · have hrest : k ∈ keys fs := by simpa [keys, Ne.symm hk] using h
      rw [insert, if_neg hk]
      exact congrArg (k' :: ·) (ih hrest)

theorem keys_insert_of_not_mem (h : k ∉ fs.keys) (v : Value) :
    (fs.insert k v).keys = fs.keys ++ [k] := by
  rw [insert_of_not_mem h, keys, List.map_append]
  rfl

theorem nodup_keys_insert (h : fs.keys.Nodup) (k : String) (v : Value) :
    (fs.insert k v).keys.Nodup := by
  by_cases hk : k ∈ fs.keys
  · rwa [keys_insert_of_mem hk]
  · rw [keys_insert_of_not_mem hk]
    exact List.nodup_append.2 ⟨h, List.nodup_singleton k, by grind⟩

theorem insert_ne_nil (fs : Fields) (k : String) (v : Value) : fs.insert k v ≠ [] := by
  cases fs with
  | nil => exact List.cons_ne_nil _ _
  | cons entry fs =>
    rw [insert]
    split <;> exact List.cons_ne_nil _ _

theorem mem_of_mem_insert {entry : String × Value} (h : entry ∈ fs.insert k v) :
    entry = (k, v) ∨ entry ∈ fs := by
  induction fs with
  | nil => exact .inl (List.mem_singleton.1 h)
  | cons first fs ih =>
    rw [insert] at h
    split at h
    · obtain rfl | h := List.mem_cons.1 h
      · exact .inl (by simp [*])
      · exact .inr (List.mem_cons_of_mem _ h)
    · obtain rfl | h := List.mem_cons.1 h
      · exact .inr List.mem_cons_self
      · exact (ih h).imp_right (List.mem_cons_of_mem _)

theorem get?_of_mem (h : fs.keys.Nodup) (hmem : (k, v) ∈ fs) : fs.get? k = some v := by
  induction fs with
  | nil => cases hmem
  | cons entry fs ih =>
    obtain ⟨k', v'⟩ := entry
    obtain ⟨hk, htail⟩ := List.nodup_cons.1 h
    rw [get?, List.lookup_cons]
    obtain heq | hrest := List.mem_cons.1 hmem
    · cases heq
      simp
    · have hne : k ≠ k' := by
        rintro rfl
        exact hk (List.mem_map.2 ⟨_, hrest, rfl⟩)
      rw [beq_false_of_ne hne]
      exact ih htail hrest

theorem get?_of_not_mem (h : k ∉ fs.keys) : fs.get? k = none :=
  List.lookup_eq_none_iff.2 fun _ hentry ↦
    bne_iff_ne.2 fun hk ↦ h (hk ▸ List.mem_map_of_mem hentry)

theorem ofList_of_nodup (h : fs.keys.Nodup) : ofList fs = fs := by
  have hinsert (done fs : Fields) (hdone : (done.keys ++ fs.keys).Nodup) :
      fs.foldl (fun fs entry ↦ insert entry.1 entry.2 fs) done = done ++ fs := by
    induction fs generalizing done with
    | nil => simp
    | cons entry fs ih =>
      obtain ⟨k, v⟩ := entry
      obtain ⟨heq, htail⟩ := insert_of_nodup (k := k) hdone v
      simp only [List.foldl_cons, heq]
      rw [ih _ htail, List.append_assoc, List.singleton_append]
  exact hinsert [] fs h

theorem mem_keys_insert {k' : String} :
    k' ∈ (fs.insert k v).keys ↔ k' ∈ fs.keys ∨ k' = k := by
  by_cases hk : k ∈ fs.keys
  · rw [keys_insert_of_mem hk]
    exact ⟨.inl, fun h ↦ h.elim id fun heq ↦ heq ▸ hk⟩
  · rw [keys_insert_of_not_mem hk, List.mem_append, List.mem_singleton]

theorem length_keys (fs : Fields) : fs.keys.length = fs.length := List.length_map _

theorem length_insert_of_mem (h : k ∈ fs.keys) (v : Value) :
    (fs.insert k v).length = fs.length := by
  rw [← length_keys, keys_insert_of_mem h, length_keys]

theorem length_insert_of_not_mem (h : k ∉ fs.keys) (v : Value) :
    (fs.insert k v).length = fs.length + 1 := by
  rw [insert_of_not_mem h, List.length_append, List.length_singleton]

theorem ofList_concat (entries : Fields) (k : String) (v : Value) :
    ofList (entries ++ [(k, v)]) = (ofList entries).insert k v := by
  rw [ofList, List.foldl_concat]
  rfl

theorem mem_keys_ofList (entries : Fields) : k ∈ (ofList entries).keys ↔ k ∈ entries.keys := by
  induction entries using List.reverseRecOn with
  | nil => rfl
  | append_singleton entries entry ih =>
    obtain ⟨k', v⟩ := entry
    rw [ofList_concat, mem_keys_insert, ih, keys, keys, List.map_append, List.mem_append]
    exact or_congr Iff.rfl List.mem_singleton.symm

theorem length_ofList_le (entries : Fields) : (ofList entries).length ≤ entries.length := by
  induction entries using List.reverseRecOn with
  | nil => exact Nat.le_refl 0
  | append_singleton entries entry ih =>
    obtain ⟨k, v⟩ := entry
    rw [ofList_concat, List.length_append, List.length_singleton]
    by_cases hk : k ∈ (ofList entries).keys
    · rw [length_insert_of_mem hk]
      exact Nat.le_succ_of_le ih
    · rw [length_insert_of_not_mem hk]
      exact Nat.succ_le_succ ih

theorem length_ofList_eq_iff (entries : Fields) :
    (ofList entries).length = entries.length ↔ entries.keys.Nodup := by
  refine ⟨fun h ↦ ?_, fun h ↦ by rw [ofList_of_nodup h]⟩
  induction entries using List.reverseRecOn with
  | nil => exact List.nodup_nil
  | append_singleton entries entry ih =>
    obtain ⟨k, v⟩ := entry
    have hle := length_ofList_le entries
    rw [ofList_concat, List.length_append, List.length_singleton] at h
    by_cases hk : k ∈ (ofList entries).keys
    · rw [length_insert_of_mem hk] at h
      omega
    · rw [length_insert_of_not_mem hk, Nat.add_right_cancel_iff] at h
      rw [mem_keys_ofList] at hk
      rw [← insert_of_not_mem hk v]
      exact nodup_keys_insert (ih h) k v

end Rulebook.Fields
