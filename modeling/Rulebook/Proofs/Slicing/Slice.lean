import Rulebook.Proofs.Results
import Rulebook.Proofs.Text.Weight

namespace Rulebook.Text

inductive BadSlice
  | reversed
  | beyond
  | inside
deriving DecidableEq, Repr

def cutAtByte (n : Nat) : List Char → Except BadSlice (List Char × List Char)
  | [] => if n = 0 then .ok ([], []) else .error .beyond
  | c :: r =>
    if n = 0 then .ok ([], c :: r)
    else if n < c.utf8Size then .error .inside
    else (fun (before, after) ↦ (c :: before, after)) <$> cutAtByte (n - c.utf8Size) r

theorem cutAtByte_append (a b : List Char) : cutAtByte (size a) (a ++ b) = .ok (a, b) := by
  induction a with
  | nil => cases b <;> rfl
  | cons c a ih =>
    have hpos := c.utf8Size_pos
    rw [List.cons_append, cutAtByte, size_cons, if_neg (by omega), if_neg (by omega),
      Nat.add_sub_cancel_left, ih]
    rfl

theorem append_of_cutAtByte {n : Nat} {cs a b : List Char} (h : cutAtByte n cs = .ok (a, b)) :
    cs = a ++ b ∧ size a = n := by
  induction cs generalizing n a with
  | nil =>
    rw [cutAtByte] at h
    split at h
    · rename_i hn
      cases h
      exact ⟨rfl, hn.symm⟩
    · cases h
  | cons c r ih =>
    rw [cutAtByte] at h
    split at h
    · rename_i hn
      cases h
      exact ⟨rfl, hn.symm⟩
    · split at h
      · cases h
      · rename_i hsize
        obtain ⟨⟨a', b'⟩, hcut, heq⟩ := map_eq_ok_iff.1 h
        cases heq
        obtain ⟨rfl, ha⟩ := ih hcut
        refine ⟨rfl, ?_⟩
        rw [size_cons, ha]
        omega

/-- The slice of a text between two byte offsets, which tell its size. -/
def slice (cs : List Char) (start stop : Nat) :
    Except BadSlice { piece : List Char // size piece = stop - start } :=
  if stop < start then .error .reversed
  else match hstop : cutAtByte stop cs with
    | .error e => .error e
    | .ok (before, _) =>
      match hstart : cutAtByte start before with
      | .error e => .error e
      | .ok (skipped, piece) => .ok ⟨piece, by
          obtain ⟨rfl, hskipped⟩ := append_of_cutAtByte hstart
          have hbefore := (append_of_cutAtByte hstop).2
          rw [size_append] at hbefore
          omega⟩

theorem slice_eq {cs a b c : List Char} {start stop : Nat} (hcs : cs = a ++ b ++ c)
    (hstart : size a = start) (hstop : start + size b = stop) :
    slice cs start stop = .ok ⟨b, by omega⟩ := by
  have hbefore : cutAtByte stop cs = .ok (a ++ b, c) := by
    rw [hcs, ← hstop, ← hstart, ← size_append, cutAtByte_append]
  have hpiece : cutAtByte start (a ++ b) = .ok (a, b) := by rw [← hstart, cutAtByte_append]
  rw [slice, if_neg (by omega)]
  split
  · rename_i h
    cases hbefore.symm.trans h
  · rename_i h
    cases hbefore.symm.trans h
    split
    · rename_i h
      cases hpiece.symm.trans h
    · rename_i h
      cases hpiece.symm.trans h
      rfl

theorem slice_front {cs a b : List Char} (hcs : cs = a ++ b) :
    slice cs 0 (size a) = .ok ⟨a, rfl⟩ :=
  slice_eq (a := []) (b := a) (c := b) hcs rfl (Nat.zero_add _)

theorem slice_back {cs a b : List Char} {start : Nat} (hcs : cs = a ++ b)
    (hstart : size a = start) :
    slice cs start (size cs) = .ok ⟨b, by rw [hcs, size_append]; omega⟩ :=
  slice_eq (a := a) (b := b) (c := []) (by rw [hcs, List.append_nil]) hstart
    (by rw [hcs, size_append, hstart])

theorem append_of_slice {cs : List Char} {start stop : Nat}
    {piece : { piece : List Char // size piece = stop - start }}
    (h : slice cs start stop = .ok piece) :
    ∃ a c, cs = a ++ piece.val ++ c ∧ size a = start ∧ start + size piece.val = stop := by
  rw [slice] at h
  split at h
  · cases h
  · rename_i horder
    split at h
    · cases h
    · rename_i before c hstop
      split at h
      · cases h
      · rename_i a piece hstart
        cases h
        obtain ⟨rfl, ha⟩ := append_of_cutAtByte hstart
        obtain ⟨rfl, hbefore⟩ := append_of_cutAtByte hstop
        rw [size_append] at hbefore
        exact ⟨a, c, rfl, ha, ha ▸ hbefore⟩

theorem exists_slice_iff {cs : List Char} {start stop : Nat} :
    (∃ piece, slice cs start stop = .ok piece) ↔ start ≤ stop ∧
      (⟨start⟩ : String.Pos.Raw).IsValid (String.ofList cs) ∧
      (⟨stop⟩ : String.Pos.Raw).IsValid (String.ofList cs) := by
  have hvalid (n : Nat) : (⟨n⟩ : String.Pos.Raw).IsValid (String.ofList cs) ↔
      ∃ a b, cs = a ++ b ∧ size a = n := by
    rw [String.Pos.Raw.isValid_ofList]
    constructor
    · rintro ⟨k, hk⟩
      refine ⟨cs.take k, cs.drop k, (List.take_append_drop k cs).symm, ?_⟩
      exact (utf8ByteSize_ofList _).symm.trans hk.symm
    · rintro ⟨a, b, rfl, ha⟩
      refine ⟨a.length, ?_⟩
      rw [List.take_left, utf8ByteSize_ofList]
      exact ha.symm
  rw [hvalid, hvalid]
  constructor
  · rintro ⟨piece, h⟩
    obtain ⟨a, c, hcs, ha, hb⟩ := append_of_slice h
    exact ⟨by omega, ⟨a, _, by rw [hcs, List.append_assoc], ha⟩,
      a ++ piece.val, c, hcs, by rw [size_append, ha, hb]⟩
  · rintro ⟨horder, ⟨a, b, hstart, ha⟩, a', b', hstop, ha'⟩
    obtain ⟨m, rfl, rfl⟩ | ⟨m, rfl, rfl⟩ := List.append_eq_append_iff.1 (hstart.symm.trans hstop)
    · rw [size_append] at ha'
      exact ⟨_, slice_eq (a := a) (b := m) (c := b') hstop ha (by omega)⟩
    · -- the later cut is no further: nothing stands between the two
      rw [size_append] at ha
      exact ⟨_, slice_eq (a := a') (b := []) (c := m ++ b) (by simp [hstart]) (by omega)
        (by simp; omega)⟩

abbrev Guarded (ε : Type) := ExceptT ε (Except BadSlice)

variable {ε α β : Type}

/-- All slices of a computation are there, and this is what it comes to. -/
def Yields (x : Guarded ε α) (r : Except ε α) : Prop := x.run = .ok r

namespace Yields

theorem pure (a : α) : Yields (Pure.pure a : Guarded ε α) (.ok a) := rfl

theorem throw (e : ε) : Yields (MonadExcept.throw e : Guarded ε α) (.error e) := rfl

theorem liftExcept (r : Except ε α) : Yields (MonadExcept.ofExcept r : Guarded ε α) r := by
  cases r <;> rfl

theorem bind {x : Guarded ε α} {r : Except ε α} {f : α → Guarded ε β} {g : α → Except ε β}
    (hx : Yields x r) (hf : ∀ a, r = .ok a → Yields (f a) (g a)) : Yields (x >>= f) (r >>= g) := by
  rw [Yields, ExceptT.run_bind, hx]
  cases r with
  | error e => rfl
  | ok a => exact hf a rfl

theorem lift_bind {x : Except BadSlice α} {a : α} {f : α → Guarded ε β} {r : Except ε β}
    (hx : x = .ok a) (hf : Yields (f a) r) : Yields (liftM x >>= f) r := by
  rw [hx]
  exact hf

theorem mapM {f : α → Guarded ε β} {g : α → Except ε β} {l : List α}
    (h : ∀ a ∈ l, Yields (f a) (g a)) : Yields (l.mapM f) (l.mapM g) := by
  induction l with
  | nil => exact pure []
  | cons a l ih =>
    rw [List.mapM_cons, List.mapM_cons]
    obtain ⟨ha, hl⟩ := List.forall_mem_cons.1 h
    exact ha.bind fun b _ ↦ (ih hl).bind fun bs _ ↦ pure (b :: bs)

end Yields

end Rulebook.Text
