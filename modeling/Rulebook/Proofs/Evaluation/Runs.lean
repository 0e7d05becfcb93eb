import Mathlib.Data.List.Forall2
import Rulebook.Evaluation.Run
import Rulebook.Proofs.Results

namespace Rulebook

theorem forall_mem_of_forall₂ {α β : Type} {p : β → Prop} {as : List α} {bs : List β}
    (h : List.Forall₂ (fun _ b ↦ p b) as bs) : ∀ b ∈ bs, p b := by
  induction h with
  | nil => exact List.forall_mem_nil p
  | cons hb _ ih => exact List.forall_mem_cons.2 ⟨hb, ih⟩

namespace Traced

variable {ε α β : Type}

theorem bind_of_ok {r : Traced ε α} {a : α} (h : r.result = .ok a) (f : α → Traced ε β) :
    r >>= f = ⟨r.trail ++ (f a).trail, (f a).result⟩ := by
  show r.bind f = _
  rw [Traced.bind, h]

theorem bind_of_error {r : Traced ε α} {e : ε} (h : r.result = .error e) (f : α → Traced ε β) :
    r >>= f = ⟨r.trail, .error e⟩ := by
  show r.bind f = _
  rw [Traced.bind, h]

theorem bind_eq_ok_iff {r : Traced ε α} {f : α → Traced ε β} {b : β} :
    (r >>= f).result = .ok b ↔ ∃ a, r.result = .ok a ∧ (f a).result = .ok b := by
  cases hr : r.result with
  | ok a =>
    rw [bind_of_ok hr]
    constructor
    · exact fun h ↦ ⟨a, rfl, h⟩
    · rintro ⟨_, ⟨⟩, h⟩
      exact h
  | error e =>
    rw [bind_of_error hr]
    exact iff_of_false (fun h ↦ nomatch h) fun ⟨_, h, _⟩ ↦ nomatch h

theorem bind_eq_error_iff {r : Traced ε α} {f : α → Traced ε β} {e : ε} :
    (r >>= f).result = .error e ↔
      r.result = .error e ∨ ∃ a, r.result = .ok a ∧ (f a).result = .error e := by
  cases hr : r.result with
  | ok a =>
    rw [bind_of_ok hr]
    constructor
    · exact fun h ↦ .inr ⟨a, rfl, h⟩
    · rintro (h | ⟨_, ⟨⟩, h⟩)
      · cases h
      · exact h
  | error e' =>
    rw [bind_of_error hr]
    constructor
    · rintro ⟨⟩
      exact .inl rfl
    · rintro (⟨⟨⟩⟩ | ⟨_, ⟨⟩, _⟩)
      rfl

theorem mapError_eq_ok_iff {ε' : Type} {r : Traced ε α} {f : ε → ε'} {a : α} :
    (r.mapError f).result = .ok a ↔ r.result = .ok a :=
  Rulebook.mapError_eq_ok_iff

theorem mapError_eq_error_iff {ε' : Type} {r : Traced ε α} {f : ε → ε'} {e' : ε'} :
    (r.mapError f).result = .error e' ↔ ∃ e, r.result = .error e ∧ f e = e' := by
  rw [Traced.mapError]
  cases r.result with
  | ok a => exact iff_of_false nofun nofun
  | error e => simp [Except.mapError]

theorem bind_congr {r : Traced ε α} {f g : α → Traced ε β}
    (h : ∀ a, r.result = .ok a → f a = g a) : r >>= f = r >>= g := by
  cases hr : r.result with
  | ok a => rw [bind_of_ok hr, bind_of_ok hr, h a hr]
  | error e => rw [bind_of_error hr, bind_of_error hr]

theorem result_bind_congr {r r' : Traced ε α} {f g : α → Traced ε β} (h : r.result = r'.result)
    (hfg : ∀ a, r.result = .ok a → (f a).result = (g a).result) :
    (r >>= f).result = (r' >>= g).result := by
  cases hr : r.result with
  | ok a => rw [bind_of_ok hr, bind_of_ok (h ▸ hr), hfg a hr]
  | error e => rw [bind_of_error hr, bind_of_error (h ▸ hr)]

theorem result_of_bind_pure {r : Traced ε α} {f : α → β} {e : ε}
    (h : (r >>= fun a ↦ Pure.pure (f a)).result = .error e) : r.result = .error e := by
  obtain h | ⟨a, -, h⟩ := bind_eq_error_iff.1 h
  · exact h
  · cases h

theorem trail_bind_of_silent {r : Traced ε α} {f : α → Traced ε β} (h : r.trail = [])
    (hf : ∀ a, (f a).trail = []) : (r >>= f).trail = [] := by
  cases hr : r.result with
  | ok a =>
    rw [bind_of_ok hr, h, hf a]
    rfl
  | error e => rw [bind_of_error hr, h]

instance : LawfulMonad (Traced ε) := by
  refine LawfulMonad.mk' (Traced ε) ?_ ?_ ?_
  · intro α r
    show r >>= pure = r
    cases hr : r.result with
    | ok a =>
      rw [bind_of_ok hr]
      show (⟨r.trail ++ [], .ok a⟩ : Traced ε α) = r
      rw [List.append_nil, ← hr]
    | error e => rw [bind_of_error hr, ← hr]
  · intro α β a f
    exact bind_of_ok rfl f
  · intro α β γ r f g
    cases hr : r.result with
    | ok a =>
      rw [bind_of_ok hr, bind_of_ok hr]
      cases hf : (f a).result with
      | ok b =>
        rw [bind_of_ok hf, bind_of_ok rfl, List.append_assoc]
      | error e =>
        rw [bind_of_error hf, bind_of_error rfl]
    | error e => rw [bind_of_error hr, bind_of_error rfl, bind_of_error hr]

theorem mapM_of_ok {f : α → Traced ε β} {as : List α} {bs : List β}
    (h : List.Forall₂ (fun a b ↦ (f a).result = .ok b) as bs) :
    as.mapM f = ⟨as.flatMap fun a ↦ (f a).trail, .ok bs⟩ := by
  induction h with
  | nil => rfl
  | @cons a b as bs hab _ ih =>
    rw [List.mapM_cons, bind_of_ok hab, ih, bind_of_ok rfl, List.flatMap_cons]
    show (⟨_ ++ (_ ++ []), .ok (b :: bs)⟩ : Traced ε (List β)) = _
    rw [List.append_nil]

theorem mapM_of_error {f : α → Traced ε β} {as : List α} {a : α} {bs : List β} {e : ε}
    (h : List.Forall₂ (fun a b ↦ (f a).result = .ok b) as bs) (ha : (f a).result = .error e)
    (cs : List α) :
    (as ++ a :: cs).mapM f = ⟨(as ++ [a]).flatMap fun a ↦ (f a).trail, .error e⟩ := by
  induction h with
  | nil => rw [List.nil_append, List.mapM_cons, bind_of_error ha]; simp
  | @cons a' b as bs hab _ ih =>
    rw [List.cons_append, List.mapM_cons, bind_of_ok hab, ih, bind_of_error rfl,
      List.cons_append, List.flatMap_cons]

theorem exists_forall₂_ok {f : α → Traced ε β} {as : List α}
    (h : ∀ a ∈ as, ∃ b, (f a).result = .ok b) :
    ∃ bs, List.Forall₂ (fun a b ↦ (f a).result = .ok b) as bs :=
  exists_forall₂ h

theorem mapM_cases (f : α → Traced ε β) (as : List α) :
    (∃ bs, List.Forall₂ (fun a b ↦ (f a).result = .ok b) as bs) ∨
    ∃ l a r bs e, as = l ++ a :: r ∧ List.Forall₂ (fun a b ↦ (f a).result = .ok b) l bs ∧
      (f a).result = .error e := by
  induction as with
  | nil => exact .inl ⟨[], .nil⟩
  | cons a as ih =>
    cases ha : (f a).result with
    | error e => exact .inr ⟨[], a, as, [], e, rfl, .nil, ha⟩
    | ok b =>
      obtain ⟨bs, h⟩ | ⟨l, a', r, bs, e, rfl, hl, ha'⟩ := ih
      · exact .inl ⟨b :: bs, .cons ha h⟩
      · exact .inr ⟨a :: l, a', r, b :: bs, e, rfl, .cons ha hl, ha'⟩

theorem mapM_eq_ok_iff {f : α → Traced ε β} {as : List α} {bs : List β} :
    (as.mapM f).result = .ok bs ↔ List.Forall₂ (fun a b ↦ (f a).result = .ok b) as bs := by
  refine ⟨fun h ↦ ?_, fun h ↦ by rw [mapM_of_ok h]⟩
  obtain ⟨bs', h'⟩ | ⟨l, a, r, bs', e, rfl, hl, ha⟩ := mapM_cases f as
  · rw [mapM_of_ok h'] at h
    cases h
    exact h'
  · rw [mapM_of_error hl ha r] at h
    cases h

theorem mapM_congr {f g : α → Traced ε β} {as : List α} (h : ∀ a ∈ as, f a = g a) :
    as.mapM f = as.mapM g := by
  induction as with
  | nil => rfl
  | cons a as ih =>
    rw [List.mapM_cons, List.mapM_cons, h a List.mem_cons_self,
      ih fun b hb ↦ h b (List.mem_cons_of_mem a hb)]

theorem mapM_eq_error_iff {f : α → Traced ε β} {as : List α} {e : ε} :
    (as.mapM f).result = .error e ↔ ∃ l a r, as = l ++ a :: r ∧
      (∀ b ∈ l, ∃ c, (f b).result = .ok c) ∧ (f a).result = .error e := by
  constructor
  · intro h
    obtain ⟨bs, h'⟩ | ⟨l, a, r, bs, e', rfl, hl, ha⟩ := mapM_cases f as
    · rw [mapM_of_ok h'] at h
      cases h
    · rw [mapM_of_error hl ha r] at h
      cases h
      refine ⟨l, a, r, rfl, fun b hb ↦ ?_, ha⟩
      obtain ⟨i, hi, rfl⟩ := List.getElem_of_mem hb
      exact ⟨_, hl.get hi (hl.length_eq ▸ hi)⟩
  · rintro ⟨l, a, r, rfl, hl, ha⟩
    obtain ⟨bs, hbs⟩ := exists_forall₂_ok hl
    rw [mapM_of_error hbs ha]

/-- The elements that a run over a list gets to: all of them up to the first that fails. -/
def reached (f : α → Traced ε β) : List α → List α
  | [] => []
  | a :: as =>
    match (f a).result with
    | .ok _ => a :: reached f as
    | .error _ => [a]

theorem reached_of_ok {f : α → Traced ε β} {a : α} {b : β} (h : (f a).result = .ok b)
    (as : List α) : reached f (a :: as) = a :: reached f as := by
  rw [reached, h]

theorem reached_of_error {f : α → Traced ε β} {a : α} {e : ε} (h : (f a).result = .error e)
    (as : List α) : reached f (a :: as) = [a] := by
  rw [reached, h]

theorem mem_of_mem_reached {f : α → Traced ε β} {a : α} {as : List α} (h : a ∈ reached f as) :
    a ∈ as := by
  induction as with
  | nil => cases h
  | cons b as ih =>
    cases hb : (f b).result with
    | ok c =>
      rw [reached_of_ok hb] at h
      exact List.mem_cons.2 ((List.mem_cons.1 h).imp_right ih)
    | error e =>
      rw [reached_of_error hb] at h
      exact List.mem_cons.2 (.inl (List.mem_singleton.1 h))

theorem trail_mapM (f : α → Traced ε β) (as : List α) :
    (as.mapM f).trail = (reached f as).flatMap fun a ↦ (f a).trail := by
  induction as with
  | nil => rfl
  | cons a as ih =>
    rw [List.mapM_cons]
    cases ha : (f a).result with
    | ok b =>
      rw [reached_of_ok ha, List.flatMap_cons, ← ih, bind_of_ok ha]
      cases has : (as.mapM f).result with
      | ok bs =>
        rw [bind_of_ok has]
        exact congrArg _ (List.append_nil _)
      | error e => rw [bind_of_error has]
    | error e =>
      rw [reached_of_error ha, bind_of_error ha, List.flatMap_singleton]

theorem exists_of_mapM_eq_error {f : α → Traced ε β} {as : List α} {e : ε}
    (h : (as.mapM f).result = .error e) : ∃ a ∈ as, (f a).result = .error e := by
  obtain ⟨l, a, r, rfl, -, ha⟩ := mapM_eq_error_iff.1 h
  exact ⟨a, by simp, ha⟩

/-- What is left of a computation without its value. -/
def forget (r : Traced ε α) : Traced ε Unit := ⟨r.trail, r.result.map fun _ ↦ ()⟩

theorem forget_of_ok {r : Traced ε α} {a : α} (h : r.result = .ok a) :
    r.forget = ⟨r.trail, .ok ()⟩ := by
  rw [forget, h]
  rfl

theorem forget_of_error {r : Traced ε α} {e : ε} (h : r.result = .error e) :
    r.forget = ⟨r.trail, .error e⟩ := by
  rw [forget, h]
  rfl

theorem forget_result_eq_error_iff {r : Traced ε α} {e : ε} :
    r.forget.result = .error e ↔ r.result = .error e := by
  cases hr : r.result with
  | ok a =>
    rw [forget_of_ok hr]
    exact iff_of_false nofun nofun
  | error e' =>
    rw [forget_of_error hr, Except.error.injEq, Except.error.injEq]

theorem forget_bind_congr {γ δ : Type} {r : Traced ε α} {r' : Traced ε β} {f : α → Traced ε γ}
    {g : β → Traced ε δ} (h : r.forget = r'.forget) (hfg : ∀ a b, (f a).forget = (g b).forget) :
    (r >>= f).forget = (r' >>= g).forget := by
  obtain ⟨trail, result⟩ := r
  obtain ⟨trail', result'⟩ := r'
  obtain ⟨rfl, hresult⟩ := Traced.mk.inj h
  cases result with
  | error e =>
    cases result' with
    | error e' =>
      cases hresult
      rfl
    | ok b => cases hresult
  | ok a =>
    cases result' with
    | error e' => cases hresult
    | ok b =>
      obtain ⟨htrail, hresult⟩ := Traced.mk.inj (hfg a b)
      rw [bind_of_ok rfl, bind_of_ok rfl, forget, forget, htrail, hresult]

theorem forget_bind_pure (r : Traced ε α) (f : α → β) :
    (r >>= fun a ↦ Pure.pure (f a)).forget = r.forget := by
  have h := forget_bind_congr (g := Pure.pure) (f := fun a ↦ Pure.pure (f a)) (rfl : r.forget = _)
    fun _ _ ↦ rfl
  rwa [bind_pure] at h

theorem forget_mapM_flatMap {γ δ : Type} {run : β → Traced ε γ} {f : α → Traced ε δ}
    {g : α → List β} {as : List α} (h : ∀ a ∈ as, (f a).forget = ((g a).mapM run).forget) :
    (as.mapM f).forget = ((as.flatMap g).mapM run).forget := by
  induction as with
  | nil => rfl
  | cons a as ih =>
    have htail := ih fun b hb ↦ h b (List.mem_cons_of_mem a hb)
    rw [List.mapM_cons, List.flatMap_cons, List.mapM_append]
    refine forget_bind_congr (h a List.mem_cons_self) fun _ _ ↦ ?_
    exact forget_bind_congr htail fun _ _ ↦ rfl

/-- Two computations with the same events that fail alike or have related results. -/
inductive Alike (R : α → β → Prop) : Traced ε α → Traced ε β → Prop
  | ok (trail : List Event) {a : α} {b : β} (h : R a b) : Alike R ⟨trail, .ok a⟩ ⟨trail, .ok b⟩
  | error (trail : List Event) (e : ε) : Alike R ⟨trail, .error e⟩ ⟨trail, .error e⟩

namespace Alike

variable {R : α → β → Prop} {r : Traced ε α} {r' : Traced ε β}

theorem pure {a : α} {b : β} (h : R a b) :
    Alike R (Pure.pure a : Traced ε α) (Pure.pure b : Traced ε β) := .ok [] h

theorem refl {R : α → α → Prop} (hR : ∀ a, R a a) (r : Traced ε α) : Alike R r r := by
  obtain ⟨trail, result⟩ := r
  cases result with
  | ok a => exact .ok trail (hR a)
  | error e => exact .error trail e

theorem bind {γ δ : Type} {S : γ → δ → Prop} {f : α → Traced ε γ} {g : β → Traced ε δ}
    (h : Alike R r r') (hfg : ∀ a b, R a b → Alike S (f a) (g b)) :
    Alike S (r >>= f) (r' >>= g) := by
  cases h with
  | error trail e => exact .error trail e
  | @ok trail a b hab =>
    rw [bind_of_ok rfl, bind_of_ok rfl]
    have hcontinued := hfg a b hab
    generalize f a = s at hcontinued ⊢
    generalize g b = s' at hcontinued ⊢
    cases hcontinued with
    | ok trail' h => exact .ok _ h
    | error trail' e => exact .error _ e

theorem bind_pure {γ δ : Type} {S : γ → δ → Prop} {f : α → γ} {g : β → δ} (h : Alike R r r')
    (hfg : ∀ a b, R a b → S (f a) (g b)) :
    Alike S (r >>= fun a ↦ Pure.pure (f a)) (r' >>= fun b ↦ Pure.pure (g b)) :=
  h.bind fun a b hab ↦ .pure (hfg a b hab)

end Alike

end Traced

variable {α β : Type} {r : Except Mistake α}

theorem ofMistake_eq_ok_iff {a : α} : (Run.ofMistake r).result = .ok a ↔ r = .ok a := by
  cases r with
  | ok b =>
    constructor
    · rintro ⟨⟩
      rfl
    · rintro ⟨⟩
      rfl
  | error m => exact iff_of_false nofun nofun

theorem ofMistake_ne_invalid (r : Except Mistake α) (reason : Reason) :
    (Run.ofMistake r).result ≠ .error (.invalid reason) := by
  cases r <;> exact nofun

theorem bind_ofMistake_ok {a : α} (h : r = .ok a) (f : α → Run β) :
    Run.ofMistake r >>= f = f a :=
  Traced.bind_of_ok (ofMistake_eq_ok_iff.2 h) f

end Rulebook
