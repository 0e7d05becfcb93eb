import Rulebook.Proofs.Evaluation.Termination

namespace Rulebook.Engine

variable {e : Engine} {context : Context} {source : Source} {input : Input} {run run' : Run Outcome}
  {levels levels' depth : Nat}

/-- What applying a rule comes to where nothing bounds the depth, for types of any kind, those that
apply rules of their own among them. The run hangs on nothing but the rules that are asked for on the
way. They come to runs of their own, in fewer levels. -/
inductive Yields (e : Engine) (context : Context) : Nat → Source → Input → Run Outcome → Prop
  | intro {levels : Nat} {source : Source} {input : Input} (asked : Source → Input → Prop)
      (answers : Source → Input → Run Outcome)
      (h : ∀ s i, asked s i → Yields e context levels s i (answers s i))
      (hasked : ∀ answers' : Source → Input → Run Outcome,
        (∀ s i, asked s i → answers' s i = answers s i) →
          e.applyWith (fun _ ↦ ⟨context, answers'⟩) source input =
            e.applyWith (fun _ ↦ ⟨context, answers⟩) source input) :
      Yields e context (levels + 1) source input
        (e.applyWith (fun _ ↦ ⟨context, answers⟩) source input)

namespace Yields

theorem mono (h : e.Yields context levels source input run) (hle : levels ≤ levels') :
    e.Yields context levels' source input run := by
  induction h generalizing levels' with
  | intro asked answers _ hasked ih =>
    obtain ⟨levels', rfl⟩ := Nat.exists_eq_succ_of_ne_zero (Nat.ne_zero_of_lt hle)
    exact .intro asked answers (fun s i hs ↦ ih s i hs (Nat.le_of_succ_le_succ hle)) hasked

theorem applyWithin_eq (h : e.Yields context levels source input run) (hle : levels ≤ depth) :
    e.applyWithin depth context source input = run := by
  induction h generalizing depth with
  | intro asked answers _ hasked ih =>
    obtain ⟨depth, rfl⟩ := Nat.exists_eq_succ_of_ne_zero (Nat.ne_zero_of_lt hle)
    rw [applyWithin]
    exact hasked _ fun s i hs ↦ ih s i hs (Nat.le_of_succ_le_succ hle)

theorem unique (h : e.Yields context levels source input run)
    (h' : e.Yields context levels' source input run') : run = run' :=
  (h.applyWithin_eq (Nat.le_max_left levels levels')).symm.trans
    (h'.applyWithin_eq (Nat.le_max_right levels levels'))

end Yields

theorem apply_eq_applyWithin {r : Rule} (hr : (e.obtain source).result = .ok r) (context : Context)
    (input : Input) : e.apply context source input =
      e.applyWithin (longest r.checks + spareDepth + 1) context source input := by
  rw [apply, applyWithin, applyWith, applyWith]
  refine Traced.bind_congr fun r' hr' ↦ ?_
  obtain rfl := Except.ok.inj (hr.symm.trans hr')
  rfl

/-- The engine gives what rules come to, as long as they are nested in no more than the levels it has
to spare. -/
theorem Yields.apply_eq (h : e.Yields context levels source input run)
    (hle : levels ≤ spareDepth + 1) : e.apply context source input = run := by
  cases hr : (e.obtain source).result with
  | ok r =>
    rw [apply_eq_applyWithin hr]
    exact h.applyWithin_eq (by omega)
  | error f =>
    cases h
    rw [apply, applyWith, applyWith]
    refine Traced.bind_congr fun r hr' ↦ ?_
    cases hr.symm.trans hr'

theorem Yields.of_shorter (hc : e.catalog.Contained) {n : Nat}
    (hchecks : ∀ r, (e.obtain source).result = .ok r → ∀ t ∈ r.checks, t.length ≤ n)
    (h : ∀ text i, text.length < n →
      e.Yields context n (.text text) i (e.apply context (.text text) i)) (input : Input) :
    e.Yields context (n + 1) source input (e.apply context source input) := by
  have hsame (answers : Source → Input → Run Outcome)
      (hanswers : ∀ text i, text.length < n →
        answers (.text text) i = e.apply context (.text text) i) :
      e.applyWith (fun _ ↦ ⟨context, answers⟩) source input = e.apply context source input := by
    rw [apply_eq_applyWith hc]
    refine applyWith_congr hc (fun _ ↦ by rw [scope]) (fun r hr t ht text i htext ↦ ?_) input
    have hcheck := hchecks r hr t ht
    rw [scope]
    exact hanswers text i (by omega)
  rw [← hsame (e.apply context) fun _ _ _ ↦ rfl]
  refine .intro (fun s _ ↦ ∃ text, s = .text text ∧ text.length < n) (e.apply context) ?_ ?_
  · rintro _ i ⟨text, rfl, htext⟩
    exact h text i htext
  · intro answers' h'
    rw [hsame (e.apply context) fun _ _ _ ↦ rfl]
    exact hsame answers' fun text i htext ↦ h' _ i ⟨text, rfl, htext⟩

theorem yields_text (hc : e.catalog.Contained) (context : Context) (text : String) (input : Input) :
    e.Yields context (text.length + 1) (.text text) input (e.apply context (.text text) input) := by
  induction hn : text.length using Nat.strong_induction_on generalizing text input with
  | _ n ih =>
    refine .of_shorter hc (fun r hr t ht ↦ ?_) (fun inner i hinner ↦ ?_) input
    · rw [← hn]
      exact Rule.length_check_le_of_read (read_of_compile hr) ht
    · exact (ih inner.length hinner inner i rfl).mono hinner

/-- With contained types every rule comes to something, and that is what the engine gives. -/
theorem yields_iff (hc : e.catalog.Contained) :
    (∃ levels, e.Yields context levels source input run) ↔ run = e.apply context source input := by
  obtain ⟨n, hn⟩ : ∃ n, ∀ r, (e.obtain source).result = .ok r → ∀ t ∈ r.checks, t.length ≤ n := by
    cases hr : (e.obtain source).result with
    | error f => exact ⟨0, nofun⟩
    | ok r =>
      refine ⟨longest r.checks, fun r' hr' t ht ↦ ?_⟩
      obtain rfl := Except.ok.inj hr'
      exact (Text.length_le_utf8ByteSize t).trans (utf8ByteSize_le_longest ht)
  have happly : e.Yields context (n + 1) source input (e.apply context source input) :=
    .of_shorter hc hn (fun text i htext ↦ (yields_text hc context text i).mono htext) input
  constructor
  · rintro ⟨levels, h⟩
    exact h.unique happly
  · rintro rfl
    exact ⟨n + 1, happly⟩

theorem ends_iff_yields (hc : e.catalog.Closed) :
    e.Ends context source input run ↔ ∃ levels, e.Yields context levels source input run := by
  rw [yields_iff hc.contained]
  constructor
  · exact fun h ↦ h.eq_apply hc
  · rintro rfl
    exact ends_apply hc context source input

end Rulebook.Engine
