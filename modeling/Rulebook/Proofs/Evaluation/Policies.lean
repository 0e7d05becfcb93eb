import Rulebook.Pattern.Matching
import Rulebook.Proofs.Evaluation.Calls
import Rulebook.Proofs.Evaluation.Chain
import Rulebook.Proofs.Equality

namespace Rulebook

open Text

def Event.isWarning : Event → Bool
  | .warned _ => true
  | _ => false

def mixedFault : Fault := .mistake (.unreadable .mixedConnectives)

/-- The same result, and the same events but for the warnings of the first run. -/
def SameButWarnings (α : Type) (r r' : Run α) : Prop :=
  r.result = r'.result ∧ r.trail.filter (!·.isWarning) = r'.trail

/-- The same result, unless the first run refuses a rule that mixes connectives. -/
def SameUnlessDenied (α : Type) (r r' : Run α) : Prop :=
  r.result = r'.result ∨ r.result = .error mixedFault

theorem simulation_sameButWarnings : Simulation SameButWarnings where
  silent _ := ⟨rfl, rfl⟩
  bind {α β r r' f g} h hfg := by
    obtain ⟨hresult, htrail⟩ := h
    cases hr : r.result with
    | error f =>
      rw [Traced.bind_of_error hr, Traced.bind_of_error (hresult ▸ hr)]
      exact ⟨rfl, htrail⟩
    | ok a =>
      obtain ⟨hresult', htrail'⟩ := hfg a hr (hresult ▸ hr)
      rw [Traced.bind_of_ok hr, Traced.bind_of_ok (hresult ▸ hr)]
      exact ⟨hresult', by rw [List.filter_append, htrail, htrail']⟩
  settle {r r'} h := ⟨simulation_result.settle h.1, by rw [trail_settle, trail_settle, h.2]⟩

theorem simulation_sameUnlessDenied : Simulation SameUnlessDenied where
  silent _ := .inl rfl
  bind {α β r r' f g} h hfg := by
    obtain hresult | hdenied := h
    · cases hr : r.result with
      | error f =>
        rw [Traced.bind_of_error hr, Traced.bind_of_error (hresult ▸ hr)]
        exact .inl rfl
      | ok a =>
        rw [Traced.bind_of_ok hr, Traced.bind_of_ok (hresult ▸ hr)]
        exact hfg a hr (hresult ▸ hr)
    · rw [Traced.bind_of_error hdenied]
      exact .inr rfl
  settle {r r'} h := by
    obtain hresult | hdenied := h
    · exact .inl (simulation_result.settle hresult)
    · exact .inr (settle_eq_error_iff.2 ⟨hdenied, nofun⟩)

namespace Engine

variable {e : Engine}

def under (e : Engine) (p : Policy) : Engine := { e with policy := p }

section Simulation

variable {R : (α : Type) → Run α → Run α → Prop} (hR : Simulation R) {p p' : Policy}
  (hrecord : ∀ event : Event, event.isWarning = false →
    R Unit (Traced.record event) (Traced.record event))
  (hpolicies : ∀ r, R Unit ((e.under p).admitMixed r) ((e.under p').admitMixed r))

include hR hrecord hpolicies

theorem compile_simulate (text : String) :
    R Rule ((e.under p).compile text) ((e.under p').compile text) := by
  refine hR.bind (hR.silent _) fun r _ _ ↦ hR.bind (hpolicies r) fun _ _ _ ↦ ?_
  exact hR.bind (hR.silent _) fun _ _ _ ↦ hR.bind (hrecord _ rfl) fun _ _ _ ↦ hR.pure r

theorem obtain_simulate (source : Source) :
    R Rule ((e.under p).obtain source) ((e.under p').obtain source) := by
  cases source with
  | text text => exact compile_simulate hR hrecord hpolicies text
  | tree r =>
    rw [obtain, obtain]
    split
    · exact hR.silent (.error _)
    · exact hR.silent (.ok r)

theorem apply_simulate (hc : e.catalog.Closed) (context context' : Context) (source : Source)
    (input : Input) : R Outcome ((e.under p).apply context source input)
      ((e.under p').apply context' source input) := by
  induction source, input using call_induction (e := e.under p) (s := (e.under p).scope context)
    with
  | step source input ih =>
    rw [apply_eq_applyWith (e := e.under p) hc.contained,
      apply_eq_applyWith (e := e.under p') hc.contained]
    -- both policies obtain the same rule here, and its calls are related by the hypothesis
    refine hR.bind (obtain_simulate hR hrecord hpolicies source) fun r hr _ ↦ ?_
    refine hR.bind (hR.apply fun t ht ↦ hc.simulate hR fun a ha ↦ ?_) fun o _ _ ↦ ?_
    · exact ih a ⟨r, t, hr, ht, ha⟩
    · exact hR.bind (hrecord _ rfl) fun _ _ _ ↦ hR.pure o

end Simulation

theorem admitMixed_sameButWarnings (e : Engine) (r : Rule) :
    SameButWarnings Unit ((e.under .warn).admitMixed r) ((e.under .allow).admitMixed r) := by
  rw [admitMixed, admitMixed]
  split <;> exact ⟨rfl, rfl⟩

theorem admitMixed_sameUnlessDenied (e : Engine) (r : Rule) :
    SameUnlessDenied Unit ((e.under .deny).admitMixed r) ((e.under .allow).admitMixed r) := by
  rw [admitMixed, admitMixed]
  split
  · exact .inr rfl
  · exact .inl rfl

theorem admitMixed_eq_mixedFault_iff {r : Rule} :
    (e.admitMixed r).result = .error mixedFault ↔ e.policy = .deny ∧ r.anyMixed = true := by
  rw [admitMixed]
  cases r.anyMixed with
  | false =>
    refine iff_of_false (fun h ↦ ?_) fun h ↦ Bool.false_ne_true h.2
    cases h
  | true => cases e.policy <;> simp [Traced.pure, Traced.record, Traced.fail, mixedFault]

theorem compile_eq_mixedFault_iff {text : String} :
    (e.compile text).result = .error mixedFault ↔
      e.policy = .deny ∧ ∃ r, Rule.read e.limits text = .ok r ∧ r.anyMixed = true := by
  constructor
  · intro h
    obtain h | ⟨r, hread, h⟩ := Traced.bind_eq_error_iff.1 h
    · obtain ⟨m, hm, hfault⟩ := mapError_eq_error_iff.1 h
      obtain ⟨err, herr, rfl⟩ := mapError_eq_error_iff.1 hm
      cases hfault
      exact absurd herr (read_ne_mixedConnectives _ _)
    have hr := mapError_eq_ok_iff.1 (ofMistake_eq_ok_iff.1 hread)
    obtain h | ⟨_, -, h⟩ := Traced.bind_eq_error_iff.1 h
    · obtain ⟨hdeny, hmixed⟩ := admitMixed_eq_mixedFault_iff.1 h
      exact ⟨hdeny, r, hr, hmixed⟩
    obtain h | ⟨_, -, h⟩ := Traced.bind_eq_error_iff.1 h
    · obtain ⟨m, hm, hfault⟩ := mapError_eq_error_iff.1 h
      cases hfault
      obtain ⟨t, -, ht⟩ := exists_of_forM_eq_error hm
      exact absurd ht (e.catalog.check_ne_unreadable t _)
    obtain h | ⟨_, -, h⟩ := Traced.bind_eq_error_iff.1 h
    · cases h
    · cases h
  · intro h
    obtain ⟨hdeny, r, hr, hmixed⟩ := h
    refine Traced.bind_eq_error_iff.2 (.inr ⟨r, ?_, ?_⟩)
    · exact ofMistake_eq_ok_iff.2 (mapError_eq_ok_iff.2 hr)
    · refine Traced.bind_eq_error_iff.2 (.inl ?_)
      exact admitMixed_eq_mixedFault_iff.2 ⟨hdeny, hmixed⟩

theorem connectives_of_read {limits : Limits} {text : String} {r : Rule}
    (h : Rule.read limits text = .ok r) :
    r.connectives = (segments 0 (glyphs (unwrap text.toList))).2 := by
  have hr := (read_eq_ok_iff.1 h).2.2
  obtain ⟨levels, hlevels⟩ := Nat.exists_eq_succ_of_ne_zero (levels_pos_of_readLevel hr).ne'
  rw [hlevels] at hr
  obtain ⟨-, texts, leaves, capture, -, -, rfl⟩ := readLevel_succ_eq_ok_iff.1 hr
  exact connectives_groupsOf _

/-- With types that need no context, what a rule comes to depends neither on the context nor on
whether mixed connectives are allowed or warned of, and the warnings are the only trace of that.
Denying them changes nothing but that rules are refused, and a text is refused if it can be read
within the limits and some level of its tree has both connectives: those of the text itself stand
outside its brackets. -/
theorem apply_under (hc : e.catalog.Closed) (source : Source) (input : Input)
    (context context' : Context) :
    (∀ p, (e.under p).apply context source input = (e.under p).apply context' source input) ∧
    ((e.under .warn).apply context source input).result =
      ((e.under .allow).apply context' source input).result ∧
    ((e.under .warn).apply context source input).trail.filter (!·.isWarning) =
      ((e.under .allow).apply context' source input).trail ∧
    (∀ o, ((e.under .deny).apply context source input).result = .ok o →
      ((e.under .allow).apply context' source input).result = .ok o) ∧
    (((e.under .deny).apply context source input).result ≠
        ((e.under .allow).apply context' source input).result →
      ((e.under .deny).apply context source input).result = .error mixedFault) ∧
    ∀ text, ((e.under .deny).compile text).result = .error mixedFault ↔
      ∃ r, Rule.read e.limits text = .ok r ∧
        r.connectives = (segments 0 (glyphs (unwrap text.toList))).2 ∧
        ∃ s ∈ r.levels, .and ∈ s.connectives ∧ .or ∈ s.connectives := by
  have hwarn := apply_simulate simulation_sameButWarnings
    (fun event hevent ↦ ⟨rfl, by simp [Traced.record, hevent]⟩) (admitMixed_sameButWarnings e) hc
    context context' source input
  have hdeny := apply_simulate simulation_sameUnlessDenied (fun _ _ ↦ .inl rfl)
    (admitMixed_sameUnlessDenied e) hc context context' source input
  refine ⟨fun p ↦ ?_, hwarn.1, hwarn.2, fun o ho ↦ ?_, fun hne ↦ ?_, fun text ↦ ?_⟩
  · exact apply_simulate simulation_eq (fun _ _ ↦ rfl) (fun _ ↦ rfl) hc context context' source input
  · obtain hsame | hdenied := hdeny
    · exact hsame.symm.trans ho
    · cases hdenied.symm.trans ho
  · exact hdeny.resolve_left hne
  · rw [compile_eq_mixedFault_iff]
    constructor
    · intro h
      obtain ⟨-, r, hr, hmixed⟩ := h
      obtain ⟨s, hs, hmixes⟩ := Rule.anyMixed_iff.1 hmixed
      exact ⟨r, hr, connectives_of_read hr, s, hs, Rule.mixes_iff.1 hmixes⟩
    · intro h
      obtain ⟨r, hr, -, s, hs, hmixes⟩ := h
      exact ⟨rfl, r, hr, Rule.anyMixed_iff.2 ⟨s, hs, Rule.mixes_iff.2 hmixes⟩⟩

/-- The rule in the argument mixes its connectives, which is warned of once for each entry. In the
other text the brackets hold a level that does. -/
theorem apply_under_nested :
    let e : Engine := { catalog := .builtin }
    ((e.under .warn).apply [] (.text "dict[value(int || str && str)]")
        (.raw "a==b c==3")).trail.filter (!·.isWarning) =
      ((e.under .allow).apply [("k", .null)] (.text "dict[value(int || str && str)]")
        (.raw "a==b c==3")).trail ∧
    ((e.under .deny).compile "str && (int || bool && str)").result = .error mixedFault := by
  intro e
  obtain ⟨-, -, htrail, -, -, hcompile⟩ := apply_under (e := e) Catalog.closed_builtin
    (.text "dict[value(int || str && str)]") (.raw "a==b c==3") [] [("k", .null)]
  refine ⟨htrail, (hcompile _).2 ⟨⟨[.check "str", .nested ⟨[.check "int", .check "bool",
    .check "str"], [.combine .or 0 1, .combine .and 1 2], none⟩], [.combine .and 0 1], none⟩,
    by decide +kernel, by decide +kernel, ⟨[.check "int", .check "bool", .check "str"],
      [.combine .or 0 1, .combine .and 1 2], none⟩, ?_, ?_, ?_⟩⟩
  · simp [Rule.levels, Leaf.levels, levelsIn]
  · decide
  · decide

end Engine

end Rulebook
