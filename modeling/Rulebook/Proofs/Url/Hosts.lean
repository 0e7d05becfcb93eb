import Mathlib.Data.List.DropRight
import Mathlib.Data.List.TakeWhile
import Rulebook.Proofs.Catalog.Formatting
import Rulebook.Proofs.Text.Searching

namespace Rulebook

namespace Url

open Text

theorem dropUser_eq (cs : List Char) : dropUser cs = cs.rtakeWhile (· ≠ '@') := rfl

theorem dropUser_suffix (cs : List Char) : dropUser cs <:+ cs := List.rtakeWhile_suffix _ cs

theorem not_mem_dropUser (cs : List Char) : '@' ∉ dropUser cs := by
  rw [dropUser_eq]
  intro hmem
  have huser := List.mem_rtakeWhile_imp hmem
  simp at huser

theorem dropUser_append (a : List Char) {b : List Char} (hb : '@' ∉ b) :
    dropUser (a ++ b) = dropUser a ++ b := by
  have hall : ∀ c ∈ b.reverse, (decide (c ≠ '@')) = true := by
    intro c hc
    rw [decide_eq_true_iff]
    rintro rfl
    exact hb (List.mem_reverse.1 hc)
  rw [dropUser, List.reverse_append, List.takeWhile_append_of_pos hall, List.reverse_append,
    List.reverse_reverse]
  rfl

def bracketedAfter (bracketed : Bool) (c : Char) : Bool :=
  if c = '[' then true else if c = ']' then false else bracketed

theorem splitPort_colon (r : List Char) : splitPort false (':' :: r) = ([], some r) := rfl

theorem splitPort_next {bracketed : Bool} {c : Char} (h : c = ':' → bracketed = true)
    (r : List Char) : splitPort bracketed (c :: r) =
      (c :: (splitPort (bracketedAfter bracketed c) r).1,
        (splitPort (bracketedAfter bracketed c) r).2) := by
  rw [splitPort, if_neg (by simpa using h)]
  rfl

theorem splitPort_append_of_some {bracketed : Bool} {a port : List Char}
    (h : (splitPort bracketed a).2 = some port) (b : List Char) :
    (splitPort bracketed (a ++ b)).2 = some (port ++ b) := by
  induction a generalizing bracketed with
  | nil => cases h
  | cons c a ih =>
    by_cases hcolon : c = ':' → bracketed = true
    · rw [splitPort_next hcolon] at h
      rw [List.cons_append, splitPort_next hcolon]
      exact ih h
    · obtain ⟨rfl, hb⟩ := Classical.not_imp.1 hcolon
      rw [Bool.eq_false_of_not_eq_true hb, splitPort_colon] at h
      rw [Bool.eq_false_of_not_eq_true hb, List.cons_append, splitPort_colon, ← Option.some.inj h]

theorem mem_splitPort_append_of_none {bracketed : Bool} {a : List Char}
    (h : (splitPort bracketed a).2 = none) {c : Char} (hc : c ≠ ':') (b : List Char) :
    c ∈ (splitPort bracketed (a ++ c :: b)).1 := by
  induction a generalizing bracketed with
  | nil =>
    rw [List.nil_append, splitPort_next fun h ↦ absurd h hc]
    exact List.mem_cons_self
  | cons d a ih =>
    by_cases hcolon : d = ':' → bracketed = true
    · rw [splitPort_next hcolon] at h
      rw [List.cons_append, splitPort_next hcolon]
      exact List.mem_cons_of_mem d (ih h)
    · obtain ⟨rfl, hb⟩ := Classical.not_imp.1 hcolon
      rw [Bool.eq_false_of_not_eq_true hb, splitPort_colon] at h
      cases h

theorem splitPort_prefix (bracketed : Bool) (cs : List Char) :
    (splitPort bracketed cs).1 <+: cs := by
  induction cs generalizing bracketed with
  | nil => exact List.nil_prefix
  | cons c cs ih =>
    by_cases hcolon : c = ':' → bracketed = true
    · rw [splitPort_next hcolon]
      exact List.cons_prefix_cons.2 ⟨rfl, ih _⟩
    · obtain ⟨rfl, hb⟩ := Classical.not_imp.1 hcolon
      rw [Bool.eq_false_of_not_eq_true hb, splitPort_colon]
      exact List.nil_prefix

theorem checkPort_eq_ok {port : List Char} (h : checkPort port = .ok ()) :
    ∀ c ∈ port, Decimal.isDigit c = true := by
  rw [checkPort] at h
  split at h
  · rename_i hport
    exact List.all_eq_true.1 (Bool.and_eq_true_iff.1 hport).1
  · cases h

/-- Where the user, the host and the port stand in the text behind a protocol: it ends at the path,
the query or the fragment. -/
def authority (rest : List Char) : List Char :=
  rest.takeWhile fun c ↦ c ≠ '/' && c ≠ '?' && c ≠ '#'

theorem ne_of_mem_authority {rest : List Char} {c : Char} (hc : c ∈ authority rest) :
    c ≠ '/' ∧ c ≠ '?' ∧ c ≠ '#' := by
  simpa [and_assoc] using List.mem_takeWhile_imp hc

theorem authority_append {a : List Char} (ha : ∀ c ∈ a, c ≠ '/' ∧ c ≠ '?' ∧ c ≠ '#')
    (b : List Char) : authority (a ++ b) = a ++ authority b :=
  List.takeWhile_append_of_pos fun c hc ↦ by simp [ha c hc]

/-- The host, between a user and a port. -/
def hostOf (rest : List Char) : List Char := (splitPort false (dropUser (authority rest))).1

/-- The part of a text that is read as user, host and port. A backslash ends it, too. -/
def readAuthority (rest : List Char) : List Char :=
  ((rest.rdropWhile (· ≤ ' ')).dropWhile fun c ↦ c = '/' || c = '\\').takeWhile
    fun c ↦ !endsAuthority c

theorem checkPort_of_checkAuthority {rest : List Char} (h : checkAuthority rest = .ok ()) :
    checkPort ((splitPort false (dropUser (readAuthority rest))).2.getD []) = .ok () := by
  obtain ⟨_, -, hport⟩ := bind_eq_ok_iff.1 h
  exact hport

theorem rdropWhile_append_cons {p : Char → Bool} {c : Char} (hc : p c = false) (a b : List Char) :
    (a ++ c :: b).rdropWhile p = a ++ c :: b.rdropWhile p := by
  induction b using List.reverseRecOn with
  | nil => exact List.rdropWhile_concat_neg _ _ _ (by simp [hc])
  | append_singleton b d ih =>
    rw [← List.cons_append, ← List.append_assoc, List.rdropWhile_concat, List.rdropWhile_concat]
    split
    · exact ih
    · simp

theorem mem_takeWhile_of_prefix {p : Char → Bool} {a b : List Char} (h : a <+: b)
    (ha : ∀ c ∈ a, p c = true) {c : Char} (hc : c ∈ a) : c ∈ b.takeWhile p := by
  obtain ⟨r, rfl⟩ := h
  rw [List.takeWhile_append_of_pos ha]
  exact List.mem_append_left _ hc

theorem readAuthority_append {a : List Char} (ha : ∀ c ∈ a, endsAuthority c = false)
    (b : List Char) : ∃ d, readAuthority (a ++ '.' :: b) = a ++ '.' :: d ∧
      ∀ c ∈ d, c ∈ authority b := by
  let kept := b.rdropWhile (· ≤ ' ')
  have hkept : (a ++ '.' :: b).rdropWhile (· ≤ ' ') = a ++ '.' :: kept :=
    rdropWhile_append_cons (by decide) a b
  have hstart : (a ++ '.' :: kept).dropWhile (fun c ↦ c = '/' || c = '\\') = a ++ '.' :: kept := by
    cases a with
    | nil => rfl
    | cons c a =>
      have hc := ha c List.mem_cons_self
      simp only [endsAuthority, Bool.or_eq_false_iff, beq_eq_false_iff_ne] at hc
      rw [List.cons_append, List.dropWhile_cons_of_neg (by simp [hc])]
  have hunended : ∀ c ∈ a, (!endsAuthority c) = true := by
    intro c hc
    rw [ha c hc]
    rfl
  refine ⟨kept.takeWhile fun c ↦ !endsAuthority c, ?_, fun c hc ↦ ?_⟩
  · rw [readAuthority, hkept, hstart, List.takeWhile_append_of_pos hunended]
    rfl
  · refine mem_takeWhile_of_prefix
      ((List.takeWhile_prefix _).trans (List.rdropWhile_prefix _ b)) (fun e he ↦ ?_) hc
    have hends := List.mem_takeWhile_imp he
    simp only [endsAuthority, Bool.not_eq_true', Bool.or_eq_false_iff, beq_eq_false_iff_ne] at hends
    simp [hends]

theorem mem_host_of_checkPort {a b : List Char}
    (h : checkPort ((splitPort false (a ++ '.' :: b)).2.getD []) = .ok ()) (d : List Char) :
    '.' ∈ (splitPort false (a ++ '.' :: d)).1 := by
  cases hport : (splitPort false a).2 with
  | none => exact mem_splitPort_append_of_none hport (by decide) d
  | some port =>
    rw [splitPort_append_of_some hport] at h
    have hdigit := checkPort_eq_ok h '.' (List.mem_append_right port List.mem_cons_self)
    cases hdigit

theorem any_invisible_eq_false_iff {cs : List Char} :
    (cs.any fun c ↦ isBlank c || zeroWidth.contains c) = false ↔
      ∀ c ∈ cs, isBlank c = false ∧ c ∉ zeroWidth := by
  simp

/-- The text of an address: it starts with a protocol, and all its characters can be seen. -/
structure Address (cs protocol rest : List Char) : Prop where
  known : protocol = "http".toList ∨ protocol = "https".toList
  text : cs = protocol ++ "://".toList ++ rest
  visible : ∀ c ∈ cs, isBlank c = false ∧ c ∉ zeroWidth

theorem Address.cutAtWord_eq {cs protocol rest : List Char} (h : Address cs protocol rest) :
    cutAtWord "://".toList cs = some (protocol, rest) := by
  obtain ⟨rfl | rfl, rfl, -⟩ := h <;> rfl

theorem not_ne_and_ne_iff {p a b : List Char} : ¬ (p ≠ a && p ≠ b) = true ↔ p = a ∨ p = b := by
  simp [or_iff_not_imp_left]

theorem check_eq_ok_iff {text : String} : check text = .ok () ↔ ∃ protocol rest,
    Address text.toList protocol rest ∧ '.' ∈ rest.takeWhile (· ≠ '/') ∧
      checkAuthority rest = .ok () := by
  constructor
  · intro h
    rw [check] at h
    split at h
    · cases h
    rename_i hvisible
    cases hcut : cutAtWord "://".toList text.toList with
    | none =>
      rw [hcut] at h
      cases h
    | some p =>
      obtain ⟨protocol, rest⟩ := p
      simp only [hcut] at h
      split at h
      · cases h
      rename_i hprotocol
      split at h
      · cases h
      rename_i hpoint
      refine ⟨protocol, rest, ⟨?_, eq_append_of_cutAtWord hcut, ?_⟩, by simpa using hpoint, h⟩
      · exact not_ne_and_ne_iff.1 hprotocol
      · exact any_invisible_eq_false_iff.1 (Bool.eq_false_of_not_eq_true hvisible)
  · rintro ⟨protocol, rest, haddress, hpoint, hauthority⟩
    have hprotocol : ¬ (protocol ≠ "http".toList && protocol ≠ "https".toList) = true :=
      not_ne_and_ne_iff.2 haddress.known
    have hpoint' : ¬ (!(rest.takeWhile (· ≠ '/')).contains '.') = true := by simpa using hpoint
    rw [check, if_neg (Bool.eq_false_iff.1 (any_invisible_eq_false_iff.2 haddress.visible))]
    simp only [haddress.cutAtWord_eq]
    rw [if_neg hprotocol, if_neg hpoint', hauthority]

/-- The authority has a point with no `@` behind it and no backslash before it. -/
def Pointed (rest : List Char) : Prop := ∃ a b, authority rest = a ++ '.' :: b ∧ '@' ∉ b ∧ '\\' ∉ a

theorem mem_hostOf {rest : List Char} (h : checkAuthority rest = .ok ()) (hpoint : Pointed rest) :
    '.' ∈ hostOf rest := by
  obtain ⟨a, b, hab, huser, hslash⟩ := hpoint
  have hin : ∀ c ∈ a ++ ['.'], c ≠ '/' ∧ c ≠ '?' ∧ c ≠ '#' := by
    intro c hc
    have hmem : c ∈ authority rest := by
      rw [hab, List.append_cons]
      exact List.mem_append_left b hc
    exact ne_of_mem_authority hmem
  have hends : ∀ c ∈ a, endsAuthority c = false := by
    intro c hc
    have hne : c ≠ '\\' := fun heq ↦ hslash (heq ▸ hc)
    simp [endsAuthority, hin c (List.mem_append_left _ hc), hne]
  obtain ⟨r, hr⟩ : authority rest <+: rest := List.takeWhile_prefix _
  rw [hab, List.append_cons, List.append_assoc] at hr
  have hb : authority (b ++ r) = b := by
    rw [← hr, authority_append hin] at hab
    exact List.append_cancel_left (hab.trans (List.append_cons ..))
  -- what is read goes on behind the point with a part of `b`, so it has the same user and, if the
  -- point were in a port, the same host
  obtain ⟨d, hread, hd⟩ := readAuthority_append hends (b ++ r)
  rw [hb] at hd
  have huser' : '@' ∉ '.' :: d := by
    rw [List.mem_cons, not_or]
    exact ⟨by decide, fun hmem ↦ huser (hd '@' hmem)⟩
  have hport := checkPort_of_checkAuthority h
  rw [← hr, ← List.append_cons, hread, dropUser_append a huser'] at hport
  rw [hostOf, hab, dropUser_append a (by simpa using huser)]
  exact mem_host_of_checkPort hport b

theorem pointed_of_mem_hostOf {rest : List Char} (hslash : '\\' ∉ authority rest)
    (h : '.' ∈ hostOf rest) : Pointed rest := by
  obtain ⟨u, hu⟩ := dropUser_suffix (authority rest)
  obtain ⟨r, hr⟩ := splitPort_prefix false (dropUser (authority rest))
  obtain ⟨a, b, hab⟩ := List.append_of_mem h
  rw [hostOf] at hab
  have huser := not_mem_dropUser (authority rest)
  rw [← hr, hab] at hu huser
  refine ⟨u ++ a, b ++ r, by rw [← hu]; simp, fun hmem ↦ huser ?_, fun hmem ↦ hslash ?_⟩
  · rw [List.append_assoc, List.cons_append]
    exact List.mem_append_right _ (List.mem_cons_of_mem _ hmem)
  · rw [← hu, List.append_assoc, ← List.append_assoc u]
    exact List.mem_append_left _ hmem

/-- An accepted address is kept without the blanks around it. It has a point before the first slash,
and its host has one if there is one where the host can be. -/
theorem convert_hosted {scope : Scope} {text : String} {v : Value}
    (h : (convert scope text).result = .ok v) : v = .string (strip text) ∧
      ∃ protocol rest, Address (strip text).toList protocol rest ∧
        '.' ∈ rest.takeWhile (· ≠ '/') ∧ (Pointed rest → '.' ∈ hostOf rest) ∧
          ('\\' ∉ authority rest → '.' ∈ hostOf rest → Pointed rest) := by
  obtain ⟨hcheck, rfl⟩ := convert_eq_ok_iff.1 h
  obtain ⟨protocol, rest, haddress, hpoint, hauthority⟩ := check_eq_ok_iff.1 hcheck
  exact ⟨rfl, protocol, rest, haddress, hpoint, mem_hostOf hauthority, pointed_of_mem_hostOf⟩

theorem convert_hosted_address :
    (convert ⟨[], fun _ _ ↦ .pure (.invalid [])⟩
        "\t http://u.v:w@[::ffff:192.0.2.1]:80\\x/?@.# ").result =
      .ok (.string "http://u.v:w@[::ffff:192.0.2.1]:80\\x/?@.#") ∧
    Pointed "u.v:w@[::ffff:192.0.2.1]:80\\x/?@.#".toList ∧
    '.' ∈ hostOf "u.v:w@[::ffff:192.0.2.1]:80\\x/?@.#".toList := by
  have haddress : Address "http://u.v:w@[::ffff:192.0.2.1]:80\\x/?@.#".toList "http".toList
      "u.v:w@[::ffff:192.0.2.1]:80\\x/?@.#".toList :=
    ⟨.inl rfl, rfl, any_invisible_eq_false_iff.1 (by cbv)⟩
  have hok : check "http://u.v:w@[::ffff:192.0.2.1]:80\\x/?@.#" = .ok () :=
    check_eq_ok_iff.2 ⟨_, _, haddress, by decide, by cbv⟩
  have hpointed : Pointed "u.v:w@[::ffff:192.0.2.1]:80\\x/?@.#".toList :=
    ⟨"u.v:w@[::ffff:192.0.2".toList, "1]:80\\x".toList, by decide, by decide, by decide⟩
  have hstrip : strip "\t http://u.v:w@[::ffff:192.0.2.1]:80\\x/?@.# " =
      "http://u.v:w@[::ffff:192.0.2.1]:80\\x/?@.#" := by cbv
  have hconvert : (convert ⟨[], fun _ _ ↦ .pure (.invalid [])⟩
      "\t http://u.v:w@[::ffff:192.0.2.1]:80\\x/?@.# ").result = .ok _ :=
    convert_eq_ok_iff.2 ⟨hstrip ▸ hok, rfl⟩
  obtain ⟨hv, protocol, rest, haddress', -, hhost, -⟩ := convert_hosted hconvert
  rw [hstrip] at haddress'
  cases haddress.cutAtWord_eq.symm.trans haddress'.cutAtWord_eq
  exact ⟨by rw [hconvert, hv, hstrip], hpointed, hhost hpointed⟩

/-- A point in the query can stand in for one in the host. -/
theorem not_forall_hosted : ¬ ∀ (scope : Scope) (text : String) (v : Value),
    (convert scope text).result = .ok v →
      ∃ protocol rest, Address (strip text).toList protocol rest ∧ '.' ∈ hostOf rest := by
  intro h
  have haddress : Address "http://[::1]?v=1.2".toList "http".toList "[::1]?v=1.2".toList :=
    ⟨.inl rfl, rfl, any_invisible_eq_false_iff.1 (by cbv)⟩
  have hok : check "http://[::1]?v=1.2" = .ok () :=
    check_eq_ok_iff.2 ⟨_, _, haddress, by decide, by cbv⟩
  have hstrip : strip "http://[::1]?v=1.2" = "http://[::1]?v=1.2" := by cbv
  obtain ⟨protocol, rest, haddress', hpoint⟩ := h ⟨[], fun _ _ ↦ .pure (.invalid [])⟩
    "http://[::1]?v=1.2" _ (convert_eq_ok_iff.2 ⟨hstrip ▸ hok, rfl⟩)
  rw [hstrip] at haddress'
  cases haddress.cutAtWord_eq.symm.trans haddress'.cutAtWord_eq
  revert hpoint
  decide

end Url

end Rulebook
