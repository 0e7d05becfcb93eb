import Mathlib
import Rulebook.Command.Run
import Rulebook.Proofs.Results
import Rulebook.Proofs.Text.Lossy
import Rulebook.Proofs.Equality

namespace Rulebook

open Text

structure Path.Short (path : String) : Prop where
  total : path.utf8ByteSize ≤ 4096
  components : ∀ c ∈ Path.components path, c.utf8ByteSize ≤ 255

theorem Path.short_iff {path : String} :
    Short path ↔ isLong path = false ∧ hasLongComponent path = false := by
  have hlong : isLong path = false ↔ path.utf8ByteSize ≤ 4096 := by
    rw [isLong, decide_eq_false_iff_not, Nat.not_lt]
    rfl
  have hcomponent :
      hasLongComponent path = false ↔ ∀ c ∈ Path.components path, c.utf8ByteSize ≤ 255 := by
    rw [hasLongComponent, List.any_eq_false]
    refine forall₂_congr fun c _ ↦ ?_
    rw [decide_eq_true_eq, Nat.not_lt]
    rfl
  rw [hlong, hcomponent]
  exact ⟨fun h ↦ ⟨h.total, h.components⟩, fun h ↦ ⟨h.1, h.2⟩⟩

theorem fromUTF8?_eq_some_iff {content : ByteArray} {text : String} :
    String.fromUTF8? content = some text ↔ content = text.toUTF8 := by
  rw [String.fromUTF8?]
  split
  · rw [Option.some_inj]
    constructor
    · rintro rfl
      rfl
    · exact fun h ↦ String.toByteArray_inj.1 h
  · rename_i h
    refine iff_of_false nofun fun hcontent ↦ h ?_
    rw [hcontent]
    exact text.isValidUTF8

theorem toList_toUTF8 (text : String) :
    text.toUTF8.data.toList = text.toList.flatMap String.utf8EncodeChar := by
  have hbytes : text.toUTF8 = text.toList.utf8Encode := by
    rw [← String.toByteArray_ofList, String.ofList_toList]
    rfl
  rw [hbytes, List.utf8Encode, List.toList_data_toByteArray]

@[simp]
theorem Path.shown_ofText (text : String) : (ofText text).shown = text := by
  rw [shown, ofText, toList_toUTF8, lossy_utf8Encode, String.ofList_toList]

/-- The bounds for paths, in bytes. -/
structure Path.Bounded (p : Path) : Prop where
  total : p.bytes.size ≤ 4096
  components : ∀ c ∈ p.bytes.data.toList.splitOn 0x2f, c.length ≤ 255

theorem utf8ByteSize_lossy_le (bs : List UInt8) :
    bs.length ≤ (String.ofList (lossy bs)).utf8ByteSize := by
  rw [utf8ByteSize_ofList]
  exact length_le_size_lossy bs

theorem Path.Short.bounded {p : Path} (h : Short p.shown) : p.Bounded where
  total := (utf8ByteSize_lossy_le _).trans h.total
  components c hc := by
    have hmem : String.ofList (lossy c) ∈ Path.components p.shown := by
      rw [Path.components, shown, String.toList_ofList, splitAt_lossy, List.map_map]
      exact List.mem_map_of_mem hc
    exact (utf8ByteSize_lossy_le c).trans (h.components _ hmem)

def Entry.decoded : Entry → Except ConfigFault String
  | .absent why | .closed why => .error (@ConfigFault.inaccessible why)
  | .file content =>
    if maxFileBytes < content.size then .error (.refused .largeFile)
    else match String.fromUTF8? content with
      | some text => .ok text
      | none => .error (.refused .badEncoding)

theorem Entry.read_eq (e : Entry) (path : Path) : e.read path =
    if Path.isLong path.shown then .error (.refused .longPath)
    else if Path.hasLongComponent path.shown then .error (.refused .longComponent)
    else e.decoded := by
  rw [Entry.read.eq_def]
  cases Path.isLong path.shown with
  | true => rfl
  | false =>
    cases Path.hasLongComponent path.shown with
    | true => cases e <;> rfl
    | false =>
      cases e with
      | absent why => rfl
      | closed why => rfl
      | file content =>
        by_cases hsize : maxFileBytes < content.size
        · simp only [decoded, hsize, if_true]
          rfl
        · simp only [decoded, hsize, if_false]
          rfl

theorem Entry.decoded_eq_ok_iff {e : Entry} {text : String} :
    e.decoded = .ok text ↔ e = .file text.toUTF8 ∧ text.toUTF8.size ≤ 1048576 := by
  have hmax : maxFileBytes = 1048576 := rfl
  cases e with
  | absent why => exact iff_of_false nofun fun h ↦ nomatch h.1
  | closed why => exact iff_of_false nofun fun h ↦ nomatch h.1
  | file content =>
    rw [decoded, Entry.file.injEq, ← fromUTF8?_eq_some_iff]
    split
    · rename_i hsize
      refine iff_of_false nofun fun h ↦ ?_
      rw [fromUTF8?_eq_some_iff.1 h.1] at hsize
      omega
    · rename_i hsize
      split
      · rename_i text' htext
        rw [htext, Except.ok.injEq, Option.some_inj]
        refine (and_iff_left_of_imp ?_).symm
        rintro rfl
        rw [← fromUTF8?_eq_some_iff.1 htext]
        omega
      · rename_i htext
        exact iff_of_false nofun fun h ↦ nomatch htext.symm.trans h.1

theorem Entry.read_eq_ok_iff {e : Entry} {path : Path} {text : String} :
    e.read path = .ok text ↔
      Path.Short path.shown ∧ e = .file text.toUTF8 ∧ text.toUTF8.size ≤ 1048576 := by
  rw [Path.short_iff, Entry.read_eq, ← Entry.decoded_eq_ok_iff]
  cases Path.isLong path.shown with
  | true => exact iff_of_false nofun fun h ↦ nomatch h.1.1
  | false =>
    cases Path.hasLongComponent path.shown with
    | true => exact iff_of_false nofun fun h ↦ nomatch h.1.2
    | false => exact (and_iff_right ⟨rfl, rfl⟩).symm

theorem Limits.check_eq_ok_iff {l : Limits} : l.check = .ok () ↔
    (1 ≤ l.bytes ∧ l.bytes ≤ 1048576) ∧ 1 ≤ l.depth ∧ l.depth ≤ 128 := by
  have hbytes : ceiling.bytes = 1048576 := rfl
  have hdepth : ceiling.depth = 128 := rfl
  rw [check]
  split
  · exact iff_of_false nofun (by omega)
  · split
    · exact iff_of_false nofun (by omega)
    · exact iff_of_true rfl (by omega)

theorem Sink.ofWord_eq_ok_iff {word : String} {path : Option String} {s : Sink}
    (hword : word ∈ ["none", "stderr", "file"]) :
    Sink.ofWord word path = .ok s ↔ word = s.word ∧ path = s.path? ∧
      ∀ p ∈ s.path?, trim p.toList ≠ [] ∧ Path.Short p := by
  have hwords : word = "none" ∨ word = "stderr" ∨ word = "file" := by simpa using hword
  cases path with
  | none => obtain rfl | rfl | rfl := hwords <;> cases s <;> simp [ofWord, Sink.word, path?]
  | some path =>
    have hlog : (∀ p ∈ some path, trim p.toList ≠ [] ∧ Path.Short p) ↔
        (trim path.toList).isEmpty = false ∧ Path.isLong path = false ∧
          Path.hasLongComponent path = false := by
      simp [Path.short_iff]
    have hiff : (word = s.word ∧ some path = s.path?) ↔ word = "file" ∧ s = .file path := by
      cases s <;> simp [Sink.word, path?, eq_comm]
    rw [← and_assoc, hiff, ofWord]
    by_cases hfile : word = "file"
    · rw [if_neg (not_not.2 hfile)]
      constructor
      · intro h
        split_ifs at h with hblank hlong hcomponent
        cases h
        exact ⟨⟨hfile, rfl⟩, hlog.2 (by simp [hblank, hlong, hcomponent])⟩
      · rintro ⟨⟨-, rfl⟩, hpath⟩
        obtain ⟨hblank, hlong, hcomponent⟩ := hlog.1 hpath
        simp [hblank, hlong, hcomponent]
    · rw [if_pos hfile]
      exact iff_of_false nofun fun h ↦ hfile h.1.1

def Variable.path? : Variable → Option Path
  | unset => none
  | set value => some ⟨value⟩

namespace Settings

structure Sound (s : Settings) : Prop where
  bytes : 1 ≤ s.limits.bytes ∧ s.limits.bytes ≤ 1048576
  depth : 1 ≤ s.limits.depth ∧ s.limits.depth ≤ 128
  path_iff : s.sink.path?.isSome = true ↔ s.sink.word = "file"
  path : ∀ path ∈ s.sink.path?, trim path.toList ≠ [] ∧ Path.Short path

/-- The settings are what the sections of a text say, defaults included. -/
def Declares (text : String) (s : Settings) : Prop :=
  ∃ entries, Toml.read? text.toList = some entries ∧ (∀ e ∈ entries, e.1 ∈ sections) ∧
    limits? (entries.lookup "limits") = some s.limits ∧
    policy? (entries.lookup "compiler") = some s.policy ∧
    audit? (entries.lookup "audit") = some (s.sink.word, s.sink.path?)

/-- A file with a short path holds a text of moderate size. -/
structure Holds (look : Path → Entry) (path : Path) (text : String) : Prop where
  short : Path.Short path.shown
  stands : look path = .file text.toUTF8
  small : text.toUTF8.size ≤ 1048576

/-- No path is asked for, the environment has no text for one, and at the usual path there is
nothing to be found. -/
structure LeftOut (look : Path → Entry) (environment : Variable) (path : Option Path) : Prop where
  path : path = none
  environment : environment.text? = none
  usual : (look (.ofText "argrule.toml")).exists = false

/-- The path that is asked for, or else the one in the environment, or else the usual one. -/
def chosen (environment : Variable) (path : Option Path) : Path :=
  path.getD (.ofText (environment.text?.getD "argrule.toml"))

/-- The variable is not set, or it is set to a text. -/
def Legible (environment : Variable) : Prop :=
  environment = .unset ∨ ∃ text : String, environment = .set text.toUTF8

theorem leftOut_iff_of_legible {look : Path → Entry} {environment : Variable} {path : Option Path}
    (h : Legible environment) : LeftOut look environment path ↔
      path = none ∧ environment = .unset ∧ (look (.ofText "argrule.toml")).exists = false := by
  have hunset : environment.text? = none ↔ environment = .unset := by
    obtain rfl | ⟨text, rfl⟩ := h
    · exact iff_of_true rfl rfl
    · rw [Variable.text?, fromUTF8?_eq_some_iff.2 rfl]
      exact iff_of_false nofun nofun
  rw [← hunset]
  exact ⟨fun h ↦ ⟨h.path, h.environment, h.usual⟩, fun h ↦ ⟨h.1, h.2.1, h.2.2⟩⟩

theorem chosen_of_legible {environment : Variable} (h : Legible environment)
    (path : Option Path) : chosen environment path =
      path.getD (environment.path?.getD (.ofText "argrule.toml")) := by
  obtain rfl | ⟨text, rfl⟩ := h
  · rfl
  · rw [chosen, Variable.text?, fromUTF8?_eq_some_iff.2 rfl]
    rfl

theorem sound_iff {s : Settings} : s.Sound ↔ s.limits.check = .ok () ∧
    ∀ path ∈ s.sink.path?, trim path.toList ≠ [] ∧ Path.Short path := by
  have hpath : s.sink.path?.isSome = true ↔ s.sink.word = "file" := by
    cases s.sink <;> simp [Sink.path?, Sink.word]
  rw [Limits.check_eq_ok_iff]
  exact ⟨fun h ↦ ⟨⟨h.bytes, h.depth⟩, h.path⟩, fun h ↦ ⟨h.1.1, h.1.2, hpath, h.2⟩⟩

theorem word_of_audit? {n : Option Toml.Node} {word : String} {path : Option String}
    (h : audit? n = some (word, path)) : word ∈ ["none", "stderr", "file"] := by
  rw [audit?] at h
  obtain ⟨values, -, h⟩ := Option.bind_eq_some_iff.1 h
  split at h
  · rename_i sink _
    obtain ⟨word', hword, h⟩ := Option.bind_eq_some_iff.1 h
    obtain ⟨path', -, h⟩ := Option.bind_eq_some_iff.1 h
    cases h
    cases sink with
    | none =>
      obtain rfl : "none" = word := Option.some.inj hword
      decide
    | some n =>
      have hfilter : (word? n).filter ["none", "stderr", "file"].contains = some word := hword
      exact List.contains_iff_mem.1 (Option.filter_eq_some_iff.1 hfilter).2
  · cases h

theorem declared?_eq_some_iff {entries : Toml.Entries} {limits : Limits} {policy : Policy}
    {word : String} {path : Option String} :
    declared? entries = some (limits, policy, word, path) ↔ (∀ e ∈ entries, e.1 ∈ sections) ∧
      limits? (entries.lookup "limits") = some limits ∧
      policy? (entries.lookup "compiler") = some policy ∧
      audit? (entries.lookup "audit") = some (word, path) := by
  have hknown : (entries.all fun e ↦ sections.contains e.1) = true ↔
      ∀ e ∈ entries, e.1 ∈ sections := by simp
  rw [declared?, ← hknown]
  dsimp only
  cases (entries.all fun e ↦ sections.contains e.1) <;>
    cases limits? (entries.lookup "limits") <;> cases policy? (entries.lookup "compiler") <;>
    cases audit? (entries.lookup "audit") <;> simp

theorem locate_of_text {environment : Variable} {text : String}
    (h : environment.text? = some text) : locate environment none =
      if Path.isLong text then .error (.refused .longPath) else .ok (.ofText text, true) := by
  simp only [locate, h]

theorem locate_of_no_text {environment : Variable} (h : environment.text? = none) :
    locate environment none = .ok (.ofText "argrule.toml", false) := by
  simp only [locate, h, defaultPath]

theorem sound_default : ({} : Settings).Sound where
  bytes := by decide
  depth := by decide
  path_iff := by decide
  path := nofun

/-- What comes of making an engine of settings once their log has been opened, or not. -/
def started [PatternLibrary] (s : Settings) : Except String Unit → Except ConfigFault Engine
  | .ok () => .ok s.engine
  | .error why => .error (@ConfigFault.inaccessible why)

theorem start_run [PatternLibrary] {m : Type → Type} [Monad m] [LawfulMonad m] (s : Settings)
    (host : Host m) : (s.start host).run = match s.sink.path? with
      | some path => s.started <$> host.append path ""
      | none => pure (.ok s.engine) := by
  rw [start]
  cases s.sink with
  | off => rfl
  | stderr => rfl
  | file path =>
    dsimp only [Sink.path?]
    rw [ExceptT.run_bind, ExceptT.run_mk, bind_assoc, map_eq_pure_bind]
    refine bind_congr fun opened ↦ ?_
    rw [pure_bind]
    cases opened <;> rfl

section Wordings

variable [Wording]

theorem read_eq_ok_iff {text : String} {s : Settings} :
    read text = .ok s ↔ Declares text s ∧ s.Sound := by
  rw [read, Declares]
  cases Toml.read? text.toList with
  | none => exact iff_of_false nofun fun ⟨⟨_, h, _⟩, _⟩ ↦ nomatch h
  | some entries =>
    simp only [Option.some.injEq, exists_eq_left', Option.bind_some, ← declared?_eq_some_iff]
    cases hdeclared : declared? entries with
    | none => exact iff_of_false nofun fun h ↦ nomatch h.1
    | some values =>
      obtain ⟨limits, policy, word, path⟩ := values
      have hword := word_of_audit? (declared?_eq_some_iff.1 hdeclared).2.2.2
      dsimp only
      rw [mapError_eq_ok_iff, bind_eq_ok_iff, sound_iff]
      constructor
      · rintro ⟨_, hcheck, h⟩
        obtain ⟨sink, hsink, h⟩ := bind_eq_ok_iff.1 h
        cases h
        obtain ⟨rfl, rfl, hpath⟩ := (Sink.ofWord_eq_ok_iff hword).1 hsink
        exact ⟨rfl, hcheck, hpath⟩
      · rintro ⟨h, hcheck, hpath⟩
        cases h
        exact ⟨(), hcheck,
          bind_eq_ok_iff.2 ⟨_, (Sink.ofWord_eq_ok_iff hword).2 ⟨rfl, rfl, hpath⟩, rfl⟩⟩

theorem ofEntry_of_exists {path : Path} {isRequired : Bool} {e : Entry} (h : e.exists = true) :
    ofEntry path isRequired e = (e.read path).bind read := by
  rw [ofEntry, h]
  cases isRequired <;> rfl

theorem load_eq {look : Path → Entry} {environment : Variable} {path : Option Path}
    (h : ¬ LeftOut look environment path) : load look environment path =
      ((look (chosen environment path)).read (chosen environment path)).bind read := by
  cases path with
  | some p => rfl
  | none =>
    rw [load, chosen, Option.getD_none]
    cases htext : environment.text? with
    | some text =>
      rw [locate_of_text htext, Option.getD_some]
      split
      · rename_i hlong
        rw [Entry.read_eq, Path.shown_ofText, if_pos hlong]
        rfl
      · rfl
    | none =>
      rw [locate_of_no_text htext, Option.getD_none]
      refine ofEntry_of_exists ?_
      by_contra hlook
      exact h ⟨rfl, htext, Bool.eq_false_of_not_eq_true hlook⟩

theorem load_of_leftOut {look : Path → Entry} {environment : Variable} {path : Option Path}
    (h : LeftOut look environment path) : load look environment path = .ok {} := by
  obtain ⟨rfl, htext, hlook⟩ := h
  rw [load, locate_of_no_text htext]
  show ofEntry (.ofText "argrule.toml") false (look (.ofText "argrule.toml")) = .ok {}
  rw [ofEntry, hlook]
  rfl

theorem exists_read_of_load {look : Path → Entry} {environment : Variable} {path : Option Path}
    {s : Settings} (h : load look environment path = .ok s) :
    s = {} ∨ ∃ text, read text = .ok s := by
  by_cases hdefault : LeftOut look environment path
  · exact .inl (Except.ok.inj (h.symm.trans (load_of_leftOut hdefault)))
  · rw [load_eq hdefault] at h
    obtain ⟨text, -, hread⟩ := bind_eq_ok_iff.1 h
    exact .inr ⟨text, hread⟩

/-- Loading gives the defaults where the path is left out. In every other case it gives what is read
from the text that the chosen file holds, at a path within the bounds, and a fault if there is no such
text. A variable that is set to a text counts as a path; one that is set to other bytes does not. What
is loaded or read is in range and says what the text does; an engine with these limits and this policy
is made of it, if the log can be opened. -/
theorem load_fails_closed [PatternLibrary] (look : Path → Entry) (environment : Variable)
    (path : Option Path) :
    (LeftOut look environment path → load look environment path = .ok {}) ∧
    (¬ LeftOut look environment path →
      (∀ text, Holds look (chosen environment path) text →
        (chosen environment path).Bounded ∧ load look environment path = read text) ∧
      ((¬ ∃ text, Holds look (chosen environment path) text) →
        ∃ f, load look environment path = .error f)) ∧
    (Legible environment →
      (LeftOut look environment path ↔ path = none ∧ environment = .unset ∧
        (look (.ofText "argrule.toml")).exists = false) ∧
      chosen environment path = path.getD (environment.path?.getD (.ofText "argrule.toml"))) ∧
    (∀ text s, read text = .ok s → Declares text s) ∧
    ∀ s, (load look environment path = .ok s ∨ ∃ text, read text = .ok s) →
      s.Sound ∧ s.engine.limits = s.limits ∧ s.engine.policy = s.policy ∧
      ∀ {m : Type → Type} [Monad m] [LawfulMonad m] (host : Host m),
        (s.start host).run = match s.sink.path? with
          | some path => s.started <$> host.append path ""
          | none => pure (.ok s.engine) := by
  refine ⟨load_of_leftOut, fun hchosen ↦ ⟨fun text hholds ↦ ?_, fun hnone ↦ ?_⟩,
    fun hlegible ↦ ⟨leftOut_iff_of_legible hlegible, chosen_of_legible hlegible path⟩, ?_,
    fun s hs ↦ ?_⟩
  · refine ⟨hholds.short.bounded, ?_⟩
    rw [load_eq hchosen, Entry.read_eq_ok_iff.2 ⟨hholds.short, hholds.stands, hholds.small⟩]
    rfl
  · rw [load_eq hchosen]
    cases hread : (look (chosen environment path)).read (chosen environment path) with
    | error f => exact ⟨f, rfl⟩
    | ok text =>
      obtain ⟨hshort, hstands, hsmall⟩ := Entry.read_eq_ok_iff.1 hread
      exact absurd ⟨text, hshort, hstands, hsmall⟩ hnone
  · exact fun text s h ↦ (read_eq_ok_iff.1 h).1
  · have hsound : s.Sound := by
      obtain hload | ⟨text, hread⟩ := hs
      · obtain rfl | ⟨text, hread⟩ := exists_read_of_load hload
        · exact sound_default
        · exact (read_eq_ok_iff.1 hread).2
      · exact (read_eq_ok_iff.1 hread).2
    exact ⟨hsound, rfl, rfl, fun host ↦ start_run s host⟩

end Wordings

theorem load_fails_closed_log :
    let text := "limits.max_nesting_depth=5\naudit.sink='file'\naudit.path='log'"
    let look (path : Path) :=
      if path.shown = "a/b" then Entry.file text.toUTF8 else .absent "No such file or directory"
    let s : Settings := ⟨⟨65536, 5⟩, .warn, .file "log"⟩
    load look (.set "a/b".toUTF8) none = .ok s ∧ s.Sound ∧ s.engine.limits = ⟨65536, 5⟩ ∧
      (s.start Desk.host).run = s.started <$> Desk.host.append "log" "" := by
  have hread : read "limits.max_nesting_depth=5\naudit.sink='file'\naudit.path='log'" =
      .ok ⟨⟨65536, 5⟩, .warn, .file "log"⟩ := by
    decide +kernel
  have hsmall :
      "limits.max_nesting_depth=5\naudit.sink='file'\naudit.path='log'".toUTF8.size ≤ 1048576 := by
    decide +kernel
  intro text look s
  have hlegible : Legible (.set "a/b".toUTF8) := .inr ⟨"a/b", rfl⟩
  have hholds : Holds look (.ofText "a/b") text :=
    ⟨by rw [Path.shown_ofText]; exact ⟨by decide, by decide⟩, if_pos (Path.shown_ofText _), hsmall⟩
  obtain ⟨-, hfile, hsame, -, hsettings⟩ := load_fails_closed look (.set "a/b".toUTF8) none
  obtain ⟨hleftOut, hchosen⟩ := hsame hlegible
  have hasked : ¬ LeftOut look (.set "a/b".toUTF8) none := by
    intro h
    cases (hleftOut.1 h).2.1
  have hload : load look (.set "a/b".toUTF8) none = .ok s := by
    rw [((hfile hasked).1 text (hchosen ▸ hholds)).2]
    exact hread
  obtain ⟨hsound, hlimits, -, hstart⟩ := hsettings s (.inl hload)
  exact ⟨hload, hsound, hlimits, hstart Desk.host⟩

/-- A variable that is set to bytes that are no text is passed over: the defaults are loaded though
no file can be read. -/
theorem not_forall_load_fails_closed : ¬ ∀ (look : Path → Entry) (environment : Variable)
    (path : Option Path) (s : Settings), load look environment path = .ok s →
      (path = none ∧ environment = .unset ∧ (look (.ofText "argrule.toml")).exists = false) ∨
      ∃ text, Holds look (path.getD ((environment.path?).getD (.ofText "argrule.toml"))) text := by
  intro h
  have htext : (Variable.set
      ⟨#[0x63, 0x61, 0x66, 0xe9, 0x2e, 0x74, 0x6f, 0x6d, 0x6c]⟩).text? = none := by
    decide +kernel
  obtain ⟨-, henvironment, -⟩ | ⟨text, hholds⟩ :=
    h (fun _ ↦ .absent "No such file or directory") _ none {}
      (load_of_leftOut ⟨rfl, htext, rfl⟩)
  · cases henvironment
  · cases hholds.stands

end Settings

end Rulebook
