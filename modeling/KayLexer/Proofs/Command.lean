import KayLexer.Command
import KayLexer.Proofs.Scanner.Reading
import KayLexer.Proofs.Scanner.Undecodable

/-!
Runs of the command. A run prints all tokens of its file or nothing, and has closed the file behind
it. Main statement: the exit code and the output of a run, by what its file gives when it is read in
the encoding that is set.
-/

namespace KayLexer

open Position (start)

/-! ### Opening -/

namespace SourcePath

theorem mem_of_mem_pieces {cs p : List Char} (h : p ∈ pieces cs) : ∀ c ∈ p, c ∈ cs := by
  induction cs generalizing p with
  | nil =>
    obtain rfl : p = [] := List.mem_singleton.1 h
    exact fun c hc => absurd hc List.not_mem_nil
  | cons d cs ih =>
    intro c hc
    unfold pieces at h
    split at h
    · rcases List.mem_cons.1 h with rfl | h
      · cases hc
      · exact List.mem_cons_of_mem d (ih h c hc)
    · split at h
      · obtain rfl : p = [d] := List.mem_singleton.1 h
        rw [List.mem_singleton.1 hc]
        exact List.mem_cons_self
      · next q qs hq =>
        rcases List.mem_cons.1 h with rfl | h
        · rcases List.mem_cons.1 hc with rfl | hc
          · exact List.mem_cons_self
          · exact List.mem_cons_of_mem d (ih (hq ▸ List.mem_cons_self) c hc)
        · exact List.mem_cons_of_mem d (ih (hq ▸ List.mem_cons_of_mem q h) c hc)

/-- No zero character comes into a path. -/
theorem hasNul_ofString {path : String} (h : '\x00' ∉ path.toList) :
    (ofString path).hasNul = false := by
  rw [hasNul, List.any_eq_false]
  intro component hc hn
  obtain ⟨hc, -⟩ := List.mem_filter.1 hc
  obtain ⟨p, hp, rfl⟩ := List.mem_map.1 hc
  rw [String.toList_ofList, List.contains_iff_mem] at hn
  exact h (mem_of_mem_pieces hp _ hn)

end SourcePath

namespace Scanner

variable {files : FileSystem} {path : SourcePath} {encoding : String}
  {registry : Encoding.Registry} {e : Encoding}

/-- The scanner of a file that is opened reads it from the beginning. -/
theorem ofPath_opened {events : List StreamEvent} (he : Encoding.ofName encoding registry = .ok e)
    (hp : path.hasNul = false) (hf : files path = .ok events) (shown : String) :
    ∃ t, ofPath files path shown encoding registry = .ok t ∧
      t.Fresh (.bytes (.ofStream (.ofEvents .file events) (some path) e)) := by
  refine ⟨_, ?_, (fresh_ofSource _).record .debug ("Opened '" ++ shown ++ "' for scanning.")⟩
  simp [ofPath, ByteSource.openFile, he, hp, hf]

/-- The scanner of a file that cannot be opened is at its end. -/
theorem ofPath_not_opened {x : OsError} (he : Encoding.ofName encoding registry = .ok e)
    (hp : path.hasNul = false) (hf : files path = .error x) (shown : String) :
    ∃ t, ofPath files path shown encoding registry = .ok t ∧ t.atEnd = true := by
  refine ⟨(absent (some ⟨path, x⟩)).record .warning ("File not found: " ++ shown), ?_, rfl⟩
  simp [ofPath, ByteSource.openFile, he, hp, hf]

theorem tokenize_of_atEnd {s : Scanner} (h : s.atEnd = true) :
    s.tokenize.1 = .ok [.endOfFile s.position] := by
  rw [tokenize_eq, nextToken_of_atEnd h]
  rfl

/-- The stream that the scanner reads is closed. -/
def Closed (s : Scanner) : Prop := ∀ b, s.source = some (.bytes b) → b.stream.isClosed = true

theorem closed_close (s : Scanner) : s.close.Closed := by
  intro b hb
  obtain ⟨source, -, hsource⟩ := Option.map_eq_some_iff.1 hb
  cases source with
  | text s => cases hsource
  | bytes s =>
    cases hsource
    exact decide_eq_true (Nat.succ_ne_zero s.stream.closes)

/-- Printing leaves a scanner with its stream. -/
theorem exists_source_print {s : Scanner} {b : ByteSource} (h : s.source = some (.bytes b)) :
    ∃ b', s.print.2.source = some (.bytes b') := by
  refine (s.call_tokenize).invariant (P := fun t => ∃ b, t.source = some (.bytes b)) ?_ ⟨b, h⟩
  rintro t c hc ⟨b, hb⟩
  exact ⟨b.read.2, source_advance (atEnd_of_current hc) hb⟩

end Scanner

/-! ### Runs -/

namespace CommandRun

variable {s : Scanner}

theorem ofScanner_of_tokens {ts : List Token} (h : s.tokenize.1 = .ok ts) (path : String)
    (n : Nat) :
    (ofScanner path n s).exit = .ok 0 ∧ (ofScanner path n s).output = Token.renderLines ts := by
  have hp : s.print.1 = .ok (Token.renderLines ts) := by
    rw [Scanner.print, h]
    rfl
  simp [ofScanner, hp]

theorem ofScanner_of_unreadable {x : Unreadable} (h : s.tokenize.1 = .error (.unreadable x))
    (path : String) (n : Nat) :
    (ofScanner path n s).exit = .ok 1 ∧ (ofScanner path n s).output = "" := by
  have hp : s.print.1 = .error (.unreadable x) := by
    rw [Scanner.print, h]
    rfl
  simp [ofScanner, hp]

theorem scanner_ofScanner (path : String) (n : Nat) (s : Scanner) :
    (ofScanner path n s).scanner = some s.print.2.close := by
  unfold ofScanner
  generalize s.print = r
  obtain ⟨_ | _, t⟩ := r
  · next e => cases e <;> rfl
  · rfl

/-- A run whose scanner has a byte source to begin with has closed its stream. -/
theorem closed_ofScanner {b : ByteSource} (hs : s.source = some (.bytes b)) (path : String)
    (n : Nat) : ∃ t b', (ofScanner path n s).scanner = some t ∧ t.source = some (.bytes b') ∧
      b'.stream.isClosed = true := by
  obtain ⟨b', hb'⟩ := Scanner.exists_source_print hs
  have hclose : s.print.2.close.source = some (.bytes b'.close) := by
    rw [Scanner.close, hb']
    rfl
  exact ⟨_, b'.close, scanner_ofScanner path n s, hclose, s.print.2.closed_close _ hclose⟩

end CommandRun

section Run

variable {args : List String} {env : Environment} {settingsFile : List (String × String)}
  {files : FileSystem} {registry : Encoding.Registry}

/-- A run without a file to read, or without settings, is refused before any file is looked at. -/
theorem runCommand_refused (h : args.length ≠ 1 ∨
      ∃ x, Settings.ofEnvironment (env.load settingsFile) registry = .error x) :
    ∃ errors, ∀ files, runCommand args env settingsFile files registry = .refused errors := by
  rcases h with h | ⟨x, hx⟩
  · refine ⟨CommandRun.usage, fun files => ?_⟩
    unfold runCommand
    split
    · exact absurd rfl h
    · rfl
  · match args with
    | [path] =>
      refine ⟨"Invalid configuration: " ++ x.message ++ "\n", fun files => ?_⟩
      rw [runCommand, hx]
    | [] | _ :: _ :: _ => exact ⟨CommandRun.usage, fun files => rfl⟩

/-- A run that is not refused goes on with the scanner of its file. -/
theorem runCommand_ofPath {path : String} {settings : Settings} {t : Scanner}
    (hs : Settings.ofEnvironment (env.load settingsFile) registry = .ok settings)
    (ht : Scanner.ofPath files (.ofString path) path settings.sourceEncoding registry = .ok t) :
    runCommand [path] env settingsFile files registry =
      .ofScanner path settings.logThreshold t := by
  rw [runCommand, hs]
  simp only [ht]

section Encoded

variable {path : String} {settings : Settings} {e : Encoding}

/-- A file that cannot be opened counts as an empty one. -/
theorem runCommand_not_opened {x : OsError} (hpath : '\x00' ∉ path.toList)
    (hs : Settings.ofEnvironment (env.load settingsFile) registry = .ok settings)
    (he : Encoding.ofName settings.sourceEncoding registry = .ok e)
    (hf : files (.ofString path) = .error x) :
    (runCommand [path] env settingsFile files registry).exit = .ok 0 ∧
      (runCommand [path] env settingsFile files registry).output = "EndOfFile \"EOF\"\n" := by
  obtain ⟨t, ht, hend⟩ :=
    Scanner.ofPath_not_opened he (SourcePath.hasNul_ofString hpath) hf path
  rw [runCommand_ofPath hs ht]
  exact CommandRun.ofScanner_of_tokens (Scanner.tokenize_of_atEnd hend) path _

/-- A file that is opened is printed whole or not at all, and its stream is closed. -/
theorem runCommand_opened {events : List StreamEvent} (hpath : '\x00' ∉ path.toList)
    (hs : Settings.ofEnvironment (env.load settingsFile) registry = .ok settings)
    (he : Encoding.ofName settings.sourceEncoding registry = .ok e)
    (hf : files (.ofString path) = .ok events) (hmark : e ≠ .utf16) (hu : e ≠ .undefined) :
    let run := runCommand [path] env settingsFile files registry
    (∃ t b, run.scanner = some t ∧ t.source = some (.bytes b) ∧ b.stream.isClosed = true) ∧
      match (Source.bytes (.ofStream (.ofEvents .file events)
        (some (.ofString path)) e)).readAll.1 with
      | .ok cs => run.exit = .ok 0 ∧ ∃ ts,
          (Scanner.ofString (String.ofList cs)).tokenize.1 = .ok ts ∧
          run.output = Token.renderLines ts
      | .error r => (∃ x, r = .unreadable x) ∧ run.exit = .ok 1 ∧ run.output = "" := by
  intro run
  obtain ⟨t, ht, hfresh⟩ := Scanner.ofPath_opened he (SourcePath.hasNul_ofString hpath) hf path
  have hrun : run = .ofScanner path settings.logThreshold t := runCommand_ofPath hs ht
  rw [hrun]
  refine ⟨CommandRun.closed_ofScanner hfresh.source path _, ?_⟩
  obtain ⟨last, cs, hd, ⟨hcs, hl⟩ | ⟨r, hr, hl⟩⟩ := Source.delivers_of_readAll
    (.bytes (.ofStream (.ofEvents .file events) (some (.ofString path)) e))
  · rw [hcs]
    obtain ⟨ts, hts⟩ := exists_lexed start (String.ofList cs).toList
    have htext := Scanner.tokenize_ofString hts
    have htokens := (hfresh.tokenize_of_delivers rfl hd hl).trans htext
    obtain ⟨hexit, hout⟩ := CommandRun.ofScanner_of_tokens htokens path settings.logThreshold
    exact ⟨hexit, _, htext, hout⟩
  · obtain ⟨x, rfl⟩ := Source.unreadable_of_readAll hmark hu hr
    have hfail := hfresh.tokenize_of_failure rfl hd hl
    rw [hr]
    exact ⟨⟨x, rfl⟩, CommandRun.ofScanner_of_unreadable hfail path _⟩

end Encoded

/-- Whatever becomes of a run, it leaves no stream open. -/
theorem closed_runCommand (args : List String) (env : Environment)
    (settingsFile : List (String × String)) (files : FileSystem) (registry : Encoding.Registry)
    {t : Scanner} (h : (runCommand args env settingsFile files registry).scanner = some t) :
    t.Closed := by
  unfold runCommand at h
  split at h
  · split at h
    · cases h
    · split at h
      · rw [CommandRun.scanner_ofScanner] at h
        cases h
        exact Scanner.closed_close _
      · cases h
  · cases h

/-- **What comes of a run of the command.** Without one argument or without settings the exit code
is 2, nothing is printed, and it makes no difference which files there are. Else, in an encoding
that needs no byte order mark, a file that cannot be opened counts as an empty one; a file that can
be read to its end is printed whole, with exit code 0; and a file that cannot is not printed at all,
with exit code 1, which is so for a lost character only. No run leaves a stream open. All this is so
whatever encodings are known by further names. -/
theorem runCommand_outcome (args : List String) (env : Environment)
    (settingsFile : List (String × String)) (files : FileSystem) (registry : Encoding.Registry) :
    let run := runCommand args env settingsFile files registry
    (args.length ≠ 1 ∨
        (∃ x, Settings.ofEnvironment (env.load settingsFile) registry = .error x) →
      run.exit = .ok 2 ∧ run.output = "" ∧ run.scanner = none ∧
      ∀ files', runCommand args env settingsFile files' registry = run) ∧
    (∀ (path : String) (settings : Settings) (e : Encoding), args = [path] →
      '\x00' ∉ path.toList →
      Settings.ofEnvironment (env.load settingsFile) registry = .ok settings →
      Encoding.ofName settings.sourceEncoding registry = .ok e →
      e ∈ [.utf8, .utf8Signed, .utf16LittleEndian, .utf16BigEndian, .ascii, .latin1, .windows1252] →
      match files (.ofString path) with
      | .error _ => run.exit = .ok 0 ∧ run.output = "EndOfFile \"EOF\"\n"
      | .ok events =>
        (∃ t b, run.scanner = some t ∧ t.source = some (.bytes b) ∧ b.stream.isClosed = true) ∧
        match (Source.bytes (.ofStream (.ofEvents .file events)
            (some (.ofString path)) e)).readAll.1 with
        | .ok cs => run.exit = .ok 0 ∧ ∃ ts,
            (Scanner.ofString (String.ofList cs)).tokenize.1 = .ok ts ∧
            run.output = Token.renderLines ts
        | .error r => (∃ x, r = .unreadable x) ∧ run.exit = .ok 1 ∧ run.output = "") ∧
    ∀ t, run.scanner = some t → t.Closed := by
  intro run
  refine ⟨?_, ?_, fun t ht => closed_runCommand args env settingsFile files registry ht⟩
  · intro h
    obtain ⟨errors, hrefused⟩ := runCommand_refused h
    have hrun : run = .refused errors := hrefused files
    rw [hrun]
    exact ⟨rfl, rfl, rfl, hrefused⟩
  · rintro path settings e rfl hpath hsettings he hmem
    split
    · next x hf => exact runCommand_not_opened hpath hsettings he hf
    · next events hf =>
      refine runCommand_opened hpath hsettings he hf ?_ ?_
      all_goals
        rintro rfl
        revert hmem
        decide

theorem eq_ok_of_toOption {ε α : Type} {r : Except ε α} {a : α} (h : r.toOption = some a) :
    r = .ok a := by
  cases r with
  | error => cases h
  | ok => exact congrArg Except.ok (Option.some.inj h)

/-- Of a file that ends in a byte without a meaning nothing is printed, though a word was scanned
before. -/
theorem runCommand_outcome_late : ∃ (env : Environment) (files : FileSystem),
    Settings.ofEnvironment (env.load []) = .ok ⟨"US-ASCII", 30⟩ ∧
    files (.ofString "a.kay") = .ok [.byte 0x69, .byte 0x66, .byte 0x20, .byte 0xff] ∧
    (runCommand ["a.kay"] env [] files).exit = .ok 1 ∧
    (runCommand ["a.kay"] env [] files).output = "" ∧
    ∃ t b, (runCommand ["a.kay"] env [] files).scanner = some t ∧
      t.source = some (.bytes b) ∧ b.stream.isClosed = true := by
  obtain ⟨env, hs⟩ : ∃ env : Environment,
      Settings.ofEnvironment (env.load []) = .ok ⟨"US-ASCII", 30⟩ :=
    ⟨Environment.empty.set Settings.encodingKey (some " US-ASCII "),
      eq_ok_of_toOption (by decide +kernel)⟩
  obtain ⟨files, hf⟩ : ∃ files : FileSystem,
      files (.ofString "a.kay") = .ok [.byte 0x69, .byte 0x66, .byte 0x20, .byte 0xff] :=
    ⟨fun _ => .ok [.byte 0x69, .byte 0x66, .byte 0x20, .byte 0xff], rfl⟩
  have he : Encoding.ofName "US-ASCII" = .ok .ascii := eq_ok_of_toOption (by decide +kernel)
  have hr : (Source.bytes (.ofStream (.ofEvents .file [.byte 0x69, .byte 0x66, .byte 0x20,
      .byte 0xff]) (some (.ofString "a.kay")) .ascii)).readAll.1 =
        .error (.unreadable ⟨some (.ofString "a.kay"), ⟨1, 4⟩,
          .malformed ⟨.ascii, 0xff, [], .beyondAscii⟩⟩) := by
    with_unfolding_all rfl
  have hrun := (runCommand_outcome ["a.kay"] env [] files .empty).2.1 "a.kay" ⟨"US-ASCII", 30⟩
    .ascii rfl (by decide) hs he (by decide)
  simp only [hf, hr] at hrun
  exact ⟨env, files, hs, hf, hrun.2.2.1, hrun.2.2.2, hrun.1⟩

end Run

end KayLexer
