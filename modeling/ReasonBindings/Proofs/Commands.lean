import ReasonBindings.CommandLine
import ReasonBindings.Grammar.Program
import ReasonBindings.Proofs.Export
import ReasonBindings.Proofs.Files.Spelling
import ReasonBindings.Proofs.Model.Relocation
import ReasonBindings.Proofs.Traced.Outcome
import ReasonBindings.Proofs.Watch

/-!
# Commands agree

The three commands find the bindings of a declaration file on three ways: two of them read it
under the path that is given, a watch under the absolute form of the path, and each of them has its
own way to deal with errors.  Still they agree.  What is shown is what is exported, below a header
if one is asked for, and what a watch writes when it begins.  A command that fails changes nothing.

An error of a command is told by its exit code.  A fault that no command deals with ends the
program, with the same exit code.

The commands agree as long as a text can be written whole where it is to be written, to a file that
was opened as well as to the standard output.
-/

namespace ReasonBindings

open Model Syntax TracedIn

/-! ### Bindings under another path -/

/-- The bindings of a file depend on its path only through the name of the module. -/
lemma bindingsOf_of_moduleName_eq {path path' : String}
    (h : Path.moduleName path = Path.moduleName path') (line : Line) (statements : List Node)
    (name : Option String) :
    (bindingsOf (.sourceFile line path statements) name).outcome =
      (bindingsOf (.sourceFile line path' statements) name).outcome := by
  have hname : libraryName path name = libraryName path' name := by
    unfold libraryName
    rw [h]
  rw [bindingsOf, bindingsOf, Traced.bind_outcome, Traced.bind_outcome, fileOf_outcome_eq,
    fileOf_outcome_eq, hname]

/-- Parsing gives a file with the statements of the parse tree. -/
lemma parseDeclarations_outcome [SourceParser] (text fileName : String) :
    (parseDeclarations text fileName).outcome =
      ((SourceParser.parse text).tree.statements text.toUTF8).outcome.map
        (.sourceFile (some 1) fileName) := by
  have hparsed : ∀ statements : List Node,
      (Traced.note (.parsed statements.length fileName) >>= fun _ =>
        (pure (.sourceFile (some 1) fileName statements) : Traced Node)).outcome =
        .ok (.sourceFile (some 1) fileName statements) := fun _ => rfl
  rw [parseDeclarations]
  dsimp only
  split
  · rw [Traced.bind_outcome, Traced.note_outcome]
    exact Traced.bind_outcome_eq_map fun statements _ => hparsed statements
  · exact Traced.bind_outcome_eq_map fun statements _ => hparsed statements

/-- The bindings of a source text depend on its path only through the name of the module. -/
lemma bindingsOfSource_of_moduleName_eq [SourceParser] {path path' : String}
    (h : Path.moduleName path = Path.moduleName path') (text : String) (name : Option String) :
    (bindingsOfSource text path name).outcome = (bindingsOfSource text path' name).outcome := by
  rw [bindingsOfSource, bindingsOfSource, Traced.bind_outcome, Traced.bind_outcome,
    parseDeclarations_outcome, parseDeclarations_outcome]
  cases ((SourceParser.parse text).tree.statements text.toUTF8).outcome with
  | error cause => rfl
  | ok statements => exact bindingsOf_of_moduleName_eq h (some 1) statements name

/-- A file has the same bindings under the absolute form of a direct path, unless that is too
long. -/
lemma Situated.bindingsAt_absolute_eq_ok_iff {σ : Type} [SourceParser] [FileSystem σ] {state : σ}
    {directory path : String} {limit : Nat} (h : Situated state directory limit)
    (hpath : IsPath path) (hdirect : Path.IsDirect path) {name : Option String}
    {bindings : String} :
    bindingsAt state (Path.absolute directory path) name = .ok bindings ↔
      bindingsAt state path name = .ok bindings ∧
        (Path.absolute directory path).utf8ByteSize ≤ limit := by
  have hnormal : IsPath (Path.normal path) := Path.notMem_normal (by decide) (by decide) hpath
  have habsolute : IsPath (Path.absolute directory path) :=
    Path.notMem_absolute (by decide) (by decide) h.isPath hpath
  have hsame : ∀ {bytes : List UInt8} (text : String),
      FileSystem.read state (Path.normal path) = .ok bytes →
      (bindingsOfSource text (Path.absolute directory path) name).outcome =
        (bindingsOfSource text (Path.normal path) name).outcome := fun text hread =>
    bindingsOfSource_of_moduleName_eq (h.moduleName_absolute hdirect hread) text name
  rw [bindingsAt_eq_ok_iff, bindingsAt_eq_ok_iff, Path.normal_absolute, Translates, Translates,
    and_iff_right hnormal, and_iff_right habsolute]
  constructor
  · rintro ⟨bytes, text, hread, htext, hbindings⟩
    obtain ⟨hread, hsize⟩ := (h.spelled path bytes hdirect).mp hread
    rw [hsame text hread] at hbindings
    exact ⟨⟨bytes, text, hread, htext, hbindings⟩, hsize⟩
  · rintro ⟨⟨bytes, text, hread, htext, hbindings⟩, hsize⟩
    rw [← hsame text hread] at hbindings
    exact ⟨bytes, text, (h.spelled path bytes hdirect).mpr ⟨hread, hsize⟩, htext, hbindings⟩

namespace Command

section

variable {σ : Type} [SourceParser] [FileSystem σ]

/-! ### Effects -/

/-- What comes of a command: what it ends in, and the files afterwards.  A watch is interrupted
before anything is reported as modified. -/
def effectOn (command : Command) (place : Surroundings) (state : σ) : Except Fault Report × σ :=
  (command.run place [] : TracedIn (StateM σ) Report).effect state

/-- The exit code of a program whose command ends like this. -/
def exitCode : Except Fault Report → Nat
  | .ok report => report.exitCode
  | .error _ => Report.failure.exitCode

/-- The command, begun in the first state, ends with the exit code and leaves the second state. -/
def Exits (command : Command) (place : Surroundings) (before : σ) (code : Nat) (after : σ) : Prop :=
  exitCode (command.effectOn place before).1 = code ∧ (command.effectOn place before).2 = after

variable {place : Surroundings} {state : σ} {input name : String}

/-- Bindings are shown, if there are some that can be, and nothing changes. -/
lemma effectOn_display (place : Surroundings) (state : σ) (input name : String) :
    (display input name).effectOn place state =
      match bindingsAt state input (givenName name) with
      | .ok bindings =>
        if place.echoes (shown place bindings) then (.ok ⟨0, shown place bindings⟩, state)
        else (.error .unencodable, state)
      | .error (.located _) => (.ok Report.failure, state)
      | .error cause => (.error cause, state) := by
  rw [effectOn, run, runDisplay, effect_bind, effect_caught_bindings]
  cases bindingsAt state input (givenName name) with
  | error cause => cases cause <;> rfl
  | ok bindings =>
    dsimp only [Traced.caught]
    split <;> rfl

/-- Bindings are exported, if there are some. -/
lemma effectOn_exportTo (place : Surroundings) (state : σ) (input : String)
    (output : Option String) (name format : String) :
    (exportTo input output name format).effectOn place state =
      match bindingsAt state input (givenName name) with
      | .ok bindings =>
        match (FileAccess.replace (outputPath input output)
            (exportedText bindings format input place.time) :
            TracedIn (StateM σ) _).effect state with
        | (.ok (.ok ()), after) => (.ok Report.success, after)
        | (.ok (.error _), after) => (.ok Report.failure, after)
        | (.error cause, after) => (.error cause, after)
      | .error (.located _) => (.ok Report.failure, state)
      | .error cause => (.error cause, state) := by
  rw [effectOn, run, runExport, effect_bind, effect_caught_bindings]
  cases bindingsAt state input (givenName name) with
  | error cause => cases cause <;> rfl
  | ok bindings =>
    dsimp only [Traced.caught]
    rw [effect_lift_bind (formatBindings_outcome bindings format input place.time),
      effect_lift_bind (Traced.note_outcome _), effect_bind]
    rcases (FileAccess.replace (outputPath input output)
      (exportedText bindings format input place.time) :
      TracedIn (StateM σ) (Except String Unit)).effect state with ⟨cause | reason | _, after⟩
    · rfl
    · rfl
    · rfl

/-- A watch brings its bindings up to date once before it is interrupted. -/
lemma effectOn_watch (place : Surroundings) (state : σ) (input : String) (output : Option String)
    (name : String) :
    (watch input output name).effectOn place state =
      match bindingsAt state (Path.absolute place.directory input) (givenName name) with
      | .ok bindings =>
        match (FileAccess.replace (outputPath input output) bindings :
            TracedIn (StateM σ) _).effect state with
        | (.ok _, after) => (.ok Report.success, after)
        | (.error cause, after) => (.error cause, after)
      | .error (.located _) => (.ok Report.success, state)
      | .error cause => (.error cause, state) := by
  rw [effectOn, run, runWatch, effect_bind, Watch.begin, effect_bind, Watch.regenerate, effect_bind,
    Watch.effect_attempt, Watch.ofPaths]
  dsimp only
  cases bindingsAt state (Path.absolute place.directory input) (givenName name) with
  | error cause => cases cause <;> rfl
  | ok bindings =>
    dsimp only
    rcases (FileAccess.replace (outputPath input output) bindings :
      TracedIn (StateM σ) (Except String Unit)).effect state with ⟨cause | reason | _, after⟩
    · rfl
    · rfl
    · rfl

/-! ### Single commands -/

/-- Without bindings an export fails and changes nothing. -/
lemma exits_exportTo_of_error {cause : Fault}
    (h : bindingsAt state input (givenName name) = .error cause) (output : Option String)
    (format : String) : (exportTo input output name format).Exits place state 1 state := by
  rw [Exits, effectOn_exportTo, h]
  cases cause <;> exact ⟨rfl, rfl⟩

variable [FileView σ]

/-- What the commands have to write can be written: the bindings hold no terminal commands, they can
be echoed, and an output that can be opened takes the whole text. -/
structure Presentable (place : Surroundings) (state : σ) (input : String) (output : Option String)
    (name : String) : Prop where
  plain : ∀ bindings, bindingsAt state input (givenName name) = .ok bindings →
    Text.withoutEscapes bindings = bindings
  echoed : ∀ bindings, bindingsAt state input (givenName name) = .ok bindings →
    place.echoes bindings = true
  whole : ∀ bindings format, bindingsAt state input (givenName name) = .ok bindings →
    Writable state (outputPath input output) →
      (FileSystem.write state (outputPath input output)
        (exportedText bindings format input place.time)).1 = .ok ()

/-- What is shown is written where it can be. -/
lemma effectOn_display_of_ok {output : Option String}
    (hpresentable : Presentable place state input output name) {bindings : String}
    (h : bindingsAt state input (givenName name) = .ok bindings) :
    (display input name).effectOn place state = (.ok ⟨0, bindings⟩, state) := by
  have hshown : shown place bindings = bindings := by
    rw [shown, hpresentable.plain bindings h, ite_self]
  rw [effectOn_display, h]
  dsimp only
  rw [hshown, if_pos (hpresentable.echoed bindings h)]

/-- What is shown are the bindings. -/
lemma bindingsAt_of_shown {output : Option String}
    (hpresentable : Presentable place state input output name) {text : String}
    (h : (display input name).effectOn place state = (.ok ⟨0, text⟩, state)) :
    bindingsAt state input (givenName name) = .ok text := by
  cases hbindings : bindingsAt state input (givenName name) with
  | error cause =>
    rw [effectOn_display, hbindings] at h
    cases cause <;> simp [Report.failure] at h
  | ok bindings =>
    rw [effectOn_display_of_ok hpresentable hbindings] at h
    simpa using h

/-- When showing fails, there are no bindings. -/
lemma exists_error_of_exitCode {output : Option String}
    (hpresentable : Presentable place state input output name)
    (h : exitCode ((display input name).effectOn place state).1 = 1) :
    ∃ cause, bindingsAt state input (givenName name) = .error cause := by
  cases hbindings : bindingsAt state input (givenName name) with
  | error cause => exact ⟨cause, rfl⟩
  | ok bindings =>
    rw [effectOn_display_of_ok hpresentable hbindings] at h
    cases h

variable [LawfulFileSystem σ] {output : Option String} {bindings : String}

/-- Bindings are exported to a file that can be written. -/
lemma exists_exported (hpresentable : Presentable place state input output name)
    (h : bindingsAt state input (givenName name) = .ok bindings)
    (houtput : Writable state (outputPath input output)) (format : String) :
    ∃ after, (exportTo input output name format).Exits place state 0 after ∧
      Written state (outputPath input output)
        (exportedText bindings format input place.time).toUTF8.toList after := by
  obtain ⟨after, hwritten, hreplaced⟩ := exists_replaced houtput
    (hpresentable.whole bindings format h houtput)
  refine ⟨after, ?_, hwritten⟩
  rw [Exits, effectOn_exportTo, h]
  dsimp only
  rw [hreplaced]
  exact ⟨rfl, rfl⟩

/-- An export to a file that cannot be opened fails and changes nothing. -/
lemma exits_exportTo_of_not_writable
    (h : bindingsAt state input (givenName name) = .ok bindings)
    (houtput : ¬ Writable state (outputPath input output)) (format : String) :
    (exportTo input output name format).Exits place state 1 state := by
  rw [Exits, effectOn_exportTo, h]
  dsimp only
  rcases replace_of_not_writable houtput (exportedText bindings format input place.time) with
    ⟨reason, hrefused⟩ | ⟨cause, hrefused⟩
  · rw [hrefused]
    exact ⟨rfl, rfl⟩
  · rw [hrefused]
    exact ⟨rfl, rfl⟩

/-- A watch writes its bindings to a file that takes them. -/
lemma exists_watched
    (h : bindingsAt state (Path.absolute place.directory input) (givenName name) = .ok bindings)
    (houtput : Writable state (outputPath input output))
    (hwhole : (FileSystem.write state (outputPath input output) bindings).1 = .ok ()) :
    ∃ after, (watch input output name).Exits place state 0 after ∧
      Written state (outputPath input output) bindings.toUTF8.toList after := by
  obtain ⟨after, hwritten, hreplaced⟩ := exists_replaced houtput hwhole
  refine ⟨after, ?_, hwritten⟩
  rw [Exits, effectOn_watch, h]
  dsimp only
  rw [hreplaced]
  exact ⟨rfl, rfl⟩

/-- A watch changes nothing when there are no bindings or its file cannot be opened. -/
lemma effectOn_watch_snd
    (h : (∃ bindings, bindingsAt state (Path.absolute place.directory input) (givenName name) =
      .ok bindings) → ¬ Writable state (outputPath input output)) :
    ((watch input output name).effectOn place state).2 = state := by
  rw [effectOn_watch]
  cases hbindings : bindingsAt state (Path.absolute place.directory input) (givenName name) with
  | error cause => cases cause <;> rfl
  | ok bindings =>
    dsimp only
    rcases replace_of_not_writable (h ⟨bindings, hbindings⟩) bindings with
      ⟨reason, hrefused⟩ | ⟨cause, hrefused⟩
    · rw [hrefused]
    · rw [hrefused]

/-! ### Agreement -/

/-- What the commands make of one declaration file, each of them on the same files. -/
structure Agree (place : Surroundings) (state : σ) (input : String) (output : Option String)
    (name : String) (limit : Nat) : Prop where
  /-- Bindings that are shown are exported, below a header or not. -/
  exported : ∀ text, (display input name).effectOn place state = (.ok ⟨0, text⟩, state) →
    Writable state (outputPath input output) →
      (∀ format, format ≠ "commented" → ∃ after,
        (exportTo input output name format).Exits place state 0 after ∧
          Written state (outputPath input output) text.toUTF8.toList after) ∧
      IsHeader (exportHeader input place.time) ∧ ∃ after,
        (exportTo input output name "commented").Exits place state 0 after ∧
          Written state (outputPath input output)
            (exportHeader input place.time ++ text).toUTF8.toList after
  /-- They are what a watch writes, unless the absolute form of the path is too long. -/
  watched : ∀ text, (display input name).effectOn place state = (.ok ⟨0, text⟩, state) →
    Writable state (outputPath input output) →
    (Path.absolute place.directory input).utf8ByteSize ≤ limit →
      ∃ after, (watch input output name).Exits place state 0 after ∧
        Written state (outputPath input output) text.toUTF8.toList after
  /-- When there is nothing to show, nothing is written. -/
  failed : exitCode ((display input name).effectOn place state).1 = 1 →
    (∀ format, (exportTo input output name format).Exits place state 1 state) ∧
      ((watch input output name).effectOn place state).2 = state
  /-- When nothing but the writing fails, nothing is written either. -/
  refused : ∀ text, (display input name).effectOn place state = (.ok ⟨0, text⟩, state) →
    ¬ Writable state (outputPath input output) →
      (∀ format, (exportTo input output name format).Exits place state 1 state) ∧
        ((watch input output name).effectOn place state).2 = state

/-- **The commands agree and fail atomically.**  They run in the current directory of any lawful
file system, on a path that leads straight to a declaration file, and what they have to write can be
written.  What is shown is exported in the plain format and in every unknown one, and below a header
of three comments in the commented one; it is also what a watch writes, if the absolute form of the
path is not too long; and no other file changes.  When there is nothing to show, or when the output
cannot be opened, an export fails and no file changes at all. -/
theorem commands_agree {limit : Nat} (hplace : Situated state place.directory limit)
    (hinput : IsPath input) (hdirect : Path.IsDirect input)
    (hpresentable : Presentable place state input output name) :
    Agree place state input output name limit := by
  have hsame : ∀ bindings,
      bindingsAt state (Path.absolute place.directory input) (givenName name) = .ok bindings ↔
        bindingsAt state input (givenName name) = .ok bindings ∧
          (Path.absolute place.directory input).utf8ByteSize ≤ limit :=
    fun _ => hplace.bindingsAt_absolute_eq_ok_iff hinput hdirect
  constructor
  case exported =>
    intro text hshown houtput
    have hbindings := bindingsAt_of_shown hpresentable hshown
    refine ⟨fun format hformat => ?_, isHeader_exportHeader input place.time, ?_⟩
    · obtain ⟨after, hexits, hwritten⟩ := exists_exported hpresentable hbindings houtput format
      rw [exportedText, if_neg hformat] at hwritten
      exact ⟨after, hexits, hwritten⟩
    · obtain ⟨after, hexits, hwritten⟩ :=
        exists_exported hpresentable hbindings houtput "commented"
      rw [exportedText, if_pos rfl] at hwritten
      exact ⟨after, hexits, hwritten⟩
  case watched =>
    intro text hshown houtput hsize
    have hbindings := bindingsAt_of_shown hpresentable hshown
    exact exists_watched ((hsame text).mpr ⟨hbindings, hsize⟩) houtput
      (hpresentable.whole text "plain" hbindings houtput)
  case failed =>
    intro hfailed
    obtain ⟨cause, hcause⟩ := exists_error_of_exitCode hpresentable hfailed
    refine ⟨exits_exportTo_of_error hcause output, effectOn_watch_snd ?_⟩
    rintro ⟨bindings, hbindings⟩
    rw [hsame, hcause] at hbindings
    cases hbindings.1
  case refused =>
    intro text hshown houtput
    have hbindings := bindingsAt_of_shown hpresentable hshown
    exact ⟨exits_exportTo_of_not_writable hbindings houtput, effectOn_watch_snd fun _ => houtput⟩

end

/-- Where every character can be encoded, bindings without terminal commands can be written. -/
lemma presentable_of_coding [SourceParser] {place : Surroundings} {disk : Disk}
    {input name : String} (hcoding : ∀ c, disk.coding c = .text)
    (hechoes : ∀ text, place.echoes text = true)
    (hplain : ∀ bindings, bindingsAt disk input (givenName name) = .ok bindings →
      Text.withoutEscapes bindings = bindings) (output : Option String) :
    Presentable place disk input output name where
  plain := hplain
  echoed bindings _ := hechoes bindings
  whole bindings format _ houtput := by
    obtain ⟨-, found, hopened⟩ := houtput
    change (disk.write _ _).1 = _
    rw [Disk.write_of_openFor hopened, if_pos (Disk.encodes_of_coding hcoding _)]

/-- A disk with an empty declaration file. -/
def sampleDisk : Disk :=
  (Disk.empty "/home").put "a.d.ts" (.file [])

/-- Commands on the sample run in its current directory. -/
def samplePlace : Surroundings where
  directory := "/home"
  time := ⟨2024, 1, 2, 3, 4, 5⟩

/-- The commands agree on the empty declaration file, which has bindings that are shown. -/
theorem commands_agree_sample :
    Situated sampleDisk samplePlace.directory Disk.pathLimit ∧ IsPath "./a.d.ts" ∧
    Path.IsDirect "./a.d.ts" ∧ Presentable samplePlace sampleDisk "./a.d.ts" none "" ∧
    (display "./a.d.ts" "").effectOn samplePlace sampleDisk = (.ok ⟨0, ""⟩, sampleDisk) ∧
    Writable sampleDisk (outputPath "./a.d.ts" none) ∧
    Agree samplePlace sampleDisk "./a.d.ts" none "" Disk.pathLimit := by
  have hregular : sampleDisk.Regular := {
    isPath := by decide
    rooted := by decide
    direct := by decide
    present := ⟨_, rfl, rfl⟩ }
  have hinput : IsPath "./a.d.ts" := by decide
  have hdirect : Path.IsDirect "./a.d.ts" := by decide
  have hbindings : bindingsAt sampleDisk "./a.d.ts" (givenName "") = .ok "" := by
    decide +kernel
  have hpresentable : Presentable samplePlace sampleDisk "./a.d.ts" none "" := by
    refine presentable_of_coding (fun _ => rfl) (fun _ => rfl) (fun bindings h => ?_) none
    rw [hbindings] at h
    obtain rfl := Except.ok.inj h
    rfl
  exact ⟨hregular.situated, hinput, hdirect, hpresentable,
    effectOn_display_of_ok hpresentable hbindings, ⟨by decide, _, rfl⟩,
    commands_agree hregular.situated hinput hdirect hpresentable⟩

/-! ### A path whose absolute form is too long -/

/-- The parts of a path through directories with long names. -/
def deepParts : List (List Char) :=
  List.replicate 22 (List.replicate 185 'a') ++ [['a']]

/-- A path of 4093 bytes, so that any other directory in front of it makes it too long. -/
def deepPath : String :=
  String.ofList (Path.write 0 deepParts)

/-- A disk with an empty declaration file at that path. -/
def deepDisk : Disk :=
  (Disk.empty "/home").put deepPath (.file [])

/-- The parts of the path repeat one letter. -/
lemma exists_replicate_of_mem_deepParts {part : List Char} (h : part ∈ deepParts) :
    ∃ n < 185, part = List.replicate (n + 1) 'a' := by
  rcases List.mem_append.mp h with hmem | hmem
  · exact ⟨184, by decide, List.eq_of_mem_replicate hmem⟩
  · exact ⟨0, by decide, List.mem_singleton.mp hmem⟩

/-- No other character is in the parts of the path. -/
lemma notMem_of_mem_deepParts {part : List Char} (h : part ∈ deepParts) {c : Char} (hc : c ≠ 'a') :
    c ∉ part := by
  obtain ⟨n, -, rfl⟩ := exists_replicate_of_mem_deepParts h
  exact fun hmem => hc (List.eq_of_mem_replicate hmem)

/-- The parts of the path can be read from it. -/
lemma isPart_of_mem_deepParts {part : List Char} (h : part ∈ deepParts) : Path.IsPart part := by
  refine ⟨?_, notMem_of_mem_deepParts h (by decide)⟩
  obtain ⟨n, -, rfl⟩ := exists_replicate_of_mem_deepParts h
  rfl

/-- The path has parts. -/
lemma deepParts_ne_nil : deepParts ≠ [] :=
  List.append_ne_nil_of_right_ne_nil _ (List.cons_ne_nil _ _)

/-- The root and the parts of the path are those that it was written from. -/
lemma parts_deepPath :
    Path.rootSlashes deepPath.toList = 0 ∧ Path.properParts deepPath.toList = deepParts := by
  rw [deepPath, String.toList_ofList]
  exact ⟨Path.rootSlashes_write (Nat.zero_le 2) fun _ => isPart_of_mem_deepParts,
    Path.properParts_write 0 fun _ => isPart_of_mem_deepParts⟩

/-- The path is in normal form. -/
lemma normal_deepPath : Path.normal deepPath = deepPath :=
  Path.normal_write (Nat.zero_le 2) fun _ => isPart_of_mem_deepParts

/-- The path can be handed to a file system. -/
lemma isPath_deepPath : IsPath deepPath := by
  rw [IsPath, deepPath, String.toList_ofList]
  exact Path.notMem_write (by decide) (by decide) fun _ hpart =>
    notMem_of_mem_deepParts hpart (by decide)

/-- The path leads straight to the declaration file. -/
lemma isDirect_deepPath : Path.IsDirect deepPath := by
  rw [Path.IsDirect, parts_deepPath.2]
  exact fun hmem => notMem_of_mem_deepParts hmem (by decide) List.mem_cons_self

/-- The path is not too long. -/
lemma size_deepPath : deepPath.utf8ByteSize = 4093 := by
  have hdirectory : (String.ofList (List.replicate 185 'a')).utf8ByteSize = 185 :=
    Path.size_replicate 185 'a'
  have hfile : (String.ofList ['a']).utf8ByteSize = 1 := rfl
  rw [deepPath, Path.write_of_ne_nil 0 deepParts_ne_nil, List.replicate_zero, List.nil_append,
    deepParts, Path.size_join_replicate, hdirectory, hfile]

/-- The absolute form of the path is too long. -/
lemma size_absolute_deepPath :
    (Path.absolute "/home" deepPath).utf8ByteSize = 4099 := by
  have hparts : Path.properParts deepPath.toList ≠ [] := by
    rw [parts_deepPath.2]
    exact deepParts_ne_nil
  have hhome : (Path.normal "/home" ++ "/").utf8ByteSize = 6 := rfl
  rw [Path.absolute_eq_append (by decide) isDirect_deepPath parts_deepPath.1 (by decide) hparts,
    normal_deepPath, String.utf8ByteSize_append, hhome, size_deepPath]

/-- The names that lead to the declaration file. -/
lemma partsOf_deepPath :
    (Disk.empty "/home").partsOf deepPath = "home" :: deepParts.map String.ofList := by
  rw [Disk.partsOf, parts_deepPath.2, if_pos parts_deepPath.1]
  rfl

/-- The disk holds nothing but the declaration file and the directories that lead to it. -/
lemma deepDisk_eq : deepDisk =
    { directory := "/home"
      root := (Disk.empty "/home").root.put ("home" :: deepParts.map String.ofList) (.file []) } := by
  rw [← partsOf_deepPath]
  rfl

/-- The current directory holds the first of the directories and nothing else. -/
lemma home_deepDisk : ∃ entry, deepDisk.root.at? ["home"] = some entry ∧
    entry.isDirectory = true ∧
      ∀ name, name ≠ String.ofList (List.replicate 185 'a') → entry.child? name = none := by
  have hempty : (Disk.empty "/home").root.child? "home" = some (.directory []) := rfl
  have hparts : deepParts = List.replicate 185 'a' ::
      (List.replicate 21 (List.replicate 185 'a') ++ [['a']]) := rfl
  -- Only the first of the directories is looked into: the rest of the tree stays folded.
  rw [deepDisk_eq, Entry.at?_put_cons, hempty, hparts, List.map_cons]
  refine ⟨_, rfl, rfl, fun name hname => ?_⟩
  rw [Option.getD_some, Entry.put, Entry.child?, Entry.lookup_withEntry_of_ne hname]
  rfl

/-- The current directory of the disk is as programs find it. -/
lemma regular_deepDisk : deepDisk.Regular := by
  obtain ⟨entry, hentry, hdirectory, -⟩ := home_deepDisk
  rw [deepDisk_eq] at hentry ⊢
  exact ⟨by decide, by decide, by decide, entry, hentry, hdirectory⟩

/-- The declaration file can be read at the path. -/
lemma read_deepPath : deepDisk.read deepPath = .ok [] := by
  have hempty : (Disk.empty "/home").Regular := ⟨by decide, by decide, by decide, _, rfl, rfl⟩
  have hdots := Disk.dots_notMem_partsOf hempty isDirect_deepPath
  refine Disk.read_put (Disk.empty "/home") [] ?_ fun name hname =>
    ⟨ne_of_mem_of_not_mem hname hdots, ?_⟩
  · rw [size_deepPath]
    decide
  · have hname' : name ∈ "home" :: deepParts.map String.ofList := partsOf_deepPath ▸ hname
    rcases List.mem_cons.mp hname' with rfl | hpart
    · decide
    · obtain ⟨part, hpart', rfl⟩ := List.mem_map.mp hpart
      obtain ⟨n, hn, rfl⟩ := exists_replicate_of_mem_deepParts hpart'
      have hletter : 'a'.utf8Size = 1 := rfl
      rw [Path.size_replicate, hletter, Nat.mul_one, Disk.nameLimit]
      omega

/-- There is no file under the name of the output yet. -/
lemma vacant_deepDisk : deepDisk.Vacant "o.re" ["home"] "o.re" := by
  obtain ⟨entry, hentry, hdirectory, hchild⟩ := home_deepDisk
  have hname : "o.re" ≠ String.ofList (List.replicate 185 'a') := by
    intro h
    have hmem : 'o' ∈ (String.ofList (List.replicate 185 'a')).toList := by
      rw [← h]
      decide
    rw [String.toList_ofList] at hmem
    exact absurd (List.eq_of_mem_replicate hmem) (by decide)
  have hmissing := (Disk.step_eq_notFound_iff hentry).mpr
    ⟨hdirectory, by decide, by decide, hchild _ hname⟩
  rw [deepDisk_eq] at hmissing ⊢
  exact ⟨by decide, ⟨["home"], by decide, rfl⟩, hmissing⟩

/-- On the disk every character can be encoded. -/
lemma coding_deepDisk (c : Char) : deepDisk.coding c = .text := by
  rw [deepDisk_eq]

/-- The bindings of the declaration file. -/
lemma bindingsAt_deepPath : bindingsAt deepDisk deepPath (givenName "") = .ok "" := by
  rw [bindingsAt_eq_ok_iff, normal_deepPath]
  exact ⟨isPath_deepPath, [], "", Disk.fileSystem_read_eq_ok_iff.mpr
    ⟨Disk.names_of_coding coding_deepDisk _, read_deepPath⟩, rfl, by decide +kernel⟩

/-- The bindings of the declaration file can be written. -/
lemma presentable_deepPath : Presentable samplePlace deepDisk deepPath (some "o.re") "" := by
  refine presentable_of_coding coding_deepDisk (fun _ => rfl) (fun bindings h => ?_) _
  rw [bindingsAt_deepPath] at h
  obtain rfl := Except.ok.inj h
  rfl

/-- **A watch can miss what is shown.**  On a path that is just short enough the empty bindings are
shown, and they could be written, but a watch leaves no file with them. -/
theorem watch_deepPath :
    Situated deepDisk samplePlace.directory Disk.pathLimit ∧ IsPath deepPath ∧
    Path.IsDirect deepPath ∧ Presentable samplePlace deepDisk deepPath (some "o.re") "" ∧
    (display deepPath "").effectOn samplePlace deepDisk = (.ok ⟨0, ""⟩, deepDisk) ∧
    Writable deepDisk (outputPath deepPath (some "o.re")) ∧
    ¬ ∃ after, (watch deepPath (some "o.re") "").Exits samplePlace deepDisk 0 after ∧
      Written deepDisk (outputPath deepPath (some "o.re")) "".toUTF8.toList after := by
  have hdirectory : deepDisk.directory = samplePlace.directory := by
    rw [deepDisk_eq]
    rfl
  have hsituated := regular_deepDisk.situated
  rw [hdirectory] at hsituated
  have houtput : outputPath deepPath (some "o.re") = "o.re" := by
    rw [outputPath]
    decide
  -- A watch reads the absolute form of the path, which is refused.
  have hunread : ¬ ∃ bindings, bindingsAt deepDisk
      (Path.absolute samplePlace.directory deepPath) (givenName "") = .ok bindings := by
    rintro ⟨bindings, h⟩
    rw [hsituated.bindingsAt_absolute_eq_ok_iff isPath_deepPath isDirect_deepPath] at h
    have hsize := size_absolute_deepPath ▸ h.2
    exact absurd hsize (by decide)
  refine ⟨hsituated, isPath_deepPath, isDirect_deepPath, presentable_deepPath,
    effectOn_display_of_ok presentable_deepPath bindingsAt_deepPath, ?_, ?_⟩
  · rw [houtput]
    exact ⟨by decide, _, Disk.openFor_eq_ok_iff.mpr
      ⟨Disk.names_of_coding coding_deepDisk _, vacant_deepDisk.target⟩⟩
  · rw [houtput]
    rintro ⟨after, ⟨-, hafter⟩, hwritten⟩
    rw [effectOn_watch_snd fun h => absurd h hunread] at hafter
    rw [← hafter] at hwritten
    have hread := Disk.fileAt?_eq_some_iff.mp hwritten.fileAt
    exact vacant_deepDisk.read_ne_ok _ (Disk.fileSystem_read_eq_ok_iff.mp hread).2

end Command

end ReasonBindings
