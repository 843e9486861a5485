import ReasonBindings.Grammar.Program
import ReasonBindings.Proofs.Files.Disk
import ReasonBindings.Proofs.Files.Effect
import ReasonBindings.Proofs.Path
import ReasonBindings.Watch

/-!
# What a watch keeps up to date

A watch makes an attempt when it is told to and when its declaration file is reported as
modified, under whatever spelling of the path.  An attempt that succeeds leaves the bindings
of the declaration file, as it is at that moment, in the output file.  One that finds no
bindings or cannot open the output leaves everything as it is.  There is a third kind: the
output was opened, which empties it, and then something kept the bindings from being written.
Such an attempt is not counted, but it changes the output, unless this held the same before.

The run of a watch is told as a list of *episodes*, one for each step, with the files before
and after the step and what came of it.  What holds of a single episode is proved for
one step from any state, and what holds of all of them follows by induction along the steps.
-/

namespace ReasonBindings.Watch

open TracedIn

/-- The watch over a declaration file when a number of attempts has succeeded. -/
def counted (directory input : String) (output : Option String) (name : String) (count : Nat) :
    Watch :=
  { ofPaths directory input output name with generations := count }

/-- A path leads to the watched file when it has the same absolute form. -/
lemma concerns_counted_iff {directory input : String} {output : Option String} {name : String}
    {count : Nat} {path : String} :
    (counted directory input output name count).concerns path = true ↔
      Path.absolute directory path = Path.absolute directory input :=
  beq_iff_eq

section

variable {σ : Type} [SourceParser] [FileSystem σ]

/-! ### Effects -/

/-- An attempt reads the declaration file and then writes the output. -/
lemma effect_attempt (watch : Watch) (state : σ) :
    (watch.attempt : TracedIn (StateM σ) (Except String Unit)).effect state =
      match bindingsAt state watch.input (givenName watch.name) with
      | .ok bindings =>
        (FileAccess.replace watch.output bindings : TracedIn (StateM σ) _).effect state
      | .error (.located error) => (.ok (.error error.text), state)
      | .error cause => (.error cause, state) := by
  rw [attempt, effect_bind, effect_caught_bindings]
  cases bindingsAt state watch.input (givenName watch.name) with
  | error cause => cases cause <;> rfl
  | ok bindings => rfl

/-- The watch and the files after a step are those that its effect leaves; a fault leaves the watch
as it is. -/
lemma pass_eq (watch : Watch) (step : Step σ) (state : σ) :
    watch.pass step state =
      (((watch.perform step).effect state).1.toOption.getD watch,
        ((watch.perform step).effect state).2) := rfl

/-- An attempt that finds no bindings changes nothing. -/
lemma pass_regenerate_of_error {watch : Watch} {state : σ} {cause : Fault}
    (h : bindingsAt state watch.input (givenName watch.name) = .error cause) :
    watch.pass .regenerate state = (watch, state) := by
  rw [pass_eq, perform, regenerate, effect_bind, effect_attempt, h]
  cases cause <;> rfl

/-- An attempt that finds bindings counts when they are written. -/
lemma pass_regenerate_of_write {watch : Watch} {state after : σ} {bindings : String}
    {result : Except Obstacle Unit}
    (h : bindingsAt state watch.input (givenName watch.name) = .ok bindings)
    (houtput : IsPath watch.output)
    (hwrite : FileSystem.write state watch.output bindings = (result, after)) :
    watch.pass .regenerate state =
      ({ watch with generations := watch.generations + result.isOk.toNat }, after) := by
  have hreplaced := effect_replace houtput bindings state
  rw [hwrite] at hreplaced
  rw [pass_eq, perform, regenerate, effect_bind, effect_attempt, h]
  dsimp only
  rw [hreplaced]
  rcases result with (refusal | _) | _ <;> rfl

/-- An attempt to write what is not a path changes nothing. -/
lemma pass_regenerate_of_not_isPath {watch : Watch} (houtput : ¬ IsPath watch.output) (state : σ) :
    watch.pass .regenerate state = (watch, state) := by
  cases hbindings : bindingsAt state watch.input (givenName watch.name) with
  | error cause => exact pass_regenerate_of_error hbindings
  | ok bindings =>
    rw [pass_eq, perform, regenerate, effect_bind, effect_attempt, hbindings]
    dsimp only
    rw [effect_replace_of_not_isPath houtput]
    rfl

/-- A run of a single step ends where the step ends. -/
lemma follow_singleton (watch : Watch) (step : Step σ) (state : σ) :
    watch.follow [step] state = watch.pass step state := rfl

/-- The report of a path that leads to the declaration file makes for an attempt. -/
lemma pass_modified_of_concerns {watch : Watch} {path : String}
    (h : watch.concerns path = true) (state : σ) :
    watch.pass (.modified path) state = watch.pass .regenerate state := by
  rw [pass_eq, pass_eq, perform, perform, modified, if_pos h,
    effect_lift_bind (Traced.note_outcome _)]

/-- The report of any other path is passed over. -/
lemma pass_modified_of_not_concerns {watch : Watch} {path : String}
    (h : ¬ watch.concerns path = true) (state : σ) :
    watch.pass (.modified path) state = (watch, state) := by
  rw [pass_eq, perform, modified, if_neg h]
  rfl

/-! ### Attempts -/

/-- What came of an attempt. -/
inductive Result where
  /-- There are no bindings, or the output cannot be opened. -/
  | failed
  /-- The output was opened and got no more than the beginning of the bindings. -/
  | cutShort (part : List UInt8)
  /-- The bindings were written. -/
  | succeeded (bindings : String)

namespace Result

/-- Whether the bindings were written. -/
def isSuccess : Result → Bool
  | failed | cutShort _ => false
  | succeeded _ => true

/-- What an attempt left in the output, if it opened it. -/
def left? : Result → Option (List UInt8)
  | failed => none
  | cutShort part => some part
  | succeeded bindings => some bindings.toUTF8.toList

end Result

variable [FileView σ]

/-- What came of an attempt to write the bindings of a declaration file to an output, and the files
afterwards. -/
inductive Attempted (input output : String) (name : Option String) (before : σ) : Result → σ → Prop
  /-- The bindings were written, and nothing else changed. -/
  | succeeded {bindings : String} {after : σ} :
    Translates before input name bindings → IsPath output →
    FileSystem.write before output bindings = (.ok (), after) →
    Written before output bindings.toUTF8.toList after →
    Attempted input output name before (.succeeded bindings) after
  /-- The output was opened, and then something kept the bindings from being written. -/
  | cutShort {bindings : String} {obstacle : Obstacle} {part : List UInt8} {after : σ} :
    Translates before input name bindings → IsPath output →
    FileSystem.write before output bindings = (.error obstacle, after) →
    part <+: bindings.toUTF8.toList → Written before output part after →
    Attempted input output name before (.cutShort part) after
  /-- There were no bindings, or the output could not be opened, and nothing changed. -/
  | failed : (∀ bindings, Translates before input name bindings → ¬ Writable before output) →
    Attempted input output name before .failed before

/-- The watch after an attempt. -/
def counting (watch : Watch) (result : Result) : Watch :=
  { watch with generations := watch.generations + result.isSuccess.toNat }

/-- **Attempts.**  Bringing the bindings up to date is an attempt, and the watch counts it when it
succeeds. -/
theorem exists_attempted [LawfulFileSystem σ] (watch : Watch)
    (hinput : Path.normal watch.input = watch.input) (state : σ) :
    ∃ result after,
      Attempted watch.input watch.output (givenName watch.name) state result after ∧
        watch.pass .regenerate state = (watch.counting result, after) := by
  -- The cases follow the attempt: no bindings, an output that is no path, and the three ends of
  -- writing.
  cases hbindings : bindingsAt state watch.input (givenName watch.name) with
  | error cause =>
    refine ⟨.failed, state, .failed fun bindings htranslates => ?_,
      pass_regenerate_of_error hbindings⟩
    rw [← hinput, ← bindingsAt_eq_ok_iff, hbindings] at htranslates
    cases htranslates
  | ok bindings =>
    have htranslates := bindingsAt_eq_ok_iff.mp hbindings
    rw [hinput] at htranslates
    by_cases houtput : IsPath watch.output
    case neg =>
      exact ⟨.failed, state, .failed fun _ _ hwritable => houtput hwritable.1,
        pass_regenerate_of_not_isPath houtput state⟩
    obtain ⟨obstacle, hclosed, hwrite⟩ | ⟨after, hwrite, hwritten⟩ |
      ⟨obstacle, after, part, hwrite, hpart, hwritten⟩ :=
      LawfulFileSystem.write_cases state watch.output bindings
    · refine ⟨.failed, state, .failed fun _ _ hwritable => ?_,
        pass_regenerate_of_write hbindings houtput hwrite⟩
      obtain ⟨place, hopened⟩ := hwritable.2
      rw [hclosed] at hopened
      cases hopened
    · exact ⟨.succeeded bindings, after, .succeeded htranslates houtput hwrite hwritten,
        pass_regenerate_of_write hbindings houtput hwrite⟩
    · exact ⟨.cutShort part, after, .cutShort htranslates houtput hwrite hpart hwritten,
        pass_regenerate_of_write hbindings houtput hwrite⟩

end

/-- On a disk an attempt is cut short when the output can be opened and the bindings cannot be
encoded, and then nothing of them is left. -/
theorem attempted_cutShort_iff [SourceParser] {input output : String} {name : Option String}
    {disk disk' : Disk} {part : List UInt8} :
    Attempted input output name disk (.cutShort part) disk' ↔
      part = [] ∧ ∃ bindings place, Translates disk input name bindings ∧ IsPath output ∧
        disk.openFor output = .ok place ∧ disk.encodes bindings = false ∧
          disk' = disk.withFile place [] := by
  constructor
  · intro h
    cases h with
    | @cutShort bindings _ _ _ htranslates houtput hwrite hpart hwritten =>
      obtain ⟨place, hopened, -⟩ := hwritten.elsewhere
      change disk.openFor output = .ok place at hopened
      change disk.write output bindings = _ at hwrite
      rw [Disk.write_of_openFor hopened] at hwrite
      cases hencodes : disk.encodes bindings with
      | true =>
        rw [hencodes] at hwrite
        cases hwrite
      | false =>
        rw [hencodes] at hwrite
        obtain rfl := congrArg Prod.snd hwrite
        have hempty := (Disk.written_withFile hopened []).fileAt
        have hleft := hwritten.fileAt
        refine ⟨Option.some.inj (hleft.symm.trans hempty), bindings, place, htranslates, houtput,
          hopened, hencodes, rfl⟩
  · rintro ⟨rfl, bindings, place, htranslates, houtput, hopened, hencodes, rfl⟩
    have hwrite : disk.write output bindings = (.error .unencodable, disk.withFile place []) := by
      rw [Disk.write_of_openFor hopened, hencodes]
      rfl
    exact .cutShort htranslates houtput hwrite List.nil_prefix (Disk.written_withFile hopened [])

/-! ### Episodes -/

section

variable {σ : Type}

namespace Step

/-- Whether a step calls for an attempt: it is told to be made, or the path of the declaration file
was reported, in whatever spelling. -/
def CallsFor (directory input : String) : Step σ → Prop
  | regenerate => True
  | modified path => Path.absolute directory path = Path.absolute directory input
  | others _ => False

/-- What becomes of the files in a step that calls for no attempt. -/
def passed (state : σ) : Step σ → σ
  | regenerate | modified _ => state
  | others change => change state

end Step

/-- A step of a run. -/
structure Episode (σ : Type) where
  /-- The files before the step. -/
  before : σ
  step : Step σ
  /-- What came of the attempt, if one was made. -/
  result : Option Result
  /-- The files after the step. -/
  after : σ

variable [SourceParser] [FileSystem σ] [FileView σ]

namespace Episode

/-- Whether an attempt was made and succeeded. -/
def succeeds (episode : Episode σ) : Bool :=
  episode.result.any Result.isSuccess

/-- What an attempt left in the output, if one was made and opened it. -/
def left? (episode : Episode σ) : Option (List UInt8) :=
  episode.result.bind Result.left?

/-- If an attempt was made and did not succeed, everything is as it was. -/
def Harmless (episode : Episode σ) : Prop :=
  ∀ result, episode.result = some result → result.isSuccess = false →
    Unchanged episode.before episode.after

/-- An attempt is made when one is called for, and otherwise only others change the files. -/
structure Faithful (directory input : String) (output : Option String) (name : String)
    (episode : Episode σ) : Prop where
  attempted : episode.step.CallsFor directory input → ∃ result, episode.result = some result ∧
    Attempted (Path.absolute directory input) (outputPath input output) (givenName name)
      episode.before result episode.after
  passed : ¬ episode.step.CallsFor directory input →
    episode.result = none ∧ episode.after = episode.step.passed episode.before

variable {directory input : String} {output : Option String} {name : String} {episode : Episode σ}

/-- **Failures.**  An attempt that does not succeed leaves everything as it was unless it is cut
short, and then exactly when it found in the output what it left there. -/
lemma Faithful.harmless_iff (h : episode.Faithful directory input output name) :
    episode.Harmless ↔ ∀ part, episode.result = some (.cutShort part) →
      Holds episode.before (outputPath input output) part := by
  obtain ⟨before, step, result, after⟩ := episode
  constructor
  · intro hharmless part hresult
    obtain rfl : result = some (.cutShort part) := hresult
    by_cases hcalls : step.CallsFor directory input
    · obtain ⟨result, hresult, hattempted⟩ := h.attempted hcalls
      obtain rfl := Option.some.inj hresult
      cases hattempted with
      | cutShort _ _ _ _ hwritten => exact hwritten.unchanged_iff.mp (hharmless _ rfl rfl)
    · cases (h.passed hcalls).1
  · intro hheld result hresult hfailed
    by_cases hcalls : step.CallsFor directory input
    · obtain ⟨result', hresult', hattempted⟩ := h.attempted hcalls
      obtain rfl := Option.some.inj (hresult.symm.trans hresult')
      cases hattempted with
      | succeeded _ _ _ _ => cases hfailed
      | cutShort _ _ _ _ hwritten => exact hwritten.unchanged_iff.mpr (hheld _ hresult)
      | failed _ => exact fun _ => rfl
    · rw [(h.passed hcalls).1] at hresult
      cases hresult

/-- After a step the output holds what an attempt left in it, if one opened it, and otherwise what
it held before, unless somebody else wrote it. -/
lemma Faithful.fileAt?_output (h : episode.Faithful directory input output name)
    (halone : ¬ episode.step.CallsFor directory input →
      fileAt? episode.after (outputPath input output) =
        fileAt? episode.before (outputPath input output)) :
    fileAt? episode.after (outputPath input output) =
      (episode.left? <|> fileAt? episode.before (outputPath input output)) := by
  obtain ⟨before, step, result, after⟩ := episode
  by_cases hcalls : step.CallsFor directory input
  · obtain ⟨result, rfl, hattempted⟩ := h.attempted hcalls
    cases hattempted with
    | succeeded _ _ _ hwritten => exact hwritten.fileAt
    | cutShort _ _ _ _ hwritten => exact hwritten.fileAt
    | failed _ => rfl
  · obtain ⟨rfl, -⟩ := h.passed hcalls
    exact halone hcalls

/-- **Successes.**  A successful attempt leaves in the output the bindings of what the declaration
file holds at that moment. -/
lemma Faithful.translated [LawfulFileSystem σ] (h : episode.Faithful directory input output name)
    {bindings : String} (hresult : episode.result = some (.succeeded bindings)) :
    (∃ bytes text, fileAt? episode.before (Path.absolute directory input) = some bytes ∧
        sourceOfBytes bytes = .ok text ∧
        (bindingsOfSource text (Path.absolute directory input) (givenName name)).outcome =
          .ok bindings) ∧
      fileAt? episode.after (outputPath input output) = some bindings.toUTF8.toList := by
  by_cases hcalls : episode.step.CallsFor directory input
  · obtain ⟨result, hresult', hattempted⟩ := h.attempted hcalls
    obtain rfl := Option.some.inj (hresult.symm.trans hresult')
    cases hattempted with
    | succeeded htranslates _ _ hwritten =>
      exact ⟨htranslates.exists_fileAt?, hwritten.fileAt⟩
  · rw [(h.passed hcalls).1] at hresult
    cases hresult

end Episode

/-! ### Runs -/

/-- The episodes lead from the first state to the last one. -/
inductive Chained : σ → List (Episode σ) → σ → Prop
  | nil (state : σ) : Chained state [] state
  | cons {episode : Episode σ} {episodes : List (Episode σ)} {last : σ} :
    Chained episode.after episodes last → Chained episode.before (episode :: episodes) last

/-- How many attempts succeeded in the course of some episodes. -/
def successes (episodes : List (Episode σ)) : Nat :=
  episodes.countP (·.succeeds)

/-- What was left in the output in the course of some episodes, in order. -/
def leftIn (episodes : List (Episode σ)) : List (List UInt8) :=
  episodes.filterMap (·.left?)

variable {directory input : String} {output : Option String} {name : String}

/-- **What the output holds.**  As long as the steps that call for no attempt leave the output
alone, it holds what the last attempt that opened it left, or what it held in the beginning. -/
theorem fileAt?_of_chained {state last : σ} {episodes : List (Episode σ)}
    (hchained : Chained state episodes last)
    (hfaithful : ∀ episode ∈ episodes, episode.Faithful directory input output name)
    (halone : ∀ episode ∈ episodes, ¬ episode.step.CallsFor directory input →
      fileAt? episode.after (outputPath input output) =
        fileAt? episode.before (outputPath input output)) :
    fileAt? last (outputPath input output) =
      ((leftIn episodes).getLast? <|> fileAt? state (outputPath input output)) := by
  induction hchained with
  | nil => rfl
  | @cons episode episodes last hrest ih =>
    obtain ⟨hfirst, hothers⟩ := List.forall_mem_cons.mp hfaithful
    obtain ⟨halone', halones⟩ := List.forall_mem_cons.mp halone
    rw [ih hothers halones, hfirst.fileAt?_output halone', leftIn, leftIn, List.filterMap_cons]
    cases episode.left? with
    | none => rfl
    | some left =>
      rw [List.getLast?_cons]
      cases (episodes.filterMap (·.left?)).getLast? <;> rfl

variable [LawfulFileSystem σ]

/-- **One step.**  Every step is a faithful episode, and the watch counts what succeeds. -/
theorem pass_faithful (directory input : String) (output : Option String) (name : String)
    (count : Nat) (step : Step σ) (state : σ) :
    ∃ episode : Episode σ, episode.before = state ∧ episode.step = step ∧
      episode.Faithful directory input output name ∧
      (counted directory input output name count).pass step state =
        (counted directory input output name (count + episode.succeeds.toNat), episode.after) := by
  obtain ⟨result, after, hattempted, hpass⟩ :=
    exists_attempted (counted directory input output name count)
      (Path.normal_absolute directory input) state
  have hattempt : ∀ step : Step σ, step.CallsFor directory input →
      Episode.Faithful directory input output name ⟨state, step, some result, after⟩ :=
    fun step hcalls => ⟨fun _ => ⟨result, rfl, hattempted⟩, fun hno => absurd hcalls hno⟩
  have hpassed : ∀ step : Step σ, ¬ step.CallsFor directory input →
      Episode.Faithful directory input output name ⟨state, step, none, step.passed state⟩ :=
    fun step hcalls => ⟨fun hyes => absurd hyes hcalls, fun _ => ⟨rfl, rfl⟩⟩
  cases step with
  | regenerate => exact ⟨_, rfl, rfl, hattempt .regenerate trivial, hpass⟩
  | modified path =>
    by_cases hcalls : Path.absolute directory path = Path.absolute directory input
    · have hconcerns : (counted directory input output name count).concerns path = true :=
        concerns_counted_iff.mpr hcalls
      have hmodified := pass_modified_of_concerns hconcerns state
      exact ⟨_, rfl, rfl, hattempt (.modified path) hcalls, hmodified.trans hpass⟩
    · have hconcerns : ¬ (counted directory input output name count).concerns path = true :=
        fun h => hcalls (concerns_counted_iff.mp h)
      have hmodified := pass_modified_of_not_concerns hconcerns state
      exact ⟨_, rfl, rfl, hpassed (.modified path) hcalls, hmodified⟩
  | others change => exact ⟨_, rfl, rfl, hpassed (.others change) not_false, rfl⟩

/-- **Runs.**  Every run consists of faithful episodes, and the watch counts what succeeds. -/
theorem follow_episodes (directory input : String) (output : Option String) (name : String)
    (count : Nat) (steps : List (Step σ)) (state : σ) :
    ∃ (episodes : List (Episode σ)) (last : σ), Chained state episodes last ∧
      episodes.map (·.step) = steps ∧
      (∀ episode ∈ episodes, episode.Faithful directory input output name) ∧
      (counted directory input output name count).follow steps state =
        (counted directory input output name (count + successes episodes), last) := by
  -- The count is general, since the rest of a run begins with what the first step has added.
  induction steps generalizing count state with
  | nil => exact ⟨[], state, .nil state, rfl, fun _ hmem => (nomatch hmem), rfl⟩
  | cons step steps ih =>
    obtain ⟨episode, rfl, rfl, hfaithful, hpass⟩ :=
      pass_faithful directory input output name count step state
    obtain ⟨episodes, last, hchained, hsteps, hepisodes, hfollow⟩ :=
      ih (count + episode.succeeds.toNat) episode.after
    refine ⟨episode :: episodes, last, .cons hchained, by rw [List.map_cons, hsteps],
      List.forall_mem_cons.mpr ⟨hfaithful, hepisodes⟩, ?_⟩
    have hcount : count + episode.succeeds.toNat + successes episodes =
        count + successes (episode :: episodes) := by
      rw [successes, successes, List.countP_cons]
      cases episode.succeeds with
      | false => rfl
      | true =>
        rw [if_pos rfl, Bool.toNat_true]
        omega
    rw [follow, hpass]
    dsimp only
    rw [hfollow, hcount]

/-- An account of a run: its episodes, one for each step, and what follows from them for the watch
and the files in the end. -/
structure Account (directory input : String) (output : Option String) (name : String) (state : σ)
    (steps : List (Step σ)) (watch : Watch) (last : σ) (episodes : List (Episode σ)) : Prop where
  chained : Chained state episodes last
  steps : episodes.map (·.step) = steps
  /-- An attempt is made where one is called for, and nowhere else. -/
  faithful : ∀ episode ∈ episodes, episode.Faithful directory input output name
  /-- An attempt that succeeds leaves in the output the bindings of what the declaration file holds at
  that moment. -/
  translated : ∀ episode ∈ episodes, ∀ bindings, episode.result = some (.succeeded bindings) →
    (∃ bytes text, fileAt? episode.before (Path.absolute directory input) = some bytes ∧
        sourceOfBytes bytes = .ok text ∧
        (bindingsOfSource text (Path.absolute directory input) (givenName name)).outcome =
          .ok bindings) ∧
      fileAt? episode.after (outputPath input output) = some bindings.toUTF8.toList
  /-- The counter is the number of attempts that succeeded. -/
  counted : watch = { ofPaths directory input output name with generations := successes episodes }
  /-- The attempts that do not succeed change nothing exactly when each one that is cut short finds
  in the output what it leaves there. -/
  harmless_iff : (∀ episode ∈ episodes, episode.Harmless) ↔
    ∀ episode ∈ episodes, ∀ part, episode.result = some (.cutShort part) →
      Holds episode.before (outputPath input output) part
  /-- If nobody else writes the output, it holds what was left in it last. -/
  output : (∀ episode ∈ episodes, ¬ episode.step.CallsFor directory input →
      fileAt? episode.after (outputPath input output) =
        fileAt? episode.before (outputPath input output)) →
    fileAt? last (outputPath input output) =
      ((leftIn episodes).getLast? <|> fileAt? state (outputPath input output))

/-- **What a watch keeps.**  A watch over a declaration file is followed through steps of any kind,
on any lawful file system.  Its run consists of one episode for each step.  An attempt is made when
the bindings are to be brought up to date and when a path with the same absolute form as that of the
declaration file is reported as modified, and at no other step.  If it succeeds, it leaves the
bindings of the declaration file, as it is at that moment, in the output, and every other place as
it was, and it is counted.  If there are no bindings or the output cannot be opened, it changes
nothing.  The attempts that do not succeed keep the old output exactly when none of them is cut
short after it has opened the output, or when the output then held the same before. -/
theorem follow_faithful (directory input : String) (output : Option String) (name : String)
    (steps : List (Step σ)) (state : σ) :
    ∃ episodes, Account directory input output name state steps
      ((ofPaths directory input output name).follow steps state).1
      ((ofPaths directory input output name).follow steps state).2 episodes := by
  obtain ⟨episodes, last, hchained, hsteps, hfaithful, hfollow⟩ :=
    follow_episodes directory input output name 0 steps state
  have hrun : (ofPaths directory input output name).follow steps state =
      (counted directory input output name (successes episodes), last) := by
    rw [← Nat.zero_add (successes episodes)]
    exact hfollow
  rw [hrun]
  exact ⟨episodes, {
    chained := hchained
    steps := hsteps
    faithful := hfaithful
    translated := fun episode hmem _ hresult => (hfaithful episode hmem).translated hresult
    counted := rfl
    harmless_iff := forall₂_congr fun episode hmem => (hfaithful episode hmem).harmless_iff
    output := fileAt?_of_chained hchained hfaithful }⟩

end

/-- Steps of a run in which the declaration file is there for some time only. -/
def sampleSteps : List (Step Disk) :=
  [.regenerate, .others (·.put "a.d.ts" (.file [])), .modified "./b/../a.d.ts", .modified "b.d.ts",
    .others (·.remove "a.d.ts"), .modified "a.d.ts"]

/-- There is an account of the run of the sample, in which one attempt succeeds. -/
theorem follow_sampleSteps :
    ∃ episodes, Account "/home" "a.d.ts" none "" (.empty "/home") sampleSteps
        ((ofPaths "/home" "a.d.ts" none "").follow sampleSteps (.empty "/home")).1
        ((ofPaths "/home" "a.d.ts" none "").follow sampleSteps (.empty "/home")).2 episodes ∧
      successes episodes = 1 := by
  obtain ⟨episodes, haccount⟩ :=
    follow_faithful "/home" "a.d.ts" none "" sampleSteps (Disk.empty "/home")
  refine ⟨episodes, haccount, ?_⟩
  have hcounted := congrArg Watch.generations haccount.counted
  have hone : ((ofPaths "/home" "a.d.ts" none "").follow sampleSteps
      (Disk.empty "/home")).1.generations = 1 := by
    decide +kernel
  exact hcounted.symm.trans hone

/-! ### A name without encoding -/

/-- A name that is no text. -/
def strayName : String :=
  "\uf8ff"

/-- A disk with a declaration file and older bindings, on which the name can be encoded in paths
only. -/
def strayDisk : Disk :=
  { ((Disk.empty "/home").put "a.d.ts"
        (.file "declare class A \x7b constructor(); \x7d\n".toUTF8.toList)).put "a.re"
      (.file "old\n".toUTF8.toList) with
    coding := fun c => if c = '\uf8ff' then .path else .text }

/-- A watch over the declaration file with that name. -/
def strayWatch : Watch :=
  ofPaths "/home" "a.d.ts" none strayName

/-- The bindings of that declaration file. -/
def strayBindings : String :=
  "let module A = \x7b\n" ++
  "  type t;\n" ++
  "\n" ++
  "  external make : unit => t = \"A\" [@@bs.new] [@@bs.module \"\uf8ff\"];\n" ++
  "\x7d;\n" ++
  "\n"

/-- **A failed attempt can lose the old output.**  The declaration file has bindings, which name the
library, and the output can be opened.  The attempt does not succeed, and the output is empty
afterwards. -/
theorem follow_strayName :
    bindingsAt strayDisk strayWatch.input (givenName strayName) = .ok strayBindings ∧
    Writable strayDisk "a.re" ∧
    fileAt? strayDisk "a.re" = some "old\n".toUTF8.toList ∧
    (strayWatch.follow [.regenerate] strayDisk).1.generations = 0 ∧
    fileAt? (strayWatch.follow [.regenerate] strayDisk).2 "a.re" = some [] := by
  -- The declaration file is parsed and translated once, and the disk stays folded after that.
  have hbindings : bindingsAt strayDisk strayWatch.input (givenName strayWatch.name) =
      .ok strayBindings := by
    decide +kernel
  have houtput : strayWatch.output = "a.re" := by decide
  have hpath : IsPath "a.re" := by decide
  have hopened : strayDisk.openFor "a.re" = .ok ["home", "a.re"] := by decide +kernel
  have hencodes : strayDisk.encodes strayBindings = false := by decide +kernel
  have hwrite : FileSystem.write strayDisk strayWatch.output strayBindings =
      (.error .unencodable, strayDisk.withFile ["home", "a.re"] []) := by
    rw [houtput]
    change strayDisk.write "a.re" strayBindings = _
    rw [Disk.write_of_openFor hopened, hencodes]
    rfl
  have hrun : strayWatch.follow [.regenerate] strayDisk =
      (strayWatch, strayDisk.withFile ["home", "a.re"] []) := by
    rw [follow_singleton, pass_regenerate_of_write hbindings (by rw [houtput]; exact hpath) hwrite]
    rfl
  rw [hrun]
  exact ⟨hbindings, ⟨hpath, _, hopened⟩, by decide +kernel, rfl,
    (Disk.written_withFile hopened []).fileAt⟩

end ReasonBindings.Watch
