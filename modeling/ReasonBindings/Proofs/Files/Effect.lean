import Mathlib.Tactic.Lemma
import ReasonBindings.Bindings
import ReasonBindings.Proofs.Files.System

/-!
# Effects on files

A computation that reads and writes files ends in a value or in a fault and leaves a state
behind.  Both together are its *effect*; the notices are left aside.  The effect of a
sequence is made up of those of its parts, so what a command does to the files is found by
going through the command once.
-/

namespace ReasonBindings

namespace TracedIn

variable {σ α β : Type}

/-- What a computation ends in and the state that it leaves behind, begun in the given state. -/
def effect (computation : TracedIn (StateM σ) α) (state : σ) : Except Fault α × σ :=
  ((StateT.run computation.run state).1.outcome, (StateT.run computation.run state).2)

@[simp] lemma effect_lift (traced : Traced α) (state : σ) :
    (liftM traced : TracedIn (StateM σ) α).effect state = (traced.outcome, state) := rfl

@[simp] lemma effect_action (action : StateM σ α) (state : σ) :
    (liftM action : TracedIn (StateM σ) α).effect state =
      (.ok (StateT.run action state).1, (StateT.run action state).2) := rfl

/-- In a sequence the second part begins where the first one ends, unless that is a fault. -/
lemma effect_bind (first : TracedIn (StateM σ) α) (next : α → TracedIn (StateM σ) β) (state : σ) :
    (first >>= next).effect state =
      match first.effect state with
      | (.ok value, after) => (next value).effect after
      | (.error fault, after) => (.error fault, after) := by
  change (TracedIn.bind first next).effect state = _
  unfold effect TracedIn.bind
  rw [StateT.run_bind]
  obtain ⟨⟨notices, outcome⟩, after⟩ := StateT.run first.run state
  cases outcome with
  | error fault => rfl
  | ok value => rfl

/-- A computation without actions hands its value on. -/
lemma effect_lift_bind {traced : Traced α} {value : α} (h : traced.outcome = .ok value)
    (next : α → TracedIn (StateM σ) β) (state : σ) :
    ((liftM traced : TracedIn (StateM σ) α) >>= next).effect state = (next value).effect state := by
  rw [effect_bind, effect_lift, h]

/-- A located error becomes a value; other faults stay faults. -/
lemma effect_caught (computation : TracedIn (StateM σ) α) (state : σ) :
    computation.caught.effect state =
      ((Traced.caught ⟨[], (computation.effect state).1⟩).outcome,
        (computation.effect state).2) := by
  unfold effect caught
  rw [StateT.run_bind]
  obtain ⟨⟨notices, outcome⟩, after⟩ := StateT.run computation.run state
  rcases outcome with fault | value
  · cases fault <;> rfl
  · rfl

end TracedIn

/-! ### Reading and writing -/

/-- What an operation on the file at a path ends in. -/
def told {α : Type} (path : String) : Except Obstacle α → Except Fault (Except String α)
  | .ok value => .ok (.ok value)
  | .error (.refused refusal) => .ok (.error (refusal.message path))
  | .error .unencodable => .error .unencodable

section

open TracedIn

variable {σ : Type} {path : String}

/-- An operation on the file at a path has its own effect. -/
lemma effect_atPath {α : Type} (h : IsPath path) (operation : StateM σ (Except Obstacle α))
    (state : σ) :
    (FileAccess.atPath path operation : TracedIn (StateM σ) (Except String α)).effect state =
      (told path (StateT.run operation state).1, (StateT.run operation state).2) := by
  have hpath : ¬ path.toList.contains '\x00' = true := by simpa [IsPath] using h
  rw [FileAccess.atPath, if_neg hpath, effect_bind, effect_action]
  obtain ⟨result, after⟩ := StateT.run operation state
  rcases result with (refusal | _) | value <;> rfl

/-- There is no file at what is not a path. -/
lemma effect_atPath_of_not_isPath {α : Type} (h : ¬ IsPath path)
    (operation : StateM σ (Except Obstacle α)) (state : σ) :
    (FileAccess.atPath path operation : TracedIn (StateM σ) (Except String α)).effect state =
      (.error .nulInPath, state) := by
  have hpath : path.toList.contains '\x00' = true := by simpa [IsPath] using h
  rw [FileAccess.atPath, if_pos hpath]
  rfl

variable [FileSystem σ]

/-- Reading a file changes nothing. -/
lemma effect_contents (h : IsPath path) (state : σ) :
    (FileAccess.contents path : TracedIn (StateM σ) _).effect state =
      (told path (FileSystem.read state path), state) :=
  effect_atPath h _ state

/-- What is not a path is not read. -/
lemma effect_contents_of_not_isPath (h : ¬ IsPath path) (state : σ) :
    (FileAccess.contents path : TracedIn (StateM σ) _).effect state = (.error .nulInPath, state) :=
  effect_atPath_of_not_isPath h _ state

/-- Writing a file has the effect that it has on the files. -/
lemma effect_replace (h : IsPath path) (text : String) (state : σ) :
    (FileAccess.replace path text : TracedIn (StateM σ) _).effect state =
      (told path (FileSystem.write state path text).1, (FileSystem.write state path text).2) :=
  effect_atPath h _ state

/-- What is not a path is not written. -/
lemma effect_replace_of_not_isPath (h : ¬ IsPath path) (text : String) (state : σ) :
    (FileAccess.replace path text : TracedIn (StateM σ) _).effect state =
      (.error .nulInPath, state) :=
  effect_atPath_of_not_isPath h _ state

/-- Where a file can be opened and takes the whole text, it is written. -/
lemma exists_replaced [FileView σ] [LawfulFileSystem σ] {state : σ} {text : String}
    (h : Writable state path)
    (hwhole : (FileSystem.write state path text).1 = .ok ()) :
    ∃ after, Written state path text.toUTF8.toList after ∧
      (FileAccess.replace path text : TracedIn (StateM σ) _).effect state =
        (.ok (.ok ()), after) := by
  obtain ⟨hpath, place, hplace⟩ := h
  obtain ⟨part, -, hwritten, hpart⟩ := LawfulFileSystem.write_of_opened text hplace
  obtain rfl := hpart hwhole
  refine ⟨_, hwritten, ?_⟩
  rw [effect_replace hpath, hwhole]
  rfl

/-- Elsewhere a reason is told, or a fault is the end, and nothing changes. -/
lemma replace_of_not_writable [FileView σ] [LawfulFileSystem σ] {state : σ}
    (h : ¬ Writable state path) (text : String) :
    (∃ reason, (FileAccess.replace path text : TracedIn (StateM σ) _).effect state =
        (.ok (.error reason), state)) ∨
      ∃ cause, (FileAccess.replace path text : TracedIn (StateM σ) _).effect state =
        (.error cause, state) := by
  by_cases hpath : IsPath path
  · cases hopened : FileView.opened state path with
    | ok place => exact absurd ⟨hpath, place, hopened⟩ h
    | error obstacle =>
      rw [effect_replace hpath, LawfulFileSystem.write_of_closed text hopened]
      cases obstacle with
      | refused refusal => exact Or.inl ⟨_, rfl⟩
      | unencodable => exact Or.inr ⟨_, rfl⟩
  · exact Or.inr ⟨_, effect_replace_of_not_isPath hpath text state⟩

variable [SourceParser]

/-- What the declaration file at a path gives: its bindings, or the fault that keeps it from having
some. -/
def bindingsAt (state : σ) (path : String) (name : Option String) : Except Fault String :=
  ((bindingsOfFile path name : TracedIn (StateM σ) String).effect state).1

/-- What is found depends on what is read. -/
lemma effect_bindingsOfFile_eq (h : IsPath (Path.normal path)) (name : Option String) (state : σ) :
    (bindingsOfFile path name : TracedIn (StateM σ) String).effect state =
      (match told (Path.normal path) (FileSystem.read state (Path.normal path)) with
      | .ok contents => (bindingsOfContents (Path.normal path) name contents).outcome
      | .error cause => .error cause, state) := by
  rw [bindingsOfFile, effect_lift_bind (Traced.note_outcome _), effect_bind, effect_contents h]
  cases told (Path.normal path) (FileSystem.read state (Path.normal path)) with
  | error cause => rfl
  | ok contents => rfl

/-- Nothing is found at what is not a path. -/
lemma effect_bindingsOfFile_of_not_isPath (h : ¬ IsPath (Path.normal path)) (name : Option String)
    (state : σ) :
    (bindingsOfFile path name : TracedIn (StateM σ) String).effect state =
      (.error .nulInPath, state) := by
  rw [bindingsOfFile, effect_lift_bind (Traced.note_outcome _), effect_bind,
    effect_contents_of_not_isPath h]

/-- Finding the bindings of a declaration file changes nothing. -/
lemma effect_bindingsOfFile (path : String) (name : Option String) (state : σ) :
    (bindingsOfFile path name : TracedIn (StateM σ) String).effect state =
      (bindingsAt state path name, state) := by
  rw [bindingsAt]
  by_cases hpath : IsPath (Path.normal path)
  · rw [effect_bindingsOfFile_eq hpath]
  · rw [effect_bindingsOfFile_of_not_isPath hpath]

/-- The bindings of a declaration file are found, or the fault that is there instead is told when it
is a located error. -/
lemma effect_caught_bindings (path : String) (name : Option String) (state : σ) :
    (bindingsOfFile path name : TracedIn (StateM σ) String).caught.effect state =
      ((Traced.caught ⟨[], bindingsAt state path name⟩).outcome, state) := by
  rw [effect_caught, effect_bindingsOfFile]

/-! ### Declaration files with bindings -/

/-- Contents have bindings when they are text that has bindings. -/
lemma bindingsOfContents_eq_ok_iff {contents : Except String (List UInt8)} {name : Option String}
    {bindings : String} :
    (bindingsOfContents path name contents).outcome = .ok bindings ↔
      ∃ bytes text, contents = .ok bytes ∧ sourceOfBytes bytes = .ok text ∧
        (bindingsOfSource text path name).outcome = .ok bindings := by
  rw [bindingsOfContents]
  constructor
  · intro h
    split at h
    case h_1 => cases h
    case h_2 text hsource =>
      obtain ⟨bytes, hbytes, htext⟩ := bind_eq_ok_iff.mp hsource
      exact ⟨bytes, text, hbytes, htext, h⟩
  · rintro ⟨bytes, text, rfl, htext, h⟩
    rw [Except.bind, htext]
    exact h

/-- The file at a path can be read as a text with the given bindings. -/
def Translates (state : σ) (path : String) (name : Option String) (bindings : String) : Prop :=
  IsPath path ∧ ∃ bytes text, FileSystem.read state path = .ok bytes ∧
    sourceOfBytes bytes = .ok text ∧ (bindingsOfSource text path name).outcome = .ok bindings

/-- The text with the bindings is what the file at the path holds. -/
lemma Translates.exists_fileAt? [FileView σ] [LawfulFileSystem σ] {state : σ} {name : Option String}
    {bindings : String} (h : Translates state path name bindings) :
    ∃ bytes text, fileAt? state path = some bytes ∧ sourceOfBytes bytes = .ok text ∧
      (bindingsOfSource text path name).outcome = .ok bindings := by
  obtain ⟨-, bytes, text, hread, htext, hbindings⟩ := h
  exact ⟨bytes, text, LawfulFileSystem.fileAt?_of_read hread, htext, hbindings⟩

/-- The bindings of a declaration file are those of the text that is read at its path. -/
lemma bindingsAt_eq_ok_iff {state : σ} {name : Option String} {bindings : String} :
    bindingsAt state path name = .ok bindings ↔
      Translates state (Path.normal path) name bindings := by
  rw [Translates, bindingsAt]
  by_cases hpath : IsPath (Path.normal path)
  · rw [effect_bindingsOfFile_eq hpath, and_iff_right hpath]
    rcases FileSystem.read state (Path.normal path) with (refusal | _) | bytes
    · exact bindingsOfContents_eq_ok_iff.trans (by simp)
    · simp [told]
    · exact bindingsOfContents_eq_ok_iff.trans (by simp)
  · rw [effect_bindingsOfFile_of_not_isPath hpath]
    simp [hpath]

end

end ReasonBindings
