import ReasonBindings.Traced

/-!
# Traced computations that act

A traced computation that takes place in a monad, such as one that reads and
writes files.  As with pure traced computations, notices follow each other and a
fault is the end; what was done before the fault stays done.
-/

namespace ReasonBindings

namespace Traced

/-- A located error as a value; other faults stay faults. -/
def caught {α : Type} (traced : Traced α) : Traced (Except LocatedError α) :=
  match traced.outcome with
  | .ok value => ⟨traced.notices, .ok (.ok value)⟩
  | .error (.located error) => ⟨traced.notices, .ok (.error error)⟩
  | .error fault => ⟨traced.notices, .error fault⟩

end Traced

/-- A traced computation that takes place in a monad. -/
structure TracedIn (m : Type → Type) (α : Type) where
  /-- The action that yields the notices and the outcome. -/
  run : m (Traced α)

namespace TracedIn

variable {m : Type → Type} [Monad m] {α β : Type}

/-- An action without notices. -/
def ofAction (action : m α) : TracedIn m α :=
  ⟨do return Traced.pure (← action)⟩

/-- A traced computation without actions. -/
def ofTraced (traced : Traced α) : TracedIn m α :=
  ⟨pure traced⟩

/-- One computation after another. -/
protected def bind (first : TracedIn m α) (next : α → TracedIn m β) : TracedIn m β where
  run := do
    let earlier ← first.run
    match earlier.outcome with
    | .error fault => return ⟨earlier.notices, .error fault⟩
    | .ok value =>
      let later ← (next value).run
      return ⟨earlier.notices ++ later.notices, later.outcome⟩

instance : Monad (TracedIn m) where
  pure value := ofTraced (Traced.pure value)
  bind := TracedIn.bind

instance : MonadLift m (TracedIn m) where
  monadLift := ofAction

instance : MonadLift Traced (TracedIn m) where
  monadLift := ofTraced

/-- A located error as a value; other faults stay faults. -/
def caught (computation : TracedIn m α) : TracedIn m (Except LocatedError α) :=
  ⟨do return (← computation.run).caught⟩

end TracedIn

end ReasonBindings
