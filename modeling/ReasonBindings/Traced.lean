import ReasonBindings.Fault
import ReasonBindings.Notice

/-!
# Traced computations

A traced computation has a list of notices and an outcome, which is a value or a
fault.  The notices that arose before a fault are kept.  In a sequence of two
computations the notices follow each other, and the second one does not take
place when the first one ends in a fault.
-/

namespace ReasonBindings

/-- A computation with its notices and its outcome. -/
structure Traced (α : Type) where
  notices : List Notice
  outcome : Except Fault α

namespace Traced

variable {α β : Type}

/-- A value without notices. -/
protected def pure (value : α) : Traced α :=
  ⟨[], .ok value⟩

/-- One computation after another. -/
protected def bind (first : Traced α) (next : α → Traced β) : Traced β :=
  match first.outcome with
  | .error fault => ⟨first.notices, .error fault⟩
  | .ok value =>
    let later := next value
    ⟨first.notices ++ later.notices, later.outcome⟩

/-- A function of the value of a computation. -/
protected def map (f : α → β) (traced : Traced α) : Traced β :=
  ⟨traced.notices, traced.outcome.map f⟩

instance : Monad Traced where
  pure := Traced.pure
  bind := Traced.bind
  map := Traced.map

/-- Reports a notice. -/
def note (notice : Notice) : Traced Unit :=
  ⟨[notice], .ok ()⟩

/-- Ends in a fault. -/
def fault (cause : Fault) : Traced α :=
  ⟨[], .error cause⟩

/-- The value of an attribute; a fault when the node at hand does not have that attribute. -/
def present : Option α → Traced α
  | some value => Traced.pure value
  | none => fault .missingAttribute

/-- The value of a computation that ends well. -/
def value? (traced : Traced α) : Option α :=
  traced.outcome.toOption

/-- The results of a list of computations, one after another. -/
def all : List (Traced α) → Traced (List α)
  | [] => pure []
  | first :: rest => do
    let value ← first
    (value :: ·) <$> all rest

/-- The notices of a computation that are shown from the given level on. -/
def shown (threshold : Level) (traced : Traced α) : List Notice :=
  traced.notices.filter (·.reaches threshold)

@[simp] theorem pure_notices (value : α) : (pure value : Traced α).notices = [] := rfl

@[simp] theorem pure_outcome (value : α) : (pure value : Traced α).outcome = .ok value := rfl

@[simp] theorem map_notices (f : α → β) (traced : Traced α) :
    (f <$> traced).notices = traced.notices := rfl

@[simp] theorem map_outcome (f : α → β) (traced : Traced α) :
    (f <$> traced).outcome = traced.outcome.map f := rfl

@[simp] theorem note_notices (notice : Notice) : (note notice).notices = [notice] := rfl

@[simp] theorem note_outcome (notice : Notice) : (note notice).outcome = .ok () := rfl

@[simp] theorem fault_notices (cause : Fault) : (fault cause : Traced α).notices = [] := rfl

@[simp] theorem fault_outcome (cause : Fault) :
    (fault cause : Traced α).outcome = .error cause := rfl

@[simp] theorem present_some (value : α) : present (some value) = pure value := rfl

@[simp] theorem present_none : (present none : Traced α) = fault .missingAttribute := rfl

/-- Nothing before a computation changes nothing. -/
@[simp] theorem pure_bind (value : α) (next : α → Traced β) :
    (pure value >>= next) = next value := rfl

/-- Nothing after a computation changes nothing. -/
@[simp] theorem bind_pure (traced : Traced α) : (traced >>= pure) = traced := by
  obtain ⟨notices, outcome⟩ := traced
  cases outcome <;> simp [Bind.bind, Traced.bind]

/-- Sequences associate. -/
theorem bind_assoc {γ : Type} (traced : Traced α) (next : α → Traced β) (last : β → Traced γ) :
    (traced >>= next >>= last) = traced >>= fun value => next value >>= last := by
  obtain ⟨notices, outcome⟩ := traced
  cases outcome with
  | error => rfl
  | ok value =>
    simp only [Bind.bind, Traced.bind]
    cases (next value).outcome <;> simp

/-- A fault is the end. -/
@[simp] theorem fault_bind (cause : Fault) (next : α → Traced β) :
    (fault cause >>= next) = fault cause := rfl

/-- A function of the value is a computation that follows. -/
theorem bind_pure_comp (f : α → β) (traced : Traced α) :
    (traced >>= fun value => pure (f value)) = f <$> traced := by
  obtain ⟨notices, outcome⟩ := traced
  cases outcome <;> simp [Bind.bind, Traced.bind, Functor.map, Traced.map, Except.map]

instance : LawfulMonad Traced :=
  LawfulMonad.mk' Traced
    (fun traced => by
      obtain ⟨notices, outcome⟩ := traced
      cases outcome <;> rfl)
    pure_bind bind_assoc (fun _ _ => rfl) (fun _ _ => rfl) (fun _ _ => rfl) bind_pure_comp
    (fun _ _ => rfl)

end Traced

end ReasonBindings
