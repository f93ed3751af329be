import Switchboard.Journal

/-!
Runs: computations that keep a journal and may be cut short by a panic.

A panic ends the run at once with a text; the library never catches one, but the
journal up to it is kept. `Run.within` puts a run inside a span, which is left
again whether the run returns or panics (`Run.balanced_within`).
-/

namespace Switchboard

/-- How a run ends. -/
inductive Outcome (α : Type) where
  | returned (value : α)
  | panicked (text : String)
deriving DecidableEq, Repr

/-- The outcome with the returned value changed; a panic stays as it is. -/
def Outcome.map {α β : Type} (f : α → β) : Outcome α → Outcome β
  | returned value => returned (f value)
  | panicked text => panicked text

/-- A computation that was run: what it left behind and how it ended. -/
structure Run (α : Type) where
  journal : Journal
  outcome : Outcome α
deriving DecidableEq, Repr

namespace Run

variable {α β : Type}

/-! ### Sequencing -/

/-- Run one computation and, if it returns, the next one on its value. -/
def andThen (first : Run α) (next : α → Run β) : Run β :=
  match first.outcome with
  | .returned value => ⟨first.journal ++ (next value).journal, (next value).outcome⟩
  | .panicked text => ⟨first.journal, .panicked text⟩

instance : Monad Run where
  pure value := ⟨[], .returned value⟩
  bind := andThen

theorem bind_of_returned {first : Run α} {value : α} (returned : first.outcome = .returned value)
    (next : α → Run β) :
    first >>= next = ⟨first.journal ++ (next value).journal, (next value).outcome⟩ := by
  change andThen first next = _
  simp [andThen, returned]

theorem bind_of_panicked {first : Run α} {text : String}
    (panicked : first.outcome = .panicked text) (next : α → Run β) :
    first >>= next = ⟨first.journal, .panicked text⟩ := by
  change andThen first next = _
  simp [andThen, panicked]

instance : LawfulMonad Run := LawfulMonad.mk' Run
  (by
    intro α run
    obtain ⟨journal, outcome⟩ := run
    cases outcome <;> simp [Functor.map, andThen])
  (by
    intro α β value next
    simp [bind, andThen, pure])
  (by
    intro α β γ first second third
    obtain ⟨journal, outcome⟩ := first
    cases outcome with
    | panicked text => simp [bind, andThen]
    | returned value =>
      simp only [bind, andThen]
      cases (second value).outcome <;> simp)

@[simp] theorem journal_pure (value : α) : (pure value : Run α).journal = [] := rfl

@[simp] theorem outcome_pure (value : α) : (pure value : Run α).outcome = .returned value := rfl

@[simp] theorem journal_map (f : α → β) (run : Run α) : (f <$> run).journal = run.journal := by
  obtain ⟨journal, outcome⟩ := run
  cases outcome <;> simp [Functor.map, andThen]

@[simp] theorem outcome_map (f : α → β) (run : Run α) :
    (f <$> run).outcome = run.outcome.map f := by
  obtain ⟨journal, outcome⟩ := run
  cases outcome <;> simp [Functor.map, andThen, Outcome.map]

/-! ### Single steps -/

/-- Leave one entry in the journal. -/
def write (entry : Entry) : Run Unit :=
  ⟨[entry], .returned ()⟩

def emit (event : Event) : Run Unit :=
  write (.event event)

def note (text : String) : Run Unit :=
  write (.note text)

/-- End the run with a panic. -/
def panic (text : String) : Run α :=
  ⟨[], .panicked text⟩

theorem emit_bind (event : Event) (next : Unit → Run α) :
    emit event >>= next = ⟨.event event :: (next ()).journal, (next ()).outcome⟩ := rfl

/-! ### Spans -/

/-- Run a computation inside a span. -/
def within (span : Span) (body : Run α) : Run α :=
  ⟨.entered span :: body.journal ++ [.left span], body.outcome⟩

@[simp] theorem outcome_within (span : Span) (body : Run α) :
    (within span body).outcome = body.outcome := rfl

theorem balanced_within (span : Span) {body : Run α} (balanced : body.journal.Balanced) :
    (within span body).journal.Balanced :=
  balanced.wrap span

end Run

end Switchboard
