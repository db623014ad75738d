import StraightLine.Event

/-! Computations that report events as they run and may stop with an error. What was reported before
the error is kept. -/

namespace StraightLine

/-- The events of a computation in order, and how it ended. -/
structure Traced (ε α : Type) where
  events : List Event
  outcome : Except ε α

namespace Traced

variable {ε ε' α β : Type}

/-- One computation after another; an error of the first stops both. -/
def andThen (first : Traced ε α) (next : α → Traced ε β) : Traced ε β :=
  match first.outcome with
  | .error e => ⟨first.events, .error e⟩
  | .ok a => ⟨first.events ++ (next a).events, (next a).outcome⟩

instance : Monad (Traced ε) where
  pure a := ⟨[], .ok a⟩
  bind := andThen

instance : MonadExcept ε (Traced ε) where
  throw e := ⟨[], .error e⟩
  tryCatch first handler :=
    match first.outcome with
    | .error e => ⟨first.events ++ (handler e).events, (handler e).outcome⟩
    | .ok a => ⟨first.events, .ok a⟩

def report (events : List Event) : Traced ε Unit :=
  ⟨events, .ok ()⟩

/-- Puts an error in other words. -/
def mapError (wrap : ε → ε') (traced : Traced ε α) : Traced ε' α :=
  ⟨traced.events, traced.outcome.mapError wrap⟩

def silent (result : Except ε α) : Traced ε α :=
  ⟨[], result⟩

@[simp] theorem outcome_pure (a : α) : (pure a : Traced ε α).outcome = .ok a := rfl

@[simp] theorem events_pure (a : α) : (pure a : Traced ε α).events = [] := rfl

@[simp] theorem outcome_throw (e : ε) : (throw e : Traced ε α).outcome = .error e := rfl

@[simp] theorem outcome_report (events : List Event) :
    (report events : Traced ε Unit).outcome = .ok () := rfl

@[simp] theorem events_report (events : List Event) :
    (report events : Traced ε Unit).events = events := rfl

@[simp] theorem outcome_silent (result : Except ε α) : (silent result).outcome = result := rfl

@[simp] theorem outcome_mapError (wrap : ε → ε') (traced : Traced ε α) :
    (traced.mapError wrap).outcome = traced.outcome.mapError wrap := rfl

@[simp] theorem outcome_bind (first : Traced ε α) (next : α → Traced ε β) :
    (first >>= next).outcome = first.outcome >>= fun a => (next a).outcome := by
  change (andThen first next).outcome = _
  unfold andThen
  cases first.outcome <;> rfl

/-- Events come from the first computation, or from the second after the first has succeeded. -/
theorem mem_events_bind {first : Traced ε α} {next : α → Traced ε β} {event : Event}
    (h : event ∈ (first >>= next).events) :
    event ∈ first.events ∨ ∃ a, first.outcome = .ok a ∧ event ∈ (next a).events := by
  change event ∈ (andThen first next).events at h
  unfold andThen at h
  split at h
  · exact Or.inl h
  · rename_i a hfirst
    rcases List.mem_append.mp h with hevent | hevent
    · exact Or.inl hevent
    · exact Or.inr ⟨a, hfirst, hevent⟩

end Traced

end StraightLine
