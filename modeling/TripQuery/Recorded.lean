namespace TripQuery

/-!
# Recorded computations

A recorded computation keeps a journal of what happened on the way to its outcome. A failure ends
the computation and keeps the journal written until then.
-/

/-- The events of a computation, in order, and how it ended. -/
structure Recorded (ω ε α : Type) where
  events : List ω
  outcome : Except ε α

namespace Recorded

variable {ω ε α β : Type}

@[ext] theorem ext {x y : Recorded ω ε α} (he : x.events = y.events)
    (ho : x.outcome = y.outcome) : x = y := by
  cases x
  cases y
  simp_all

def ofExcept (outcome : Except ε α) : Recorded ω ε α := ⟨[], outcome⟩

def fail (e : ε) : Recorded ω ε α := ofExcept (.error e)

def note (event : ω) : Recorded ω ε Unit := ⟨[event], .ok ()⟩

/-- Continues with the value, if there is one, and appends the events. -/
def andThen (x : Recorded ω ε α) (f : α → Recorded ω ε β) : Recorded ω ε β :=
  match x.outcome with
  | .ok a => ⟨x.events ++ (f a).events, (f a).outcome⟩
  | .error e => ⟨x.events, .error e⟩

instance : Monad (Recorded ω ε) where
  pure a := ofExcept (.ok a)
  bind := andThen

/-- Says what a failure means to the caller. -/
def mapFault {ε' : Type} (f : ε → ε') (x : Recorded ω ε α) : Recorded ω ε' α :=
  ⟨x.events, x.outcome.mapError f⟩

@[simp] theorem events_pure (a : α) : (pure a : Recorded ω ε α).events = [] := rfl

@[simp] theorem outcome_pure (a : α) : (pure a : Recorded ω ε α).outcome = .ok a := rfl

@[simp] theorem outcome_bind (x : Recorded ω ε α) (f : α → Recorded ω ε β) :
    (x >>= f).outcome = x.outcome.bind fun a => (f a).outcome := by
  change (x.andThen f).outcome = _
  unfold andThen
  cases x.outcome <;> rfl

/-- After a value, the events of the rest follow; after a failure, nothing does. -/
theorem events_bind (x : Recorded ω ε α) (f : α → Recorded ω ε β) :
    (x >>= f).events =
      x.events ++ match x.outcome with
        | .ok a => (f a).events
        | .error _ => [] := by
  change (x.andThen f).events = _
  unfold andThen
  cases x.outcome <;> simp

theorem id_map (x : Recorded ω ε α) : id <$> x = x := by
  obtain ⟨events, _ | a⟩ := x <;> ext <;> simp [Functor.map, andThen, ofExcept]

theorem bind_assoc {γ : Type} (x : Recorded ω ε α) (f : α → Recorded ω ε β)
    (g : β → Recorded ω ε γ) : x >>= f >>= g = x >>= fun a => f a >>= g := by
  obtain ⟨events, _ | a⟩ := x
  · rfl
  · change andThen (andThen _ f) g = andThen _ fun a => (f a).andThen g
    simp only [andThen]
    cases (f a).outcome <;> simp

instance : LawfulMonad (Recorded ω ε) :=
  LawfulMonad.mk' (Recorded ω ε) id_map (fun _ _ => rfl) bind_assoc

end Recorded

end TripQuery
