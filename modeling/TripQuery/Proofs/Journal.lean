import TripQuery.Proofs.Sequencing

namespace TripQuery

/-!
# Journals of steps in a row

Steps in a row note what each of them notes, one after another, up to and with the first step that
fails. What would have come after it leaves no trace.
-/

namespace Recorded

variable {ω ε α β : Type}

@[simp] theorem events_note (event : ω) : (note event : Recorded ω ε Unit).events = [event] := rfl

@[simp] theorem events_ofExcept (x : Except ε α) :
    (ofExcept x : Recorded ω ε α).events = [] := rfl

@[simp] theorem events_fail (e : ε) : (fail e : Recorded ω ε α).events = [] := rfl

@[simp] theorem events_mapFault {ε' : Type} (f : ε → ε') (x : Recorded ω ε α) :
    (x.mapFault f).events = x.events := rfl

theorem outcome_mapFault_of_ok {ε' : Type} {x : Recorded ω ε α} {a : α} (h : x.outcome = .ok a)
    (f : ε → ε') : (x.mapFault f).outcome = .ok a := by
  rw [outcome_mapFault, h]
  rfl

theorem outcome_mapFault_of_error {ε' : Type} {x : Recorded ω ε α} {e : ε}
    (h : x.outcome = .error e) (f : ε → ε') : (x.mapFault f).outcome = .error (f e) := by
  rw [outcome_mapFault, h]
  rfl

theorem bind_of_ok {x : Recorded ω ε α} {a : α} (h : x.outcome = .ok a)
    (f : α → Recorded ω ε β) : x >>= f = ⟨x.events ++ (f a).events, (f a).outcome⟩ := by
  apply Recorded.ext
  · rw [events_bind, h]
  · rw [outcome_bind, h]
    rfl

theorem bind_of_error {x : Recorded ω ε α} {e : ε} (h : x.outcome = .error e)
    (f : α → Recorded ω ε β) : x >>= f = ⟨x.events, .error e⟩ := by
  apply Recorded.ext
  · rw [events_bind, h, List.append_nil]
  · rw [outcome_bind, h]
    rfl

/-- A step that succeeds notes what it notes, and then the rest does. -/
theorem events_mapM_cons_of_ok {f : α → Recorded ω ε β} {a : α} {b : β}
    (h : (f a).outcome = .ok b) (l : List α) :
    ((a :: l).mapM f).events = (f a).events ++ (l.mapM f).events := by
  rw [List.mapM_cons, bind_of_ok h, events_bind]
  cases (l.mapM f).outcome <;> simp

theorem events_mapM_cons_of_error {f : α → Recorded ω ε β} {a : α} {e : ε}
    (h : (f a).outcome = .error e) (l : List α) :
    ((a :: l).mapM f).events = (f a).events := by
  rw [List.mapM_cons, bind_of_error h]

theorem events_mapM_append_of_ok {f : α → Recorded ω ε β} {before : List α}
    (h : ∀ a ∈ before, ∃ b, (f a).outcome = .ok b) (l : List α) :
    ((before ++ l).mapM f).events =
      (before.flatMap fun a => (f a).events) ++ (l.mapM f).events := by
  induction before with
  | nil => rfl
  | cons a before ih =>
      obtain ⟨b, hb⟩ := h a List.mem_cons_self
      have hrest := ih fun x hx => h x (List.mem_cons_of_mem a hx)
      rw [List.cons_append, events_mapM_cons_of_ok hb, hrest, List.flatMap_cons,
        List.append_assoc]

theorem events_mapM_of_ok {f : α → Recorded ω ε β} {l : List α}
    (h : ∀ a ∈ l, ∃ b, (f a).outcome = .ok b) :
    (l.mapM f).events = l.flatMap fun a => (f a).events := by
  have hall := events_mapM_append_of_ok h []
  rw [List.append_nil, List.mapM_nil, events_pure, List.append_nil] at hall
  exact hall

/-- The journal ends with what the step that fails has noted. -/
theorem events_mapM_of_error {f : α → Recorded ω ε β} {before : List α} {a : α} {e : ε}
    (hbefore : ∀ x ∈ before, ∃ b, (f x).outcome = .ok b) (ha : (f a).outcome = .error e)
    (after : List α) :
    ((before ++ a :: after).mapM f).events =
      (before.flatMap fun x => (f x).events) ++ (f a).events := by
  rw [events_mapM_append_of_ok hbefore, events_mapM_cons_of_error ha]

theorem events_mapM_range_of_error {f : Nat → Recorded ω ε β} {k n : Nat} {e : ε} (hk : k < n)
    (hbefore : ∀ i < k, ∃ b, (f i).outcome = .ok b) (he : (f k).outcome = .error e) :
    ((List.range n).mapM f).events =
      ((List.range k).flatMap fun i => (f i).events) ++ (f k).events := by
  rw [range_eq_append_cons hk]
  exact events_mapM_of_error (fun i hi => hbefore i (List.mem_range.mp hi)) he _

end Recorded

end TripQuery
