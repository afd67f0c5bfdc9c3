import TripQuery.Recorded

namespace TripQuery

/-!
# Steps in a row

A list of steps succeeds when all of them do, and then it gives all their values. It fails with the
fault of the first step that fails. Of a recorded computation only the outcome is looked at.
-/

section Outcomes

variable {α β ε : Type}

theorem exceptBind_eq_ok_iff {x : Except ε α} {f : α → Except ε β} {b : β} :
    x >>= f = .ok b ↔ ∃ a, x = .ok a ∧ f a = .ok b := by
  cases x with
  | error e => simp [bind, Except.bind]
  | ok a => simp [bind, Except.bind]

theorem exceptBind_eq_error_iff {x : Except ε α} {f : α → Except ε β} {e : ε} :
    x >>= f = .error e ↔ x = .error e ∨ ∃ a, x = .ok a ∧ f a = .error e := by
  cases x with
  | error e => simp [bind, Except.bind]
  | ok a => simp [bind, Except.bind]

theorem mapError_eq_ok_iff {ε' : Type} {g : ε → ε'} {x : Except ε α} {a : α} :
    x.mapError g = .ok a ↔ x = .ok a := by
  cases x with
  | error e =>
      change (Except.error (g e) : Except ε' α) = .ok a ↔ _
      simp
  | ok b =>
      change (Except.ok b : Except ε' α) = .ok a ↔ _
      simp

theorem mapError_eq_error_iff {ε' : Type} {g : ε → ε'} {x : Except ε α} {e : ε'} :
    x.mapError g = .error e ↔ ∃ e', x = .error e' ∧ g e' = e := by
  cases x with
  | error e' =>
      change (Except.error (g e') : Except ε' α) = .error e ↔ _
      simp
  | ok b =>
      change (Except.ok b : Except ε' α) = .error e ↔ _
      simp

theorem map_eq_ok_iff {f : α → β} {x : Except ε α} {b : β} :
    x.map f = .ok b ↔ ∃ a, x = .ok a ∧ f a = b := by
  cases x <;> simp [Except.map]

theorem map_eq_error_iff {f : α → β} {x : Except ε α} {e : ε} :
    x.map f = .error e ↔ x = .error e := by
  cases x <;> simp [Except.map]

theorem exists_eq_ok_iff {x : Except ε α} : (∃ a, x = .ok a) ↔ ∀ e, x ≠ .error e := by
  cases x <;> simp

theorem mapM_eq_ok_iff {f : α → Except ε β} {l : List α} {bs : List β} :
    l.mapM f = .ok bs ↔ l.map f = bs.map .ok := by
  induction l generalizing bs with
  | nil =>
      have hnil : ([].mapM f : Except ε (List β)) = .ok [] := rfl
      rw [hnil]
      cases bs <;> simp
  | cons a l ih =>
      rw [List.mapM_cons, exceptBind_eq_ok_iff]
      constructor
      · rintro ⟨b, hb, hrest⟩
        obtain ⟨bs', hbs', hpure⟩ := exceptBind_eq_ok_iff.mp hrest
        cases hpure
        rw [List.map_cons, List.map_cons, hb, ih.mp hbs']
      · intro h
        cases bs with
        | nil => simp at h
        | cons b bs =>
            rw [List.map_cons, List.map_cons, List.cons.injEq] at h
            refine ⟨b, h.1, exceptBind_eq_ok_iff.mpr ⟨bs, ih.mpr h.2, rfl⟩⟩

theorem mem_iff_of_mapM_eq_ok {f : α → Except ε β} {l : List α} {bs : List β}
    (h : l.mapM f = .ok bs) {b : β} : b ∈ bs ↔ ∃ a ∈ l, f a = .ok b := by
  have hmap := mapM_eq_ok_iff.mp h
  have hmem : b ∈ bs ↔ (.ok b : Except ε β) ∈ bs.map .ok := by simp
  rw [hmem, ← hmap, List.mem_map]

/-- The steps fail with the fault of the first that fails. -/
theorem mapM_eq_error_iff {f : α → Except ε β} {l : List α} {e : ε} :
    l.mapM f = .error e ↔
      ∃ before a after, l = before ++ a :: after ∧ (∀ x ∈ before, ∃ b, f x = .ok b) ∧
        f a = .error e := by
  induction l with
  | nil =>
      have hnil : ([].mapM f : Except ε (List β)) = .ok [] := rfl
      simp [hnil]
  | cons a l ih =>
      rw [List.mapM_cons, exceptBind_eq_error_iff]
      constructor
      · rintro (ha | ⟨b, hb, hrest⟩)
        · exact ⟨[], a, l, rfl, by simp, ha⟩
        · obtain hl | ⟨bs, -, hpure⟩ := exceptBind_eq_error_iff.mp hrest
          · obtain ⟨before, x, after, rfl, hbefore, hx⟩ := ih.mp hl
            refine ⟨a :: before, x, after, rfl, ?_, hx⟩
            rintro y (_ | ⟨_, hy⟩)
            · exact ⟨b, hb⟩
            · exact hbefore y hy
          · cases hpure
      · rintro ⟨before, x, after, hl, hbefore, hx⟩
        cases before with
        | nil =>
            cases hl
            exact Or.inl hx
        | cons y before =>
            cases hl
            obtain ⟨b, hb⟩ := hbefore a (by simp)
            refine Or.inr ⟨b, hb, exceptBind_eq_error_iff.mpr (Or.inl ?_)⟩
            exact ih.mpr ⟨before, x, after, rfl, fun z hz => hbefore z (by simp [hz]), hx⟩

/-- The steps all succeed when each of them does. -/
theorem exists_mapM_eq_ok_iff {f : α → Except ε β} {l : List α} :
    (∃ bs, l.mapM f = .ok bs) ↔ ∀ a ∈ l, ∃ b, f a = .ok b := by
  constructor
  · rintro ⟨bs, hbs⟩ a ha
    have hmem : f a ∈ bs.map .ok := by
      rw [← mapM_eq_ok_iff.mp hbs]
      exact List.mem_map_of_mem ha
    obtain ⟨b, -, hb⟩ := List.mem_map.mp hmem
    exact ⟨b, hb.symm⟩
  · intro hall
    apply exists_eq_ok_iff.mpr
    intro e he
    obtain ⟨before, a, after, rfl, -, hfault⟩ := mapM_eq_error_iff.mp he
    obtain ⟨b, hb⟩ := hall a (by simp)
    rw [hb] at hfault
    cases hfault

theorem toOption_eq_some_iff {x : Except ε α} {a : α} : x.toOption = some a ↔ x = .ok a := by
  cases x <;> simp [Except.toOption]

theorem toOption_mapM (f : α → Except ε β) (l : List α) :
    (l.mapM f).toOption = l.mapM fun a => (f a).toOption := by
  induction l with
  | nil => rfl
  | cons a l ih =>
      rw [List.mapM_cons, List.mapM_cons, ← ih]
      cases f a with
      | error e => rfl
      | ok b => cases l.mapM f <;> rfl

theorem mapM_range_eq_ok_iff {f : Nat → Except ε β} {n : Nat} {bs : List β} :
    (List.range n).mapM f = .ok bs ↔
      bs.length = n ∧ ∀ i (h : i < bs.length), f i = .ok bs[i] := by
  rw [mapM_eq_ok_iff]
  constructor
  · intro hmap
    have hlength : bs.length = n := by simpa using (congrArg List.length hmap).symm
    refine ⟨hlength, fun i hi => ?_⟩
    have hget := congrArg (·[i]?) hmap
    have hlt : i < n := by omega
    simpa [hlt, hi] using hget
  · rintro ⟨rfl, hget⟩
    apply List.ext_getElem
    · simp
    · intro i hi _
      simp only [List.length_map, List.length_range] at hi
      simp [hget i hi]

theorem range_eq_append_cons {k n : Nat} (h : k < n) :
    List.range n = List.range k ++ k :: List.range' (k + 1) (n - (k + 1)) := by
  rw [List.range_eq_range', List.range_eq_range', List.range'_eq_append_iff]
  refine ⟨k, Nat.le_of_lt h, rfl, ?_⟩
  rw [eq_comm, List.range'_eq_cons_iff]
  exact ⟨by omega, by omega, by congr 1⟩

theorem mapM_range_eq_error_iff {f : Nat → Except ε β} {n : Nat} {e : ε} :
    (List.range n).mapM f = .error e ↔
      ∃ k < n, f k = .error e ∧ ∀ i < k, ∃ b, f i = .ok b := by
  rw [mapM_eq_error_iff]
  constructor
  · rintro ⟨before, k, after, hrange, hbefore, hk⟩
    rw [List.range_eq_range', List.range'_eq_append_iff] at hrange
    obtain ⟨length, -, rfl, hrest⟩ := hrange
    obtain ⟨rfl, hlt, -⟩ := List.range'_eq_cons_iff.mp hrest.symm
    refine ⟨_, by omega, hk, fun i hi => hbefore i ?_⟩
    simpa [List.mem_range'] using hi
  · rintro ⟨k, hk, he, hbefore⟩
    refine ⟨List.range k, k, List.range' (k + 1) (n - (k + 1)), range_eq_append_cons hk, ?_, he⟩
    intro i hi
    exact hbefore i (List.mem_range.mp hi)

theorem exists_mapM_range_iff {f : Nat → Except ε β} {n : Nat} :
    (∃ bs, (List.range n).mapM f = .ok bs) ↔ ∀ i < n, ∃ b, f i = .ok b := by
  simp only [exists_mapM_eq_ok_iff, List.mem_range]

end Outcomes

namespace Recorded

variable {ω ε α β : Type}

@[simp] theorem outcome_note (event : ω) : (note event : Recorded ω ε Unit).outcome = .ok () := rfl

@[simp] theorem outcome_ofExcept (x : Except ε α) :
    (ofExcept x : Recorded ω ε α).outcome = x := rfl

@[simp] theorem outcome_mapFault {ε' : Type} (f : ε → ε') (x : Recorded ω ε α) :
    (x.mapFault f).outcome = x.outcome.mapError f := rfl

theorem outcome_mapM (f : α → Recorded ω ε β) (l : List α) :
    (l.mapM f).outcome = l.mapM fun a => (f a).outcome := by
  induction l with
  | nil => rfl
  | cons a l ih =>
      rw [List.mapM_cons, List.mapM_cons, outcome_bind]
      simp only [outcome_bind, outcome_pure, ih]
      rfl

end Recorded

end TripQuery
