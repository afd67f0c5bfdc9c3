import TripQuery.Search.Resolution
import TripQuery.Proofs.Sequencing
import TripQuery.Proofs.Text.Trimming

namespace TripQuery

/-!
# How a search is put together

A search is its instant, its aim and its routes, each of which may fail, and a draft that the places
may rule out. All of it depends on the values picked for the search, and not on where in their lists
they stand.
-/

/-- The clock of the cases that follow general statements. -/
def Instant.quarterToNine : Instant :=
  ⟨⟨⟨2024, 3, 15, by decide, by decide, by decide⟩, ⟨31500, 0, by decide, by decide⟩⟩, .utc,
    by decide⟩

theorem nonBlank_of_blank {s : String} (h : isBlankText s = true) : nonBlank (some s) = none := by
  simp [nonBlank, h]

theorem nonBlank_of_isTrimmed {s : String} (h : IsTrimmed s.toList) (hne : s.toList ≠ []) :
    nonBlank (some s) = some s := by
  have hblank : isBlankText s = false := by
    apply eq_false_of_ne_true
    rw [isBlankText_iff, h.trim_eq]
    exact hne
  simp [nonBlank, hblank]

/-- The texts that are read no sooner than a search is put together. -/
def Indexed.isReadLate : Indexed → Bool
  | date | time | preferredRoutes | unpreferredRoutes | bannedRoutes => true
  | _ => false

/-- Two queries give two searches the same values. -/
structure Query.SameAt (q : Query) (n : Nat) (r : Query) (m : Nat) : Prop where
  pick : ∀ p, q.pick p n = r.pick p m
  places : q.places = r.places
  placesOrdered : q.placesOrdered = r.placesOrdered
  batch : q.batch = r.batch

namespace Query

variable {q r : Query} {now : Instant} {n m : Nat} {s : Search}

theorem outcome_search (q : Query) (now : Instant) (n : Nat) :
    (q.search now n).outcome =
      ((q.instant now n).outcome.mapError .temporal).bind (q.assemble n) := by
  simp only [search, Recorded.outcome_bind, Recorded.outcome_mapFault, Recorded.outcome_ofExcept,
    Recorded.outcome_note, Recorded.outcome_pure]
  cases (q.instant now n).outcome with
  | error e => rfl
  | ok i =>
      change (q.assemble n i).bind _ = q.assemble n i
      cases q.assemble n i <;> rfl

theorem instant_of_date {date : String} (hdate : nonBlank (q.pick .date n) = some date) :
    q.instant now n =
      .ofExcept (Instant.combine (some date) (nonBlank (q.pick .time n)) now) := by
  rw [instant, hdate]

/-- A time without a date is a timestamp if it can be read as one. -/
theorem outcome_instant_of_time {time : String} (hdate : nonBlank (q.pick .date n) = none)
    (htime : nonBlank (q.pick .time n) = some time) :
    (q.instant now n).outcome =
      match Instant.read now.offset time with
      | .ok i => .ok i
      | .error _ => Instant.combine none (some time) now := by
  rw [instant, hdate, htime]
  simp only [Recorded.outcome_bind, Recorded.outcome_note]
  cases Instant.read now.offset time <;> rfl

theorem search_eq_ok_iff :
    (q.search now n).outcome = .ok s ↔
      ∃ i, (q.instant now n).outcome = .ok i ∧ q.assemble n i = .ok s := by
  rw [outcome_search]
  refine exceptBind_eq_ok_iff.trans ?_
  simp only [mapError_eq_ok_iff]

theorem search_congr (hinstant : q.instant now n = r.instant now n)
    (hassemble : q.assemble n = r.assemble n) : q.search now n = r.search now n := by
  rw [search, search, hinstant, hassemble]

/-- What a search is made of, when nothing has failed. -/
theorem assemble_eq_ok_iff {i : Instant} :
    q.assemble n i = .ok s ↔
      ∃ aim preferred unpreferred banned, q.aim n = .ok aim ∧
        routes (q.pick .preferredRoutes n) = .ok preferred ∧
        routes (q.pick .unpreferredRoutes n) = .ok unpreferred ∧
        routes (q.pick .bannedRoutes n) = .ok banned ∧
        s = q.draft n i aim preferred unpreferred banned ∧ s.ordersTransit = false := by
  have hlast (d : Search) :
      (if d.ordersTransit then throw .orderedTransit else pure d : Except SearchFault Search) =
        .ok s ↔ s = d ∧ s.ordersTransit = false := by
    cases hd : d.ordersTransit with
    | true =>
        simp only [if_true]
        constructor
        · intro h
          cases h
        · rintro ⟨rfl, h⟩
          rw [hd] at h
          cases h
    | false =>
        simp only [Bool.false_eq_true, if_false]
        constructor
        · intro h
          cases h
          exact ⟨rfl, hd⟩
        · rintro ⟨rfl, -⟩
          rfl
  constructor
  · intro h
    obtain ⟨aim, haim, h⟩ := exceptBind_eq_ok_iff.mp h
    obtain ⟨preferred, hpreferred, h⟩ := exceptBind_eq_ok_iff.mp h
    obtain ⟨unpreferred, hunpreferred, h⟩ := exceptBind_eq_ok_iff.mp h
    obtain ⟨banned, hbanned, h⟩ := exceptBind_eq_ok_iff.mp h
    exact ⟨aim, preferred, unpreferred, banned, haim, hpreferred, hunpreferred, hbanned,
      (hlast _).mp h⟩
  · rintro ⟨aim, preferred, unpreferred, banned, haim, hpreferred, hunpreferred, hbanned, hs⟩
    refine exceptBind_eq_ok_iff.mpr ⟨aim, haim, ?_⟩
    refine exceptBind_eq_ok_iff.mpr ⟨preferred, hpreferred, ?_⟩
    refine exceptBind_eq_ok_iff.mpr ⟨unpreferred, hunpreferred, ?_⟩
    refine exceptBind_eq_ok_iff.mpr ⟨banned, hbanned, ?_⟩
    exact (hlast _).mpr hs

section Replaced

variable {p : Indexed}

theorem pick_set_self (q : Query) (vs : List p.Value) (n : Nat) :
    (q.set p vs).pick p n = TripQuery.pick vs n := by
  rw [pick, values_set_self]

theorem pick_set_of_ne (q : Query) {p r : Indexed} (vs : List p.Value) (h : p ≠ r) (n : Nat) :
    (q.set p vs).pick r n = q.pick r n := by
  rw [pick, pick, values_set_of_ne q vs h]

@[simp] theorem places_set (q : Query) (vs : List p.Value) : (q.set p vs).places = q.places := rfl

@[simp] theorem placesOrdered_set (q : Query) (vs : List p.Value) :
    (q.set p vs).placesOrdered = q.placesOrdered := rfl

@[simp] theorem batch_set (q : Query) (vs : List p.Value) : (q.set p vs).batch = q.batch := rfl

@[simp] theorem passedPlaces_set (q : Query) (vs : List p.Value) :
    (q.set p vs).passedPlaces = q.passedPlaces := rfl

end Replaced

/-- Two queries whose aims come of the same, and which make the same draft of it. -/
theorem assemble_congr_of_aim {α : Type} {x : Except SearchFault α}
    {f g : α → Criterion × Option Weights} (hq : q.aim n = x.map f) (hr : r.aim m = x.map g)
    (hpreferred : routes (q.pick .preferredRoutes n) = routes (r.pick .preferredRoutes m))
    (hunpreferred : routes (q.pick .unpreferredRoutes n) = routes (r.pick .unpreferredRoutes m))
    (hbanned : routes (q.pick .bannedRoutes n) = routes (r.pick .bannedRoutes m))
    (hdraft : ∀ a i, q.draft n i (f a) = r.draft m i (g a)) : q.assemble n = r.assemble m := by
  funext i
  rw [assemble, assemble, hq, hr, hpreferred, hunpreferred, hbanned]
  cases x with
  | error e => rfl
  | ok a => simp only [Except.map, bind, Except.bind, hdraft]

theorem assemble_congr (haim : q.aim n = r.aim m)
    (hpreferred : routes (q.pick .preferredRoutes n) = routes (r.pick .preferredRoutes m))
    (hunpreferred : routes (q.pick .unpreferredRoutes n) = routes (r.pick .unpreferredRoutes m))
    (hbanned : routes (q.pick .bannedRoutes n) = routes (r.pick .bannedRoutes m))
    (hdraft : q.draft n = r.draft m) : q.assemble n = r.assemble m := by
  have hid : r.aim m = (r.aim m).map id := by cases r.aim m <;> rfl
  exact assemble_congr_of_aim (haim.trans hid) hid hpreferred hunpreferred hbanned
    fun a i => by rw [hdraft]

/-- Dates and times go into the instant, and lists of routes are read; everything else goes into a
search as it was picked. -/
theorem assemble_congr_of_pick
    (hpick : ∀ p : Indexed, p.isReadLate = false → q.pick p n = r.pick p m)
    (hpreferred : routes (q.pick .preferredRoutes n) = routes (r.pick .preferredRoutes m))
    (hunpreferred : routes (q.pick .unpreferredRoutes n) = routes (r.pick .unpreferredRoutes m))
    (hbanned : routes (q.pick .bannedRoutes n) = routes (r.pick .bannedRoutes m))
    (hplaces : q.places = r.places) (hordered : q.placesOrdered = r.placesOrdered)
    (hbatch : q.batch = r.batch) : q.assemble n = r.assemble m := by
  have hpassed : q.passedPlaces = r.passedPlaces := by rw [passedPlaces, passedPlaces, hplaces]
  refine assemble_congr ?_ hpreferred hunpreferred hbanned ?_
  · simp (disch := decide) only [aim, hpick]
  · funext i aim preferred unpreferred banned
    simp (disch := decide) only [draft, hpick, hpassed, hordered, hbatch]

/-- Values that only the instant is made of. -/
theorem assemble_set_of_temporal {p : Indexed} (hp : p = .date ∨ p = .time) (vs : List p.Value) :
    (q.set p vs).assemble n = q.assemble n := by
  have hpick {r : Indexed} (hdate : r ≠ .date) (htime : r ≠ .time) :
      (q.set p vs).pick r n = q.pick r n := by
    refine pick_set_of_ne q vs ?_ n
    rcases hp with rfl | rfl
    · exact hdate.symm
    · exact htime.symm
  refine assemble_congr_of_pick (fun r hr => hpick ?_ ?_) ?_ ?_ ?_ rfl rfl rfl
  · rintro rfl
    cases hr
  · rintro rfl
    cases hr
  · rw [hpick (by decide) (by decide)]
  · rw [hpick (by decide) (by decide)]
  · rw [hpick (by decide) (by decide)]

end Query

namespace Query.SameAt

variable {q r : Query} {n m : Nat}

theorem instant (h : q.SameAt n r m) (now : Instant) : q.instant now n = r.instant now m := by
  simp only [Query.instant, h.pick]

theorem assemble (h : q.SameAt n r m) : q.assemble n = r.assemble m :=
  assemble_congr_of_pick (fun p _ => h.pick p) (by rw [h.pick]) (by rw [h.pick]) (by rw [h.pick])
    h.places h.placesOrdered h.batch

theorem outcome_search (h : q.SameAt n r m) (now : Instant) :
    (q.search now n).outcome = (r.search now m).outcome := by
  rw [Query.outcome_search, Query.outcome_search, h.instant, h.assemble]

end Query.SameAt

end TripQuery
