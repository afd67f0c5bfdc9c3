import TripQuery.Proofs.Journal
import TripQuery.Proofs.Search.Counting
import TripQuery.Proofs.Search.Precedence
import TripQuery.Proofs.Search.Rewriting

namespace TripQuery

/-!
# Defaults given in so many words

What a parameter stands for when it is left out may as well be given. Nothing tells the two apart,
neither a single search nor their number. Only the criterion is different: the quickest journey may
be left out beside weights, but not asked for.
-/

/-- A value that asks for what the search has anyway. A text asks for nothing when it is blank. -/
def Indexed.IsDefault (s : Search) : (p : Indexed) → p.Value → Prop
  | .date, v | .time, v => isBlankText v = true
  | .preferredRoutes, v | .unpreferredRoutes, v | .bannedRoutes, v => isBlankText v = true
  | .arriveBy, v => v = s.arriveBy
  | .wheelchair, v => v = s.wheelchair
  | .maxWalkDistance, v => v = s.maxWalkDistance
  | .walkSpeed, v => v = s.walkSpeed
  | .mode, v => v = s.modes
  | .minTransferTime, v => v = s.minTransferTime
  | .numItineraries, v => v = s.numItineraries
  | .showIntermediateStops, v => v = s.showStops
  | .transferPenalty, v => v = s.transferPenalty
  | .maxTransfers, v => v = s.maxTransfers
  | .routerId, _ | .fromPlace, _ | .toPlace, _ | .optimize, _ => False
  | .triangleSafetyFactor, _ | .triangleSlopeFactor, _ | .triangleTimeFactor, _ => False

/-- The second query gives the default of one parameter that the first has left out. -/
inductive Query.GivesDefault (q : Query) (s : Search) : Query → Prop
  | indexed (p : Indexed) (v : p.Value) (habsent : q.values p = []) (hv : p.IsDefault s v) :
      GivesDefault q s (q.set p [v])
  | places (habsent : q.places = []) : GivesDefault q s { q with places := [""] }
  | placesOrdered (habsent : q.placesOrdered = none) :
      GivesDefault q s { q with placesOrdered := some s.placesOrdered }
  | batch (habsent : q.batch = none) : GivesDefault q s { q with batch := some s.batch }

/-- A value that is picked, or a default in the place of none. -/
def Filled {α : Type} (isDefault : α → Prop) (x y : Option α) : Prop :=
  y = x ∨ x = none ∧ ∃ v, y = some v ∧ isDefault v

namespace Filled

variable {α : Type} {isDefault : α → Prop} {x y : Option α}

theorem eq (h : Filled isDefault x y) (hnone : ∀ v, ¬ isDefault v) : y = x := by
  rcases h with rfl | ⟨-, v, -, hv⟩
  · rfl
  · exact absurd hv (hnone v)

theorem getD {d : α} (h : Filled (· = d) x y) : y.getD d = x.getD d := by
  rcases h with rfl | ⟨rfl, v, rfl, rfl⟩
  · rfl
  · rfl

theorem nonBlank {x y : Option String} (h : Filled (isBlankText · = true) x y) :
    nonBlank y = nonBlank x := by
  rcases h with rfl | ⟨rfl, v, rfl, hv⟩
  · rfl
  · exact nonBlank_of_blank hv

theorem routes {x y : Option String} (h : Filled (isBlankText · = true) x y) :
    Query.routes y = Query.routes x := by
  rcases h with rfl | ⟨rfl, v, rfl, hv⟩
  · rfl
  · exact congrArg (·.mapError SearchFault.route) (Route.readList_of_blank hv)

end Filled

/-- The second query has defaults where the first picks nothing for search `n`. -/
structure Query.FilledAt (q : Query) (s : Search) (n : Nat) (r : Query) : Prop where
  pick : ∀ p : Indexed, Filled (p.IsDefault s) (q.pick p n) (r.pick p n)
  passedPlaces : r.passedPlaces = q.passedPlaces
  placesOrdered : r.placesOrdered.getD s.placesOrdered = q.placesOrdered.getD s.placesOrdered
  batch : r.batch.getD s.batch = q.batch.getD s.batch

namespace Query.FilledAt

variable {q r : Query} {now i : Instant} {n : Nat}

theorem instant {s : Search} (h : q.FilledAt s n r) (now : Instant) :
    r.instant now n = q.instant now n := by
  have hdate := (h.pick .date).nonBlank
  have htime := (h.pick .time).nonBlank
  rw [Query.instant, Query.instant, hdate, htime]

theorem aim {s : Search} (h : q.FilledAt s n r) : r.aim n = q.aim n := by
  have hoptimize := (h.pick .optimize).eq fun _ => id
  have hsafety := (h.pick .triangleSafetyFactor).eq fun _ => id
  have hslope := (h.pick .triangleSlopeFactor).eq fun _ => id
  have htime := (h.pick .triangleTimeFactor).eq fun _ => id
  rw [Query.aim, Query.aim, hoptimize, hsafety, hslope, htime]

theorem draft (h : q.FilledAt (.standard i) n r) : r.draft n = q.draft n := by
  have hrouter := (h.pick .routerId).eq fun _ => id
  have horigin := (h.pick .fromPlace).eq fun _ => id
  have hdestination := (h.pick .toPlace).eq fun _ => id
  have hordered : r.placesOrdered.getD false = q.placesOrdered.getD false := h.placesOrdered
  have harrive : (r.pick .arriveBy n).getD false = (q.pick .arriveBy n).getD false :=
    (h.pick .arriveBy).getD
  have hwheelchair : (r.pick .wheelchair n).getD false = (q.pick .wheelchair n).getD false :=
    (h.pick .wheelchair).getD
  have hdistance : (r.pick .maxWalkDistance n).getD Search.standardWalkDistance = _ :=
    (h.pick .maxWalkDistance).getD
  have hspeed : (r.pick .walkSpeed n).getD Search.standardWalkSpeed = _ :=
    (h.pick .walkSpeed).getD
  have hmodes : (r.pick .mode n).getD ModeSet.standard = _ := (h.pick .mode).getD
  have hpenalty : (r.pick .transferPenalty n).getD 0 = (q.pick .transferPenalty n).getD 0 :=
    (h.pick .transferPenalty).getD
  have hslack : (r.pick .minTransferTime n).getD Search.standardTransferTime = _ :=
    (h.pick .minTransferTime).getD
  have htransfers : (r.pick .maxTransfers n).getD Search.standardTransfers = _ :=
    (h.pick .maxTransfers).getD
  have hitineraries : (r.pick .numItineraries n).getD Search.standardItineraries = _ :=
    (h.pick .numItineraries).getD
  have hstops : (r.pick .showIntermediateStops n).getD false = _ :=
    (h.pick .showIntermediateStops).getD
  have hbatch : r.batch.getD false = q.batch.getD false := h.batch
  funext instant aim preferred unpreferred banned
  simp only [Query.draft, hrouter, horigin, hdestination, h.passedPlaces, hordered, harrive,
    hwheelchair, hdistance, hspeed, hmodes, hpenalty, hslack, htransfers, hitineraries, hstops,
    hbatch]
  rfl

theorem search (h : q.FilledAt (.standard i) n r) (now : Instant) :
    r.search now n = q.search now n := by
  refine search_congr (h.instant now) (assemble_congr h.aim ?_ ?_ ?_ h.draft)
  · exact (h.pick .preferredRoutes).routes
  · exact (h.pick .unpreferredRoutes).routes
  · exact (h.pick .bannedRoutes).routes

end Query.FilledAt

namespace Query

variable {q r : Query} {now : Instant} {n : Nat} {s : Search}

theorem GivesDefault.filledAt {i : Instant} (h : q.GivesDefault (.standard i) r) (n : Nat) :
    q.FilledAt (.standard i) n r := by
  cases h with
  | indexed p v habsent hv =>
      refine ⟨fun t => ?_, rfl, rfl, rfl⟩
      by_cases hp : p = t
      · subst hp
        have hnone : q.pick p n = none := by
          rw [Query.pick, habsent, pick_nil]
        exact Or.inr ⟨hnone, v, by rw [pick_set_self, pick_singleton], hv⟩
      · exact Or.inl (pick_set_of_ne q [v] hp n)
  | places habsent =>
      have hplaces : q.passedPlaces = [] := by simp [passedPlaces, habsent]
      exact ⟨fun t => Or.inl rfl, hplaces.symm, rfl, rfl⟩
  | placesOrdered habsent =>
      refine ⟨fun t => Or.inl rfl, rfl, ?_, rfl⟩
      rw [habsent]
      rfl
  | batch habsent =>
      refine ⟨fun t => Or.inl rfl, rfl, rfl, ?_⟩
      rw [habsent]
      rfl

theorem GivesDefault.count (h : q.GivesDefault s r) : r.count = q.count := by
  cases h with
  | indexed p v habsent hv => exact count_set_singleton habsent v
  | places habsent => rfl
  | placesOrdered habsent => rfl
  | batch habsent => rfl

theorem GivesDefault.searches {i : Instant} (h : q.GivesDefault (.standard i) r) (now : Instant) :
    r.searches now = q.searches now := by
  have hsearch : r.search now = q.search now := funext fun n => (h.filledAt n).search now
  rw [Query.searches, Query.searches, h.count, hsearch]

section Quick

theorem pick_optimize_set_quick (q : Query) (n : Nat) :
    (q.set .optimize [.quick]).pick .optimize n = some .quick := by
  rw [pick_set_self, pick_singleton]

theorem aim_set_quick (hc : q.pick .optimize n = none) (hweights : ¬ q.GivesWeights n) :
    (q.set .optimize [.quick]).aim n = q.aim n := by
  rw [aim_of_ne_triangle (q.pick_optimize_set_quick n) Criterion.noConfusion,
    givenWeights_set_optimize]
  rcases q.givenWeights_cases n with hnil | ⟨hsome, hfew⟩ | hthree
  · rw [aim_of_nil hnil, hnil, hc]
    rfl
  · rw [aim_of_few hsome hfew, unusedWeights_of_few hsome hfew]
    rfl
  · exact absurd (givesWeights_iff.mpr hthree) hweights

theorem search_of_instant_error {e : TemporalFault} (h : (q.instant now n).outcome = .error e) :
    q.search now n = ⟨(q.instant now n).events, .error (.temporal e)⟩ :=
  Recorded.bind_of_error (Recorded.outcome_mapFault_of_error h SearchFault.temporal) _

/-- Beside all three weights the quickest journey cannot be asked for. -/
theorem search_set_quick_of_weights {i : Instant} (hi : (q.instant now n).outcome = .ok i)
    (hweights : q.GivesWeights n) :
    ((q.set .optimize [.quick]).search now n).outcome = .error .weightsWithoutTriangle := by
  obtain ⟨a, b, t, hthree⟩ := givesWeights_iff.mp hweights
  have haim : (q.set .optimize [.quick]).aim n = .error .weightsWithoutTriangle := by
    rw [aim_of_ne_triangle (q.pick_optimize_set_quick n) Criterion.noConfusion,
      givenWeights_set_optimize, hthree]
    rfl
  rw [outcome_search, instant_set_optimize, hi]
  change (q.set .optimize [.quick]).assemble n i = _
  rw [assemble, haim]
  rfl

theorem search_set_quick (hc : q.pick .optimize n = none)
    (h : ¬ ((∃ i, (q.instant now n).outcome = .ok i) ∧ q.GivesWeights n)) :
    (q.set .optimize [.quick]).search now n = q.search now n := by
  by_cases hweights : q.GivesWeights n
  · cases hi : (q.instant now n).outcome with
    | ok i => exact absurd ⟨⟨i, hi⟩, hweights⟩ h
    | error e =>
        have hquick : ((q.set .optimize [.quick]).instant now n).outcome = .error e := by
          rw [instant_set_optimize, hi]
        rw [search_of_instant_error hi, search_of_instant_error hquick, instant_set_optimize]
  · exact search_set_optimize (aim_set_quick hc hweights)

theorem search_ne_weightsWithoutTriangle (hc : q.pick .optimize n = none) (now : Instant) :
    (q.search now n).outcome ≠ .error .weightsWithoutTriangle := by
  intro hfault
  rw [← fault?_eq_some_iff, fault?_search] at hfault
  obtain ⟨stage, -, hstage⟩ := List.exists_of_findSome?_eq_some hfault
  rw [faultAt?_eq_some_iff] at hstage
  cases stage with
  | instant =>
      obtain ⟨e, -, he⟩ := hstage
      cases he
  | aim =>
      change WeightsFault (q.pick .optimize n) (q.givenWeights n) _ at hstage
      rw [hc] at hstage
      generalize q.givenWeights n = ws at hstage
      cases hstage with
      | otherCriterion hother => cases hother
  | preferred | unpreferred | banned =>
      obtain ⟨s, before, bad, after, -, -, -, -, he⟩ := hstage
      cases he
  | places => cases hstage.2

end Quick

/-- Giving the default of a parameter that was left out changes no search, no note of one, and not
their number. Giving the quickest journey as the criterion changes a search only where all weights
are given too and its instant is found; then it fails for that, as it never does without. -/
theorem search_with_default_given (q : Query) (now : Instant) :
    (∀ r, q.GivesDefault (.standard now) r →
      (∀ n, r.search now n = q.search now n) ∧ r.searches now = q.searches now) ∧
    (q.values .optimize = [] → ∀ n,
      let quick := q.set .optimize [.quick]
      (¬ ((∃ i, (q.instant now n).outcome = .ok i) ∧ q.GivesWeights n) →
        quick.search now n = q.search now n) ∧
      ((∃ i, (q.instant now n).outcome = .ok i) ∧ q.GivesWeights n →
        (quick.search now n).outcome = .error .weightsWithoutTriangle ∧
          (q.search now n).outcome ≠ .error .weightsWithoutTriangle)) := by
  refine ⟨fun r hr => ⟨fun n => (hr.filledAt n).search now, hr.searches now⟩, ?_⟩
  intro habsent n quick
  have hc : q.pick .optimize n = none := by
    rw [pick, habsent, pick_nil]
  refine ⟨search_set_quick hc, ?_⟩
  rintro ⟨⟨i, hi⟩, hweights⟩
  exact ⟨search_set_quick_of_weights hi hweights, search_ne_weightsWithoutTriangle hc now⟩

set_option maxRecDepth 2048 in
/-- A blank date beside a timestamp, and the quickest journey beside weights. -/
theorem blank_date_with_default_given :
    ∃ (q : Query) (s : Search), q.values .date = [] ∧
      (q.search .quarterToNine 1).outcome = .ok s ∧ s.instant.wall.date.year = 1999 ∧
        s.criterion = .triangle ∧
        ((q.set .date [" \u00a0"]).search .quarterToNine 1).outcome = .ok s ∧
          ((q.set .optimize [.quick]).search .quarterToNine 1).outcome =
            .error .weightsWithoutTriangle := by
  let q := (((empty.set .triangleSafetyFactor [0.1]).set .triangleSlopeFactor [0.2]).set
    .triangleTimeFactor [0.7]).set .time ["8:00", "1999-12-31T23:59"]
  let i : Instant :=
    ⟨⟨⟨1999, 12, 31, by decide, by decide, by decide⟩, ⟨86340, 0, by decide, by decide⟩⟩, .utc,
      by decide⟩
  let s := q.draft 1 i (.triangle, some ⟨0.1, 0.2, 0.7⟩) [] [] []
  have hi : (q.instant .quarterToNine 1).outcome = .ok i := rfl
  have hs : (q.search .quarterToNine 1).outcome = .ok s := rfl
  have hweights : q.GivesWeights 1 := givesWeights_iff.mpr ⟨0.1, 0.2, 0.7, rfl⟩
  obtain ⟨hdefault, hquick⟩ := search_with_default_given q .quarterToNine
  have hblank := (hdefault _ (.indexed .date " \u00a0" rfl rfl)).1 1
  refine ⟨q, s, rfl, hs, rfl, rfl, ?_, ((hquick rfl 1).2 ⟨⟨i, hi⟩, hweights⟩).1⟩
  exact (congrArg Recorded.outcome hblank).trans hs

end Query

end TripQuery
