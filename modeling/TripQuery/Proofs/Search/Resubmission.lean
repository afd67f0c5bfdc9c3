import TripQuery.Search.Answer
import TripQuery.Proofs.Calendar.TimestampText
import TripQuery.Proofs.Search.Resolved

namespace TripQuery

/-!
# Asking an answer again

An answer has all that makes its search, in the form in which queries take it. The query that
carries it back resolves to the same search, whatever the clock shows and however often the search
is asked for. Only a leap second within a minute does not come back, for its text is that of the
second after it.
-/

namespace Answer

/-- The values of an answer, with its criterion and its modes as they were read. -/
def values (a : Answer) (criterion : Criterion) (modes : ModeSet) : (p : Indexed) → List p.Value
  | .routerId => a.router.toList
  | .fromPlace => a.origin.toList
  | .toPlace => a.destination.toList
  | .date => []
  | .time => [a.dateTime]
  | .arriveBy => [a.arriveBy]
  | .wheelchair => [a.wheelchair]
  | .maxWalkDistance => [a.maxWalkDistance]
  | .walkSpeed => [a.walkSpeed]
  | .triangleSafetyFactor => (a.weights.map Weights.safety).toList
  | .triangleSlopeFactor => (a.weights.map Weights.slope).toList
  | .triangleTimeFactor => (a.weights.map Weights.time).toList
  | .optimize => [criterion]
  | .mode => [modes]
  | .minTransferTime => [a.minTransferTime]
  | .numItineraries => [a.numItineraries]
  | .preferredRoutes => [",".intercalate a.preferred]
  | .unpreferredRoutes => [",".intercalate a.unpreferred]
  | .bannedRoutes => [",".intercalate a.banned]
  | .showIntermediateStops => [a.showStops]
  | .transferPenalty => [a.transferPenalty]
  | .maxTransfers => [a.maxTransfers]

/-- The query that carries an answer back. -/
def query (a : Answer) : Except ValueCause Query := do
  let criterion ← (Criterion.read a.criterion).mapError .criterion
  let modes ← (ModeSet.read (",".intercalate a.modes)).mapError .modes
  return {
    values := a.values criterion modes
    places := a.places
    placesOrdered := some a.placesOrdered
    batch := some a.batch }

end Answer

theorem Instant.nonBlank_timestamp (i : Instant) :
    nonBlank (some i.timestamp) = some i.timestamp := by
  have hchars : i.timestamp.toList = i.timestampChars := String.toList_ofList
  have hne : i.timestampChars ≠ [] := by simp [timestampChars]
  apply nonBlank_of_isTrimmed
  · rw [hchars]
    exact i.isTrimmed_timestampChars
  · rw [hchars]
    exact hne

namespace Query

variable {q : Query} {now i j : Instant} {n : Nat}

theorem instant_of_timestamp (hdate : q.pick .date n = none)
    (htime : q.pick .time n = some i.timestamp)
    (hread : Instant.read now.offset i.timestamp = .ok j) :
    (q.instant now n).outcome = .ok j := by
  have hnone : nonBlank (q.pick .date n) = none := by
    rw [hdate]
    rfl
  have hsome : nonBlank (q.pick .time n) = some i.timestamp := by
    rw [htime]
    exact i.nonBlank_timestamp
  rw [outcome_instant_of_time hnone hsome, hread]

theorem routes_pick_texts {rs : List Route} (h : ∀ r ∈ rs, r.IsListed) (n : Nat) :
    routes (TripQuery.pick [",".intercalate (rs.map Route.text)] n) = .ok rs := by
  rw [pick_singleton]
  apply mapError_eq_ok_iff.mpr
  exact Route.readList_texts h

/-- Searches of queries that carry an answer back have the answer's values. -/
structure Carries (q : Query) (s : Search) : Prop where
  values : q.values = s.answer.values s.criterion s.modes
  places : q.places = s.places
  placesOrdered : q.placesOrdered = some s.placesOrdered
  batch : q.batch = some s.batch

end Query

namespace Search

variable {s : Search} {offset : Offset} {q : Query}

theorem exists_query (h : s.IsResolved offset) : ∃ q, s.answer.query = .ok q ∧ q.Carries s := by
  refine ⟨⟨s.answer.values s.criterion s.modes, s.places, some s.placesOrdered, some s.batch⟩, ?_,
    rfl, rfl, rfl, rfl⟩
  have hmodes : ModeSet.read (",".intercalate s.answer.modes) = .ok s.modes :=
    ModeSet.read_text h.modes
  have hcriterion : Criterion.read s.answer.criterion = .ok s.criterion :=
    s.criterion.read_name
  rw [Answer.query, hcriterion, hmodes]
  rfl

end Search

namespace Query.Carries

variable {q : Query} {s : Search} {offset : Offset}

theorem pick (h : q.Carries s) (p : Indexed) (n : Nat) :
    q.pick p n = TripQuery.pick (s.answer.values s.criterion s.modes p) n := by
  rw [Query.pick, h.values]

theorem aim (h : q.Carries s) (hs : s.IsResolved offset) (n : Nat) :
    q.aim n = .ok (s.criterion, s.weights) := by
  refine aim_of_fits hs.fits ?_ ?_ ?_ ?_
  · rw [h.pick]
    exact pick_singleton _ n
  · rw [h.pick]
    exact pick_toList _ n
  · rw [h.pick]
    exact pick_toList _ n
  · rw [h.pick]
    exact pick_toList _ n

theorem passedPlaces (h : q.Carries s) (hs : s.IsResolved offset) : q.passedPlaces = s.places := by
  rw [Query.passedPlaces, h.places, if_neg hs.places]

/-- The draft is the search again, at the instant that is read for it. -/
theorem draft (h : q.Carries s) (hs : s.IsResolved offset) (n : Nat) (i : Instant) :
    q.draft n i (s.criterion, s.weights) s.preferred s.unpreferred s.banned =
      { s with instant := i } := by
  have hcriterion : s.criterion ≠ .transfers := hs.criterion
  simp only [Query.draft, h.pick, Answer.values, Search.answer, pick_singleton, pick_toList,
    h.passedPlaces hs, h.placesOrdered, h.batch, Option.getD_some, if_neg hcriterion]

theorem search (h : q.Carries s) (hs : s.IsResolved offset) {now i : Instant} (n : Nat)
    (hread : Instant.read now.offset s.instant.timestamp = .ok i) :
    (q.search now n).outcome = .ok { s with instant := i } := by
  refine search_eq_ok_iff.mpr ⟨i, ?_, assemble_eq_ok_iff.mpr ⟨_, s.preferred, s.unpreferred,
    s.banned, h.aim hs n, ?_, ?_, ?_, (h.draft hs n i).symm, hs.ordersTransit⟩⟩
  · refine instant_of_timestamp ?_ ?_ hread
    · rw [h.pick]
      rfl
    · rw [h.pick]
      exact pick_singleton _ n
  · rw [h.pick]
    exact routes_pick_texts hs.preferred n
  · rw [h.pick]
    exact routes_pick_texts hs.unpreferred n
  · rw [h.pick]
    exact routes_pick_texts hs.banned n

end Query.Carries

namespace Search

variable {pairs : List (String × String)} {q : Query} {now : Instant} {n : Nat} {s : Search}

theorem answer_eq_of_timestamp {i : Instant} (h : i.timestamp = s.instant.timestamp) :
    { s with instant := i }.answer = s.answer := by
  simp only [answer, h]

/-- An answer, asked again by any clock of the same offset and for any search, is given again. The
searches are the same too, unless the clock showed a leap second within a minute and the search has
taken it over: then they are the same but for the instant. -/
theorem answer_resubmitted (hoffset : now.offset.seconds % 60 = 0)
    (hq : (Query.decode pairs).outcome = .ok q) (hs : (q.search now n).outcome = .ok s)
    (hyear : 0 ≤ s.instant.wall.date.year ∧ s.instant.wall.date.year ≤ 9999) :
    ∃ again, s.answer.query = .ok again ∧
      ∀ (later : Instant) (m : Nat), later.offset = now.offset →
        ∃ t, (again.search later m).outcome = .ok t ∧ t.answer = s.answer ∧
          t = { s with instant := t.instant } ∧
          (now.wall.time.IsRegular ∨ s.instant.wall.time.IsRegular → t = s) := by
  have hresolved := Query.isResolved_of_search hq hs
  obtain ⟨again, hagain, hcarries⟩ := exists_query hresolved
  have hminute : s.instant.offset.seconds % 60 = 0 := by
    rw [hresolved.offset]
    exact hoffset
  obtain ⟨i, hread, hioffset, hwall⟩ := Instant.read_timestamp hyear.1 hyear.2 hminute
  have htimestamp : i.timestamp = s.instant.timestamp := by
    rw [Instant.timestamp, Instant.timestamp, Instant.timestampChars, Instant.timestampChars,
      hwall, hioffset, TimeOfDay.chars_settled]
  refine ⟨again, hagain, fun later m hlater => ⟨{ s with instant := i }, ?_,
    answer_eq_of_timestamp htimestamp, rfl, ?_⟩⟩
  · refine hcarries.search hresolved m ?_
    rw [hlater, ← hresolved.offset]
    exact hread
  · intro hregular
    have hinstant : s.instant.wall.time.IsRegular := by
      rcases hregular with hnow | hinstant
      · exact Query.isRegular_of_instant (Query.instant_of_search hs) hoffset hnow
      · exact hinstant
    have hi : i = s.instant := by
      refine Instant.ext ?_ hioffset
      rw [hwall, TimeOfDay.settled_of_isRegular hinstant]
    rw [hi]

set_option maxRecDepth 2048 in
/-- A search at a leap second that has taken few transfers for a penalty comes of its answer. -/
theorem answer_resubmitted_leap_second :
    ∃ pairs q now s, (Query.decode pairs).outcome = .ok q ∧ (q.search now 3).outcome = .ok s ∧
      q.pick .optimize 3 = some .transfers ∧ s.transferPenalty = 1900 ∧
      s.instant.wall.time.isLeap = true ∧ ∃ again, s.answer.query = .ok again ∧
        ∀ later m, later.offset = now.offset → (again.search later m).outcome = .ok s := by
  let pairs := [("time", "2016-12-31T23:59:60.25Z"), ("optimize", "TRANSFERS"),
    ("transferPenalty", "100"), ("bannedRoutes", " b_2_x, ,a_1"), ("mode", "transit"),
    ("intermediatePlaces", "")]
  let q := Query.ofSettings [.indexed .time "2016-12-31T23:59:60.25Z",
    .indexed .optimize .transfers, .indexed .transferPenalty 100,
    .indexed .bannedRoutes " b_2_x, ,a_1", .indexed .mode (ModeSet.ofNames [.transit]), .place ""]
  let hour : Offset := ⟨3600, by decide⟩
  let now : Instant :=
    ⟨⟨⟨2024, 3, 15, by decide, by decide, by decide⟩, ⟨31500, 0, by decide, by decide⟩⟩, hour,
      by decide⟩
  let leap : Instant :=
    ⟨⟨⟨2017, 1, 1, by decide, by decide, by decide⟩, ⟨3599, 1250000000, by decide, by decide⟩⟩,
      hour, by decide⟩
  let s : Search :=
    { Search.standard leap with
      modes := ModeSet.ofNames [.transit]
      transferPenalty := 1900
      banned := [⟨"b", "2_x"⟩, ⟨"a", "1"⟩] }
  have hq : (Query.decode pairs).outcome = .ok q := rfl
  have hs : (q.search now 3).outcome = .ok s := rfl
  obtain ⟨again, hagain, hall⟩ := answer_resubmitted (by decide) hq hs (by decide)
  refine ⟨pairs, q, now, s, hq, hs, rfl, rfl, rfl, again, hagain, fun later m hlater => ?_⟩
  obtain ⟨t, ht, -, -, hsame⟩ := hall later m hlater
  rw [ht, hsame (Or.inl (by decide))]

/-- A clock may show a leap second within a minute, and an empty query takes it over. What is
written of it is the second after it, and comes back as that. -/
theorem leap_second_within_minute_resubmitted :
    ∃ now s again t, Instant.ofNumbers? 2024 3 15 31500 1500000000 0 = some now ∧
      now.offset.seconds % 60 = 0 ∧ (Query.decode []).outcome = .ok .empty ∧
      (Query.empty.search now 0).outcome = .ok s ∧ s.instant.wall.date.year = 2024 ∧
      s.instant.wall.time.second = 31500 ∧ s.answer.dateTime = "2024-03-15T08:45:01.500+00:00" ∧
      s.answer.query = .ok again ∧ (again.search now 0).outcome = .ok t ∧
      t.instant.wall.time.second = 31501 ∧ (again.search now 0).outcome ≠ .ok s := by
  obtain ⟨now, after, hnow, hoffset, hread, hyear, hsecond, htext, hafter⟩ :
      ∃ now after : Instant, Instant.ofNumbers? 2024 3 15 31500 1500000000 0 = some now ∧
        now.offset.seconds % 60 = 0 ∧ Instant.read now.offset now.timestamp = .ok after ∧
          now.wall.date.year = 2024 ∧ now.wall.time.second = 31500 ∧
            now.timestamp = "2024-03-15T08:45:01.500+00:00" ∧ after.wall.time.second = 31501 :=
    ⟨⟨⟨⟨2024, 3, 15, by decide, by decide, by decide⟩,
        ⟨31500, 1500000000, by decide, by decide⟩⟩, .utc, by decide⟩,
      ⟨⟨⟨2024, 3, 15, by decide, by decide, by decide⟩,
        ⟨31501, 500000000, by decide, by decide⟩⟩, .utc, by decide⟩,
      by decide +kernel, rfl, by decide +kernel, rfl, rfl, by decide +kernel, rfl⟩
  have hq : (Query.decode []).outcome = .ok .empty := rfl
  have hs : (Query.empty.search now 0).outcome = .ok (.standard now) := rfl
  have hresolved := Query.isResolved_of_search hq hs
  obtain ⟨again, hagain, hcarries⟩ := exists_query hresolved
  have ht := hcarries.search hresolved 0 hread
  refine ⟨now, _, again, _, hnow, hoffset, hq, hs, hyear, hsecond, htext, hagain, ht, hafter, ?_⟩
  intro hsame
  have hinstant : after = now := congrArg instant (Except.ok.inj (ht.symm.trans hsame))
  rw [hinstant, hsecond] at hafter
  cases hafter

end Search

end TripQuery
