import TripQuery.Proofs.Calendar.DateAndTime
import TripQuery.Proofs.Calendar.Shift
import TripQuery.Proofs.Search.Assembly

namespace TripQuery

/-!
# A date and a time, apart or joined

A date and a time of day may be given as two parameters, or as one time with a `T` between them.
Both ways give the same instant, and where there is none both fail.
-/

namespace Query

variable {now : Instant} {wall : DateTime} {d t : String}

/-- The query with a date and a time of day, and everything else as it was. -/
def withDateAndTime (q : Query) (d t : String) : Query := (q.set .date [d]).set .time [t]

/-- The query with a time alone, and everything else as it was. -/
def withTimeOnly (q : Query) (t : String) : Query := (q.set .date []).set .time [t]

theorem instant_withDateAndTime (h : Instant.IsWritten wall d t) (q : Query) (n : Nat) :
    (q.withDateAndTime d t).instant now n =
      .ofExcept (Instant.place wall now.offset (trimmed (d ++ " " ++ t))) := by
  have hdate : nonBlank ((q.withDateAndTime d t).pick .date n) = some d := by
    rw [withDateAndTime, pick_set_of_ne _ _ (by decide), pick_set_self, pick_singleton]
    exact nonBlank_of_isTrimmed h.dateTrimmed h.date_ne_nil
  have htime : nonBlank ((q.withDateAndTime d t).pick .time n) = some t := by
    rw [withDateAndTime, pick_set_self, pick_singleton]
    exact nonBlank_of_isTrimmed h.clockTrimmed h.clock.ne_nil
  rw [instant_of_date hdate, htime, h.combine]

theorem outcome_instant_withTimeOnly (h : Instant.IsWritten wall d t) (q : Query) (n : Nat) :
    ((q.withTimeOnly (d ++ "T" ++ t)).instant now n).outcome =
      found .unrecognizedTime (trimmed (d ++ "T" ++ t)) (Instant.ofWall? wall now.offset) := by
  have hdate : nonBlank ((q.withTimeOnly (d ++ "T" ++ t)).pick .date n) = none := by
    rw [withTimeOnly, pick_set_of_ne _ _ (by decide), pick_set_self]
    rfl
  have htime : nonBlank ((q.withTimeOnly (d ++ "T" ++ t)).pick .time n) =
      some (d ++ "T" ++ t) := by
    have hne : (d ++ "T" ++ t).toList ≠ [] := by simp
    rw [withTimeOnly, pick_set_self, pick_singleton]
    exact nonBlank_of_isTrimmed h.isTrimmed_join hne
  rw [outcome_instant_of_time hdate htime, h.read, h.combine_join, Instant.place]
  cases Instant.ofWall? wall now.offset <;> rfl

theorem assemble_withDateAndTime (q : Query) (d t : String) (n : Nat) :
    (q.withDateAndTime d t).assemble n = q.assemble n := by
  rw [withDateAndTime, assemble_set_of_temporal (Or.inr rfl), assemble_set_of_temporal (Or.inl rfl)]

theorem assemble_withTimeOnly (q : Query) (t : String) (n : Nat) :
    (q.withTimeOnly t).assemble n = q.assemble n := by
  rw [withTimeOnly, assemble_set_of_temporal (Or.inr rfl), assemble_set_of_temporal (Or.inl rfl)]

/-- A date and a time of day resolve to the instant that their joined text resolves to, and the
searches come out the same. Where the wall clock shows no instant, both are faults of the time
given. -/
theorem search_apart_or_joined (h : Instant.IsWritten wall d t) (q : Query) (now : Instant)
    (n : Nat) :
    let apart := q.withDateAndTime d t
    let joined := q.withTimeOnly (d ++ "T" ++ t)
    (∃ i : Instant, i.wall = wall ∧ i.offset = now.offset ∧
      (apart.instant now n).outcome = .ok i ∧ (joined.instant now n).outcome = .ok i ∧
        (apart.search now n).outcome = (joined.search now n).outcome) ∨
      ∃ e f : SearchFault, (apart.search now n).outcome = .error e ∧
        (joined.search now n).outcome = .error f ∧
          e.kind = "MALFORMED_DATE_TIME" ∧ f.kind = "MALFORMED_DATE_TIME" := by
  intro apart joined
  have hapart : (apart.instant now n).outcome = _ :=
    congrArg Recorded.outcome (instant_withDateAndTime h q n)
  have hjoined : (joined.instant now n).outcome = _ := outcome_instant_withTimeOnly h q n
  have hassemble : apart.assemble n = joined.assemble n := by
    rw [assemble_withDateAndTime, assemble_withTimeOnly]
  rw [outcome_search, outcome_search, hassemble, hapart, hjoined, Recorded.outcome_ofExcept,
    Instant.place]
  cases hi : Instant.ofWall? wall now.offset with
  | some i =>
      obtain ⟨hwall, hoffset⟩ := Instant.ofWall?_eq_some_iff.mp hi
      exact Or.inl ⟨i, hwall, hoffset, rfl, rfl, rfl⟩
  | none => exact Or.inr ⟨_, _, rfl, rfl, rfl, rfl⟩

/-- A leap second of a year with a sign, in numbers of one digit with blanks before them. -/
theorem signed_leap_second_apart_or_joined :
    ∃ (wall : DateTime) (i : Instant), Instant.IsWritten wall "+12345- 3-7" "9:\u00a05:60" ∧
      wall.date.year = 12345 ∧ wall.time.isLeap = true ∧ i.wall = wall ∧
        ((empty.withDateAndTime "+12345- 3-7" "9:\u00a05:60").instant .quarterToNine 4).outcome =
          .ok i ∧
          ((empty.withTimeOnly "+12345- 3-7T9:\u00a05:60").instant .quarterToNine 4).outcome =
            .ok i := by
  let wall : DateTime :=
    ⟨⟨12345, 3, 7, by decide, by decide, by decide⟩, ⟨32759, 1000000000, by decide, by decide⟩⟩
  have h : Instant.IsWritten wall "+12345- 3-7" "9:\u00a05:60" :=
    { date := by decide +kernel
      clock := Or.inl (by decide +kernel)
      dateTrimmed := by decide +kernel
      clockTrimmed := by decide +kernel }
  rcases search_apart_or_joined h empty .quarterToNine 4 with
    ⟨i, hwall, -, hapart, hjoined, -⟩ | ⟨e, f, hapart, -⟩
  · exact ⟨wall, i, h, rfl, rfl, hwall, hapart, hjoined⟩
  · cases hapart

end Query

end TripQuery
