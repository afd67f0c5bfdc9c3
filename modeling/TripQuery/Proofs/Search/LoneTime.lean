import TripQuery.Proofs.Calendar.Combination
import TripQuery.Proofs.Calendar.OwnOffset
import TripQuery.Proofs.Search.Assembly

namespace TripQuery

/-!
# A time without a date

A time given without a date is a whole timestamp or a time of day, and no text is both. So it does
not matter which of the two is tried first.
-/

/-- Every timestamp starts with a year and a dash. -/
theorem Timestamp.IsText.exists_year? {cs : List Char} {wall : DateTime} {own : Offset}
    (h : IsText cs wall own) : ∃ y rest, year? cs = some (y, '-' :: rest) := by
  obtain ⟨⟨hyear, -, -, -⟩, -, -, -⟩ := h
  rw [List.append_assoc, List.cons_append]
  exact ⟨_, _, year?_of_fixed? (hyear.fixed? _)⟩

namespace Instant

variable {s : String} {offset : Offset} {i now : Instant}

/-- What is read as a timestamp is no time of day. -/
theorem timeOfDay_read_of_read (h : read offset s = .ok i) :
    TimeOfDay.read s = .error ⟨.unrecognizedTime, trimmed s⟩ := by
  have hyear : ∃ y rest, year? (trim s.toList) = some (y, '-' :: rest) := by
    cases read_eq_ok_iff_isTimestamp.mp h with
    | own htext => exact htext.exists_year?
    | wall htext =>
        obtain ⟨p, hp, hfit⟩ :=
          List.exists_of_findSome?_eq_some (DateTime.findSome?_eq_some_iff.mpr htext)
        exact DateTime.exists_year?_of_fit? hp hfit
  obtain ⟨y, rest, hy⟩ := hyear
  exact TimeOfDay.read_of_year? hy

/-- A time of day alone is meant today. -/
theorem combine_of_time {t : TimeOfDay} (h : TimeOfDay.read s = .ok t) (now : Instant) :
    combine none (some s) now = place ⟨now.wall.date, t⟩ now.offset (trimmed s) := by
  have htext : givenText none (some s) = trimmed s := by
    have hchars : ("" ++ " " ++ s).toList = ' ' :: s.toList := by simp
    rw [givenText, Option.getD_none, Option.getD_some, trimmed, hchars, trim_blank_cons rfl,
      trimmed]
  rw [← htext]
  exact combine_of_parts .missing (.given h)

/-- A time without a date, tried as a time of day before it is tried as a timestamp. -/
def ofTimeFirst (now : Instant) (time : String) : Except TemporalFault Instant :=
  match combine none (some time) now with
  | .ok i => .ok i
  | .error _ => read now.offset time

/-- Either order finds the same instant, because at most one of the two readings does. -/
theorem ofTimeFirst_eq_ok_iff :
    ofTimeFirst now s = .ok i ↔
      read now.offset s = .ok i ∨ combine none (some s) now = .ok i := by
  unfold ofTimeFirst
  cases hcombine : combine none (some s) now with
  | error e => simp
  | ok j =>
      have hread : ∀ i, read now.offset s ≠ .ok i := by
        intro i hi
        rw [combine_of_time_fault .missing (timeOfDay_read_of_read hi)] at hcombine
        cases hcombine
      simp [hread]

end Instant

namespace Query

variable {q : Query} {n : Nat} {time : String}

/-- A time without a date is a timestamp, a time of day, or the fault of one. -/
theorem outcome_instant_of_lone_time (now : Instant)
    (hdate : ∀ d, q.pick .date n = some d → isBlankText d = true)
    (htime : q.pick .time n = some time) (hblank : isBlankText time = false) :
    (q.instant now n).outcome =
      match Instant.read now.offset time with
      | .ok i => .ok i
      | .error _ => Instant.combine none (some time) now := by
  apply outcome_instant_of_time
  · rw [nonBlank, Option.filter_eq_none_iff]
    intro d hd
    simp [hdate d hd]
  · rw [htime, nonBlank, Option.filter_some, hblank]
    rfl

/-- No text is both a timestamp and a time of day, and the instants read are those that timestamps
mean. So a time without a date is one of the two or neither, and it would make no other instant to
try the time of day first. -/
theorem lone_time_has_one_reading :
    (∀ (offset : Offset) (s : String) (i : Instant) (t : TimeOfDay),
      ¬ (Instant.read offset s = .ok i ∧ TimeOfDay.read s = .ok t)) ∧
    (∀ (offset : Offset) (s : String) (i : Instant),
      Instant.read offset s = .ok i ↔ Instant.IsTimestamp offset (trim s.toList) i) ∧
    ∀ (q : Query) (now : Instant) (n : Nat) (time : String),
      (∀ d, q.pick .date n = some d → isBlankText d = true) → q.pick .time n = some time →
        isBlankText time = false →
          (∀ i, Instant.read now.offset time = .ok i → (q.instant now n).outcome = .ok i) ∧
          (∀ t, TimeOfDay.read time = .ok t →
            (∀ i, (q.instant now n).outcome = .ok i ↔
              i.wall = ⟨now.wall.date, t⟩ ∧ i.offset = now.offset) ∧
            ∀ e, (q.instant now n).outcome = .error e ↔
              e = ⟨.outOfRange, trimmed time⟩ ∧
                ¬ IsInCalendar (DateTime.seconds ⟨now.wall.date, t⟩ - now.offset.seconds)) ∧
          (∀ e, (∀ i, Instant.read now.offset time ≠ .ok i) → TimeOfDay.read time = .error e →
            (q.instant now n).outcome = .error e) ∧
          ∀ i, (q.instant now n).outcome = .ok i ↔ Instant.ofTimeFirst now time = .ok i := by
  refine ⟨fun offset s i t h => ?_, fun offset s i => Instant.read_eq_ok_iff_isTimestamp,
    fun q now n time hdate htime hblank => ?_⟩
  · have hfault := Instant.timeOfDay_read_of_read h.1
    rw [h.2] at hfault
    cases hfault
  · have houtcome := outcome_instant_of_lone_time now hdate htime hblank
    refine ⟨fun i hi => ?_, fun t ht => ?_, fun e hnot he => ?_, fun i => ?_⟩
    · rw [houtcome, hi]
    · have hplace : (q.instant now n).outcome =
          Instant.place ⟨now.wall.date, t⟩ now.offset (trimmed time) := by
        cases hread : Instant.read now.offset time with
        | ok i =>
            rw [Instant.timeOfDay_read_of_read hread] at ht
            cases ht
        | error e => rw [houtcome, hread, Instant.combine_of_time ht]
      rw [hplace]
      exact ⟨fun i => Instant.place_eq_ok_iff, fun e => Instant.place_eq_error_iff⟩
    · cases hread : Instant.read now.offset time with
      | ok i => exact absurd hread (hnot i)
      | error f => rw [houtcome, hread, Instant.combine_of_time_fault .missing he]
    · rw [houtcome, Instant.ofTimeFirst_eq_ok_iff]
      cases hread : Instant.read now.offset time with
      | ok j =>
          have hfault : Instant.combine none (some time) now = _ :=
            Instant.combine_of_time_fault .missing (Instant.timeOfDay_read_of_read hread)
          simp [hfault]
      | error e => simp

/-- On the first day of the calendar, an hour ahead of universal time and with a blank date: ten
past midnight is no instant, while the afternoon is one, and so is a timestamp of another year. -/
theorem lone_time_has_one_reading_on_first_day :
    ∃ now : Instant, now.wall.date.year = firstYear ∧ now.offset.seconds = 3600 ∧
      (((empty.set .date [" "]).set .time ["12:10 am"]).instant now 2).outcome =
        .error ⟨.outOfRange, "12:10 am"⟩ ∧
      (((empty.set .date [" "]).set .time ["teatime"]).instant now 2).outcome =
        .error ⟨.unrecognizedTime, "teatime"⟩ ∧
      (∃ i, (((empty.set .date [" "]).set .time ["1:30PM"]).instant now 2).outcome = .ok i ∧
        i.wall.date = now.wall.date ∧ i.wall.time.second = 48600) ∧
      ∃ i, (((empty.set .date [" "]).set .time ["2024-03-15 10:30:00z"]).instant now 2).outcome =
        .ok i ∧ Instant.read now.offset "2024-03-15 10:30:00z" = .ok i := by
  let now : Instant :=
    ⟨⟨⟨-262143, 1, 1, by decide, by decide, by decide⟩, ⟨7200, 0, by decide, by decide⟩⟩,
      ⟨3600, by decide⟩, by decide⟩
  have hday (t : String) : ∀ d, ((empty.set .date [" "]).set .time [t]).pick .date 2 = some d →
      isBlankText d = true := by
    intro d hd
    cases hd
    decide
  have hnight : TimeOfDay.read "12:10 am" = .ok ⟨600, 0, by decide, by decide⟩ := by
    decide +kernel
  have hafternoon : TimeOfDay.read "1:30PM" = .ok ⟨48600, 0, by decide, by decide⟩ := by
    decide +kernel
  refine ⟨now, rfl, rfl, ?_, ?_, ?_, ?_⟩
  · have hone := lone_time_has_one_reading.2.2 _ now 2 _ (hday "12:10 am") rfl (by decide)
    exact ((hone.2.1 _ hnight).2 _).mpr ⟨by decide, by decide +kernel⟩
  · have hone := lone_time_has_one_reading.2.2 _ now 2 _ (hday "teatime") rfl (by decide)
    refine hone.2.2.1 _ (fun i hi => ?_) (by decide +kernel)
    have hfault : Instant.read now.offset "teatime" = .error ⟨.notTimestamp, "teatime"⟩ := by
      decide +kernel
    rw [hfault] at hi
    cases hi
  · have hone := lone_time_has_one_reading.2.2 _ now 2 _ (hday "1:30PM") rfl (by decide)
    have hrange : IsInCalendar (DateTime.seconds
        ⟨now.wall.date, ⟨48600, 0, by decide, by decide⟩⟩ - now.offset.seconds) := by
      decide +kernel
    obtain ⟨i, hi⟩ := Instant.exists_ofWall?_iff.mpr hrange
    obtain ⟨hwall, hoffset⟩ := Instant.ofWall?_eq_some_iff.mp hi
    refine ⟨i, ((hone.2.1 _ hafternoon).1 i).mpr ⟨hwall, hoffset⟩, ?_, ?_⟩
    · rw [hwall]
    · rw [hwall]
  · have hone :=
      lone_time_has_one_reading.2.2 _ now 2 _ (hday "2024-03-15 10:30:00z") rfl (by decide)
    have hread : (Instant.read now.offset "2024-03-15 10:30:00z").toOption.isSome = true := by
      decide +kernel
    obtain ⟨i, hi⟩ := Option.isSome_iff_exists.mp hread
    have hi := toOption_eq_some_iff.mp hi
    exact ⟨i, hone.1 i hi, hi⟩

end Query

end TripQuery
