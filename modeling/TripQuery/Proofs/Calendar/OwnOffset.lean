import TripQuery.Proofs.Calendar.DayCount
import TripQuery.Proofs.Calendar.TimestampSpelling

namespace TripQuery

/-!
# Timestamps read in different offsets

A timestamp that names its offset is one point in time, whatever offset it is shown in. One that
names none is one reading of the wall clock, so that the points in time differ by the offsets.
-/

namespace Instant

variable {s : String} {wall : DateTime} {own : Offset}

/-- The years of four digits are far from both ends of the calendar. -/
theorem isInCalendar_of_year (hlow : 0 ≤ wall.date.year) (hhigh : wall.date.year < 10000)
    (own offset : Offset) : IsInCalendar (wall.seconds - own.seconds + offset.seconds) := by
  have hcount := wall.date.dayCount_of_year
  have hstart := daysBeforeYear_le hlow
  have hstop : daysBeforeYear (wall.date.year + 1) ≤ daysBeforeYear 10000 :=
    daysBeforeYear_le (by omega)
  have hsecond := wall.second_lt
  have hown := own.isBounded
  have hoffset := offset.isBounded
  have hfirst : daysBeforeYear firstYear + 3 ≤ daysBeforeYear 0 := by decide
  have hlast : daysBeforeYear 10000 + 3 ≤ daysBeforeYear (lastYear + 1) := by decide
  unfold IsInCalendar DateTime.seconds
  omega

/-- A timestamp that names its offset is read in every offset as the same point in time. -/
theorem exists_read_of_own (h : Timestamp.IsText (trim s.toList) wall own) :
    ∃ utc : DateTime, utc.seconds = wall.seconds - own.seconds ∧
      utc.time.nanos = wall.time.nanos ∧
        ∀ offset, ∃ i, read offset s = .ok i ∧ i.offset = offset ∧ i.utc = utc := by
  obtain ⟨k, hk, hwall, hown⟩ := Timestamp.exists_read?_iff.mpr h
  have hseconds := k.seconds_utc
  have hnanos := k.nanos_utc
  rw [hwall, hown] at hseconds
  rw [hwall] at hnanos
  refine ⟨k.utc, hseconds, hnanos, fun offset => ?_⟩
  have hrange : IsInCalendar (k.utc.seconds + offset.seconds) := by
    rw [hseconds]
    exact isInCalendar_of_year h.year_bounds.1 h.year_bounds.2 own offset
  obtain ⟨i, hi⟩ := exists_withOffset? hrange
  have hof : ofTimestamp? offset (trim s.toList) = some i := by
    rw [ofTimestamp?, hk, Option.bind_some, hi]
  refine ⟨i, ?_, offset_of_withOffset? hi, utc_of_withOffset? hi⟩
  rw [read, hof]

theorem read_of_isText (h : DateTime.IsText (trim s.toList) wall) (offset : Offset) :
    read offset s = place wall offset (trimmed s) :=
  read_of_findSome? (DateTime.findSome?_eq_some_iff.mpr h) offset

/-- No text names its offset and leaves it out. -/
theorem not_isText_of_own (h : Timestamp.IsText (trim s.toList) wall own) :
    ¬ ∃ wall, DateTime.IsText (trim s.toList) wall := by
  rintro ⟨other, hother⟩
  obtain ⟨k, hk, -⟩ := Timestamp.exists_read?_iff.mpr h
  obtain ⟨p, hp, hfit⟩ :=
    List.exists_of_findSome?_eq_some (DateTime.findSome?_eq_some_iff.mpr hother)
  rw [Timestamp.fit?_eq_none_of_read? hk p hp] at hfit
  cases hfit

theorem read_of_neither (hown : ¬ ∃ wall own, Timestamp.IsText (trim s.toList) wall own)
    (hwall : ¬ ∃ wall, DateTime.IsText (trim s.toList) wall) (offset : Offset) :
    read offset s = .error ⟨.notTimestamp, trimmed s⟩ := by
  have hnone : Timestamp.read? (trim s.toList) = none := by
    rw [Option.eq_none_iff_forall_ne_some]
    intro k hk
    exact hown ⟨k.wall, k.offset, Timestamp.exists_read?_iff.mp ⟨k, hk, rfl, rfl⟩⟩
  rw [read, ofTimestamp?, hnone, DateTime.findSome?_eq_none hwall]
  rfl

/-- The instant that a timestamp means in an offset: the point in time that it names with an offset
of its own, or else that reading of the wall clock. -/
inductive IsTimestamp (offset : Offset) (cs : List Char) (i : Instant) : Prop
  | own {wall : DateTime} {own : Offset} (h : Timestamp.IsText cs wall own)
      (hoffset : i.offset = offset) (hseconds : i.utc.seconds = wall.seconds - own.seconds)
      (hnanos : i.utc.time.nanos = wall.time.nanos)
  | wall (h : DateTime.IsText cs i.wall) (hoffset : i.offset = offset)

/-- An instant is read exactly when a timestamp means it. -/
theorem read_eq_ok_iff_isTimestamp {offset : Offset} {i : Instant} :
    read offset s = .ok i ↔ IsTimestamp offset (trim s.toList) i := by
  constructor
  · intro hi
    by_cases hown : ∃ wall own, Timestamp.IsText (trim s.toList) wall own
    · obtain ⟨wall, own, htext⟩ := hown
      obtain ⟨utc, hseconds, hnanos, hread⟩ := exists_read_of_own htext
      obtain ⟨j, hj, hoffset, rfl⟩ := hread offset
      obtain rfl : i = j := Except.ok.inj (hi.symm.trans hj)
      exact .own htext hoffset hseconds hnanos
    · by_cases hwall : ∃ wall, DateTime.IsText (trim s.toList) wall
      · obtain ⟨wall, htext⟩ := hwall
        rw [read_of_isText htext] at hi
        obtain ⟨rfl, hoffset⟩ := place_eq_ok_iff.mp hi
        exact .wall htext hoffset
      · rw [read_of_neither hown hwall] at hi
        cases hi
  · intro h
    cases h with
    | own htext hoffset hseconds hnanos =>
        obtain ⟨utc, hseconds', hnanos', hread⟩ := exists_read_of_own htext
        obtain ⟨j, hj, hoffset', rfl⟩ := hread offset
        have hsame : i = j := eq_of_utc (hoffset.trans hoffset'.symm)
          (hseconds.trans hseconds'.symm) (hnanos.trans hnanos'.symm)
        rwa [hsame]
    | wall htext hoffset =>
        rw [read_of_isText htext]
        exact place_eq_ok_iff.mpr ⟨rfl, hoffset⟩

/-- A timestamp in two offsets: with an offset of its own it is the same point in time, without one
the same reading of the wall clock, and every other text is no timestamp in any offset. -/
theorem read_in_two_offsets (s : String) (o o' : Offset) :
    (∀ wall own, Timestamp.IsText (trim s.toList) wall own →
      ∃ i j, read o s = .ok i ∧ read o' s = .ok j ∧ i.offset = o ∧ j.offset = o' ∧
        i.utc = j.utc ∧ i.utc.seconds = wall.seconds - own.seconds ∧
          i.utc.time.nanos = wall.time.nanos) ∧
    (∀ wall, DateTime.IsText (trim s.toList) wall →
      (∀ i, read o s = .ok i → i.wall = wall ∧ i.offset = o) ∧
      (∀ i j, read o s = .ok i → read o' s = .ok j →
        i.utc.seconds - j.utc.seconds = o'.seconds - o.seconds ∧
          i.utc.time.nanos = j.utc.time.nanos) ∧
      ∀ e, read o s = .error e ↔
        e = ⟨.outOfRange, trimmed s⟩ ∧ ¬ IsInCalendar (wall.seconds - o.seconds)) ∧
    ¬ ((∃ wall own, Timestamp.IsText (trim s.toList) wall own) ∧
      ∃ wall, DateTime.IsText (trim s.toList) wall) ∧
    ((¬ ∃ wall own, Timestamp.IsText (trim s.toList) wall own) →
      (¬ ∃ wall, DateTime.IsText (trim s.toList) wall) →
        read o s = .error ⟨.notTimestamp, trimmed s⟩) := by
  refine ⟨fun wall own htext => ?_, fun wall htext => ?_, ?_, ?_⟩
  · obtain ⟨utc, hseconds, hnanos, hread⟩ := exists_read_of_own htext
    obtain ⟨i, hi, hio, rfl⟩ := hread o
    obtain ⟨j, hj, hjo, hutc⟩ := hread o'
    exact ⟨i, j, hi, hj, hio, hjo, hutc.symm, hseconds, hnanos⟩
  · have hplaced (offset : Offset) (i : Instant) (hi : read offset s = .ok i) :
        i.wall = wall ∧ i.offset = offset := by
      rw [read_of_isText htext] at hi
      exact place_eq_ok_iff.mp hi
    refine ⟨hplaced o, fun i j hi hj => ?_, fun e => ?_⟩
    · obtain ⟨hiw, hio⟩ := hplaced o i hi
      obtain ⟨hjw, hjo⟩ := hplaced o' j hj
      have hi := i.seconds_utc
      have hj := j.seconds_utc
      rw [hiw, hio] at hi
      rw [hjw, hjo] at hj
      refine ⟨by omega, ?_⟩
      rw [i.nanos_utc, j.nanos_utc, hiw, hjw]
    · rw [read_of_isText htext]
      exact place_eq_error_iff
  · rintro ⟨⟨wall, own, hown⟩, hwall⟩
    exact not_isText_of_own hown hwall
  · exact fun hown hwall => read_of_neither hown hwall o

/-- A leap second with the minus of mathematics before its offset, and the last half hour of the
calendar, which ends an hour later in universal time. -/
theorem leap_second_read_in_two_offsets :
    (∃ (wall : DateTime) (own : Offset) (i j : Instant),
      Timestamp.IsText (trim " 2016-12-31t23:59:60.25\u221208:00\n".toList) wall own ∧
        wall.time.isLeap = true ∧ own.seconds = -28800 ∧
          read .utc " 2016-12-31t23:59:60.25\u221208:00\n" = .ok i ∧
            read ⟨50400, by decide⟩ " 2016-12-31t23:59:60.25\u221208:00\n" = .ok j ∧
              i.utc = j.utc ∧ i.utc.seconds = wall.seconds + 28800) ∧
    ∃ wall, DateTime.IsText (trim "+262142-12-31T23:30".toList) wall ∧
      read ⟨-3600, by decide⟩ "+262142-12-31T23:30" =
        .error ⟨.outOfRange, "+262142-12-31T23:30"⟩ := by
  constructor
  · have hany : (Timestamp.read?
        (trim " 2016-12-31t23:59:60.25\u221208:00\n".toList)).any (fun k =>
          k.wall.time.isLeap && k.offset.seconds == -28800) = true := by
      decide +kernel
    obtain ⟨k, hk, hfacts⟩ := (Option.any_eq_true _ _).mp hany
    rw [Bool.and_eq_true, beq_iff_eq] at hfacts
    have htext := Timestamp.exists_read?_iff.mp ⟨k, hk, rfl, rfl⟩
    obtain ⟨i, j, hi, hj, -, -, hutc, hseconds, -⟩ :=
      (read_in_two_offsets _ .utc ⟨50400, by decide⟩).1 _ _ htext
    exact ⟨k.wall, k.offset, i, j, htext, hfacts.1, hfacts.2, hi, hj, hutc, by omega⟩
  · let wall : DateTime :=
      ⟨⟨262142, 12, 31, by decide, by decide, by decide⟩, ⟨84600, 0, by decide, by decide⟩⟩
    have htext : DateTime.IsText (trim "+262142-12-31T23:30".toList) wall :=
      DateTime.findSome?_eq_some_iff.mp (by decide +kernel)
    have hread := (read_in_two_offsets "+262142-12-31T23:30" ⟨-3600, by decide⟩ .utc).2.1 wall htext
    exact ⟨wall, htext, (hread.2.2 _).mpr ⟨by decide +kernel, by decide +kernel⟩⟩

end Instant

end TripQuery
