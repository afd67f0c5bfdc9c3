import TripQuery.Proofs.Calendar.DayCount

namespace TripQuery

/-!
# What the clock stands in for

A date and a time of day are combined as they are given, and the clock stands in for the one that is
missing. Whatever else it shows has no part in the result.
-/

namespace Instant

/-- A date or a time of day is the one read, or the present one where none is given. -/
inductive IsPart {α : Type} (read : String → Except TemporalFault α) (present : α) :
    Option String → α → Prop
  | given {s : String} {a : α} (h : read s = .ok a) : IsPart read present (some s) a
  | missing : IsPart read present none present

section Parts

variable {α : Type} {read : String → Except TemporalFault α} {part : Option String} {a b : α}

theorem IsPart.of_present (h : IsPart read a part b) {a' : α} (hnone : part = none → a' = a) :
    IsPart read a' part b := by
  cases h with
  | given h => exact .given h
  | missing =>
      rw [← hnone rfl]
      exact .missing

theorem isPart_or_fault (read : String → Except TemporalFault α) (present : α)
    (part : Option String) :
    (∃ a, IsPart read present part a) ∨ ∃ s ∈ part, ∃ e, read s = .error e := by
  cases part with
  | none => exact Or.inl ⟨present, .missing⟩
  | some s =>
      cases h : read s with
      | ok a => exact Or.inl ⟨a, .given h⟩
      | error e => exact Or.inr ⟨s, rfl, e, h⟩

theorem IsPart.exists_readPart (h : IsPart read a part b) :
    ∃ x, readPart read part = .ok x ∧ x.getD a = b ∧ (x = none → part = none) := by
  cases h with
  | given h => exact ⟨some b, by rw [readPart, h]; rfl, rfl, nofun⟩
  | missing => exact ⟨none, rfl, rfl, fun _ => rfl⟩

end Parts

variable {date time : Option String} {now : Instant} {day : Date} {clock : TimeOfDay}

theorem combine_of_date_fault {d : String} {e : TemporalFault} (h : Date.read d = .error e)
    (time : Option String) (now : Instant) : combine (some d) time now = .error e := by
  rw [combine, readPart, h]
  rfl

theorem combine_of_time_fault (hday : IsPart Date.read now.wall.date date day) {t : String}
    {e : TemporalFault} (h : TimeOfDay.read t = .error e) :
    combine date (some t) now = .error e := by
  obtain ⟨x, hx, -⟩ := hday.exists_readPart
  rw [combine, hx, readPart, h]
  rfl

/-- The text to complain about: what was given, with a blank between. -/
def givenText (date time : Option String) : String :=
  trimmed (date.getD "" ++ " " ++ time.getD "")

theorem combine_of_parts (hday : IsPart Date.read now.wall.date date day)
    (hclock : IsPart TimeOfDay.read now.wall.time time clock) :
    combine date time now = place ⟨day, clock⟩ now.offset (givenText date time) := by
  obtain ⟨x, hx, hxday, hdate⟩ := hday.exists_readPart
  obtain ⟨y, hy, hyclock, htime⟩ := hclock.exists_readPart
  rw [combine, hx, hy, ← hxday, ← hyclock]
  cases x with
  | some day => rfl
  | none =>
      cases y with
      | some clock => rfl
      | none => exact ((place_eq_ok_iff (i := now)).mpr ⟨rfl, rfl⟩).symm

/-- What is wrong with a date and a time of day. The date is looked at first, and the instant that
the two make together is looked at last. -/
inductive PartsFault (now : Instant) (date time : Option String) : TemporalFault → Prop
  | date {d : String} {e : TemporalFault} (hdate : date = some d) (h : Date.read d = .error e) :
      PartsFault now date time e
  | time {day : Date} {t : String} {e : TemporalFault}
      (hday : IsPart Date.read now.wall.date date day) (htime : time = some t)
      (h : TimeOfDay.read t = .error e) : PartsFault now date time e
  | outOfRange {day : Date} {clock : TimeOfDay} (hday : IsPart Date.read now.wall.date date day)
      (hclock : IsPart TimeOfDay.read now.wall.time time clock)
      (h : ¬ IsInCalendar (DateTime.seconds ⟨day, clock⟩ - now.offset.seconds)) :
      PartsFault now date time ⟨.outOfRange, givenText date time⟩

theorem combine_eq_error_iff {e : TemporalFault} :
    combine date time now = .error e ↔ PartsFault now date time e := by
  constructor
  · intro h
    rcases isPart_or_fault Date.read now.wall.date date with ⟨day, hday⟩ | ⟨d, rfl, e', he⟩
    · rcases isPart_or_fault TimeOfDay.read now.wall.time time with
        ⟨clock, hclock⟩ | ⟨t, rfl, e', he⟩
      · rw [combine_of_parts hday hclock] at h
        obtain ⟨rfl, hrange⟩ := place_eq_error_iff.mp h
        exact .outOfRange hday hclock hrange
      · rw [combine_of_time_fault hday he] at h
        cases h
        exact .time hday rfl he
    · rw [combine_of_date_fault he] at h
      cases h
      exact .date rfl he
  · intro h
    cases h with
    | date hdate h =>
        subst hdate
        exact combine_of_date_fault h time now
    | time hday htime h =>
        subst htime
        exact combine_of_time_fault hday h
    | outOfRange hday hclock h =>
        rw [combine_of_parts hday hclock]
        exact place_eq_error_iff.mpr ⟨rfl, h⟩

/-- Two clocks of one offset give the same result where they agree on what is missing. -/
theorem combine_congr_of_clock {now' : Instant} (hoffset : now'.offset = now.offset)
    (hdate : date = none → now'.wall.date = now.wall.date)
    (htime : time = none → now'.wall.time = now.wall.time) :
    combine date time now' = combine date time now := by
  rcases isPart_or_fault Date.read now.wall.date date with ⟨day, hday⟩ | ⟨d, rfl, e, he⟩
  · have hday' := hday.of_present hdate
    rcases isPart_or_fault TimeOfDay.read now.wall.time time with ⟨clock, hclock⟩ | ⟨t, rfl, e, he⟩
    · have hclock' := hclock.of_present htime
      rw [combine_of_parts hday hclock, combine_of_parts hday' hclock', hoffset]
    · rw [combine_of_time_fault hday he, combine_of_time_fault hday' he]
  · rw [combine_of_date_fault he, combine_of_date_fault he]

/-- A bad date is reported before a bad time. Otherwise the result is the given date or today, at
the given time or the present one, in the offset of the clock, unless that is no instant; and of the
clock only the offset and what is missing matter. -/
theorem combine_with_clock (date time : Option String) (now : Instant) :
    (∀ d ∈ date, ∀ e, Date.read d = .error e → combine date time now = .error e) ∧
    (∀ day, IsPart Date.read now.wall.date date day →
      ∀ t ∈ time, ∀ e, TimeOfDay.read t = .error e → combine date time now = .error e) ∧
    (date = none → time = none → combine date time now = .ok now) ∧
    (∀ day clock, IsPart Date.read now.wall.date date day →
      IsPart TimeOfDay.read now.wall.time time clock →
        (∀ i, combine date time now = .ok i ↔ i.wall = ⟨day, clock⟩ ∧ i.offset = now.offset) ∧
        ∀ e, combine date time now = .error e ↔
          e = ⟨.outOfRange, givenText date time⟩ ∧
            ¬ IsInCalendar (DateTime.seconds ⟨day, clock⟩ - now.offset.seconds)) ∧
    ∀ now' : Instant, now'.offset = now.offset →
      (date = none → now'.wall.date = now.wall.date) →
        (time = none → now'.wall.time = now.wall.time) →
          combine date time now' = combine date time now := by
  refine ⟨?_, ?_, ?_, fun day clock hday hclock => ?_, fun now' => combine_congr_of_clock⟩
  · rintro d rfl e he
    exact combine_of_date_fault he time now
  · rintro day hday t rfl e he
    exact combine_of_time_fault hday he
  · rintro rfl rfl
    rfl
  · rw [combine_of_parts hday hclock]
    exact ⟨fun i => place_eq_ok_iff, fun e => place_eq_error_iff⟩

/-- On New Year's Eve, in a leap second: a date alone is at that very second, the last day of the
calendar is not any more, and what was read first is complained of first. -/
theorem combine_with_clock_in_leap_second :
    ∃ now : Instant, now.wall.time.isLeap = true ∧ now.offset.seconds = -18000 ∧
      (∃ i, combine (some "2/29/0004") none now = .ok i ∧
        i.wall.date.month = 2 ∧ i.wall.time = now.wall.time ∧ i.offset = now.offset) ∧
      combine (some "+262142-12-31") none now = .error ⟨.outOfRange, "+262142-12-31"⟩ ∧
      combine (some "soon") (some "teatime") now = .error ⟨.unrecognizedDate, "soon"⟩ ∧
      combine (some "12/31/2016") (some "teatime") now =
        .error ⟨.unrecognizedTime, "teatime"⟩ := by
  let now : Instant :=
    ⟨⟨⟨2016, 12, 31, by decide, by decide, by decide⟩, ⟨86399, 1500000000, by decide, by decide⟩⟩,
      ⟨-18000, by decide⟩, by decide⟩
  let leapDay : Date := ⟨4, 2, 29, by decide, by decide, by decide⟩
  let last : Date := ⟨262142, 12, 31, by decide, by decide, by decide⟩
  have hleapDay : IsPart Date.read now.wall.date (some "2/29/0004") leapDay :=
    .given (by decide +kernel)
  have hlast : IsPart Date.read now.wall.date (some "+262142-12-31") last :=
    .given (by decide +kernel)
  have hnewYear : IsPart Date.read now.wall.date (some "12/31/2016") now.wall.date :=
    .given (by decide +kernel)
  refine ⟨now, by decide, rfl, ?_, ?_, ?_, ?_⟩
  · obtain ⟨i, hi, hoffset⟩ := exists_ofWall? ⟨leapDay, now.wall.time⟩ (by decide) (by decide)
      now.offset
    refine ⟨i, ?_, ?_, ?_, hoffset.2⟩
    · exact (((combine_with_clock _ _ now).2.2.2.1 _ _ hleapDay .missing).1 i).mpr hoffset
    · rw [hoffset.1]
    · rw [hoffset.1]
  · exact (((combine_with_clock _ _ now).2.2.2.1 _ _ hlast .missing).2 _).mpr
      ⟨by decide +kernel, by decide +kernel⟩
  · exact (combine_with_clock _ _ now).1 "soon" rfl _ (by decide +kernel)
  · exact (combine_with_clock _ _ now).2.1 _ hnewYear "teatime" rfl _ (by decide +kernel)

end Instant

end TripQuery
