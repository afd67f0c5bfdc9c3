import TripQuery.Calendar.Reading
import TripQuery.Proofs.Calendar.Shift
import TripQuery.Proofs.Sequencing
import TripQuery.Proofs.Text.Respelling

namespace TripQuery

/-!
# What is read off texts

Whatever text an instant is read off, it is shown in the offset asked for. Every time of day comes
off a clock's face, and so its leap seconds are where clocks show them, as long as offsets are of
whole minutes.
-/

namespace Timestamp

theorem isRegular_of_time? {cs rest : List Char} {t : TimeOfDay}
    (h : time? cs = some (t, rest)) : t.IsRegular := by
  simp only [time?, Option.bind_eq_bind, Option.bind_eq_some_iff] at h
  obtain ⟨⟨hour, _⟩, -, _, -, ⟨minute, _⟩, -, _, -, ⟨second, _⟩, -, ⟨nanos, _⟩, -, time, htime,
    hpure⟩ := h
  cases hpure
  exact TimeOfDay.isRegular_of_ofClock? htime

theorem seconds_of_offset? {cs : List Char} {o : Offset} (h : offset? cs = some o) :
    o.seconds % 60 = 0 := by
  unfold offset? at h
  split at h
  · cases h
    rfl
  · simp only [Option.bind_eq_bind, Option.bind_eq_some_iff] at h
    obtain ⟨⟨sign, _⟩, -, ⟨hours, _⟩, -, _, -, ⟨minutes, _⟩, -, hoffset⟩ := h
    split at hoffset
    · have hseconds := Offset.ofSeconds?_eq_some_iff.mp hoffset
      by_cases hsign : sign = '+'
      · rw [if_pos hsign] at hseconds
        omega
      · rw [if_neg hsign] at hseconds
        omega
    · cases hoffset

theorem regular_of_read? {cs : List Char} {i : Instant} (h : read? cs = some i) :
    i.wall.time.IsRegular ∧ i.offset.seconds % 60 = 0 := by
  simp only [read?, Option.bind_eq_bind, Option.bind_eq_some_iff] at h
  obtain ⟨⟨date, _⟩, -, ⟨_, _⟩, -, ⟨time, _⟩, htime, offset, hoffset, hwall⟩ := h
  obtain ⟨hw, ho⟩ := Instant.ofWall?_eq_some_iff.mp hwall
  rw [hw, ho]
  exact ⟨isRegular_of_time? htime, seconds_of_offset? hoffset⟩

end Timestamp

theorem TimeOfDay.isRegular_of_fit? {cs : List Char} {p : Pattern} {t : TimeOfDay}
    (h : fit? cs p = some t) : t.IsRegular := by
  obtain ⟨fields, -, htime⟩ := Option.bind_eq_some_iff.mp h
  exact isRegular_of_ofClock? htime

theorem TimeOfDay.isRegular_of_read {s : String} {t : TimeOfDay} (h : read s = .ok t) :
    t.IsRegular := by
  obtain ⟨p, -, hfit⟩ := List.exists_of_findSome?_eq_some (found_eq_ok_iff.mp h)
  exact isRegular_of_fit? hfit

theorem DateTime.isRegular_of_fit? {cs : List Char} {p : Pattern} {t : DateTime}
    (h : fit? cs p = some t) : t.time.IsRegular := by
  obtain ⟨fields, -, hfields⟩ := Option.bind_eq_some_iff.mp h
  unfold Fields.dateTime? at hfields
  split at hfields
  · next htime =>
      cases hfields
      exact TimeOfDay.isRegular_of_ofClock? htime
  · cases hfields

namespace Instant

variable {i now : Instant} {offset : Offset} {s : String} {date time : Option String}

theorem read_eq_ok (h : read offset s = .ok i) :
    (∃ j, Timestamp.read? (trim s.toList) = some j ∧ j.withOffset? offset = some i) ∨
      ∃ wall p, DateTime.fit? (trim s.toList) p = some wall ∧ ofWall? wall offset = some i := by
  unfold read at h
  cases hown : ofTimestamp? offset (trim s.toList) with
  | some j =>
      simp only [hown] at h
      cases h
      exact Or.inl (Option.bind_eq_some_iff.mp hown)
  | none =>
      simp only [hown] at h
      obtain ⟨wall, hwall, hplace⟩ := exceptBind_eq_ok_iff.mp h
      obtain ⟨p, -, hfit⟩ := List.exists_of_findSome?_eq_some (found_eq_ok_iff.mp hwall)
      exact Or.inr ⟨wall, p, hfit, found_eq_ok_iff.mp hplace⟩

theorem offset_of_read (h : read offset s = .ok i) : i.offset = offset := by
  rcases read_eq_ok h with ⟨j, -, hj⟩ | ⟨wall, p, -, hwall⟩
  · exact offset_of_withOffset? hj
  · exact (ofWall?_eq_some_iff.mp hwall).2

theorem isRegular_of_read (h : read offset s = .ok i) (hoffset : offset.seconds % 60 = 0) :
    i.wall.time.IsRegular := by
  rcases read_eq_ok h with ⟨j, hread, hj⟩ | ⟨wall, p, hfit, hwall⟩
  · obtain ⟨hregular, hown⟩ := Timestamp.regular_of_read? hread
    exact isRegular_of_withOffset? hj hregular hown hoffset
  · rw [(ofWall?_eq_some_iff.mp hwall).1]
    exact DateTime.isRegular_of_fit? hfit

/-- The time of day of a combined instant was read, unless it is that of now. -/
theorem combine_eq_ok (h : combine date time now = .ok i) :
    i.offset = now.offset ∧
      (i.wall.time = now.wall.time ∨ ∃ s, TimeOfDay.read s = .ok i.wall.time) := by
  obtain ⟨day, hday, h⟩ := exceptBind_eq_ok_iff.mp h
  obtain ⟨clock, hclock, h⟩ := exceptBind_eq_ok_iff.mp h
  have hplace (d : Date)
      (hi : ofWall? ⟨d, clock.getD now.wall.time⟩ now.offset = some i) :
      i.offset = now.offset ∧
        (i.wall.time = now.wall.time ∨ ∃ s, TimeOfDay.read s = .ok i.wall.time) := by
    obtain ⟨hwall, hoffset⟩ := ofWall?_eq_some_iff.mp hi
    rw [hwall]
    refine ⟨hoffset, ?_⟩
    cases time with
    | none =>
        cases hclock
        exact Or.inl rfl
    | some s =>
        obtain ⟨t, ht, hsome⟩ := map_eq_ok_iff.mp hclock
        rw [← hsome]
        exact Or.inr ⟨s, ht⟩
  split at h
  · cases h
    exact ⟨rfl, Or.inl rfl⟩
  · exact hplace _ (found_eq_ok_iff.mp h)

theorem isRegular_of_combine (h : combine date time now = .ok i)
    (hnow : now.wall.time.IsRegular) : i.wall.time.IsRegular := by
  rcases (combine_eq_ok h).2 with hsame | ⟨s, hread⟩
  · rw [hsame]
    exact hnow
  · exact TimeOfDay.isRegular_of_read hread

end Instant

section Respelling

variable {s t : String}

theorem Date.read_congr (h : SameTrimmed s t) : read s = read t := by
  have htrim : trim s.toList = trim t.toList := h
  rw [read, read, h.trimmed_eq, htrim]

theorem TimeOfDay.read_congr (h : SameTrimmed s t) : read s = read t := by
  have htrim : trim s.toList = trim t.toList := h
  rw [read, read, h.trimmed_eq, htrim]

namespace Instant

variable {date date' time time' : Option String}

theorem read_congr (h : SameTrimmed s t) (offset : Offset) : read offset s = read offset t := by
  have htrim : trim s.toList = trim t.toList := h
  rw [read, read, h.trimmed_eq, htrim]

theorem readPart_congr {α : Type} {read : String → Except TemporalFault α}
    (hread : ∀ {s t}, SameTrimmed s t → read s = read t) (h : Option.Rel SameTrimmed date date') :
    readPart read date = readPart read date' := by
  cases h with
  | none => rfl
  | some hst => rw [readPart, readPart, hread hst]

theorem mapError_place (wall : DateTime) (offset : Offset) (text text' : String) :
    (place wall offset text).mapError TemporalFault.cause =
      (place wall offset text').mapError TemporalFault.cause := by
  rw [place, place]
  cases ofWall? wall offset <;> rfl

/-- The blanks around a date and a time show in the complaint only that there is no such instant. -/
theorem combine_congr (hdate : Option.Rel SameTrimmed date date')
    (htime : Option.Rel SameTrimmed time time') (now : Instant) :
    (combine date time now).mapError TemporalFault.cause =
      (combine date' time' now).mapError TemporalFault.cause := by
  rw [combine, combine, readPart_congr Date.read_congr hdate,
    readPart_congr TimeOfDay.read_congr htime]
  cases readPart Date.read date' with
  | error e => rfl
  | ok day =>
      cases readPart TimeOfDay.read time' with
      | error e => rfl
      | ok clock =>
          cases day with
          | some day => exact mapError_place _ _ _ _
          | none =>
              cases clock with
              | some clock => exact mapError_place _ _ _ _
              | none => rfl

end Instant

end Respelling

end TripQuery
