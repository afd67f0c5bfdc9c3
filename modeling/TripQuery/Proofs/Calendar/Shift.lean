import TripQuery.Calendar.Instant
import TripQuery.Proofs.Calendar.LeapSecond
import TripQuery.Proofs.Calendar.Neighbours

namespace TripQuery

/-!
# Moving a wall clock

A shift and the shift by as much the other way cancel. Away from the first and the last year no
shift leaves the calendar, so that every date-time there is an instant in every offset.
-/

namespace DateTime

variable {t u : DateTime} {a : Int}

/-- What a shift does: it moves the second of the day, and carries into the day next to it. -/
theorem shift?_eq_some_iff :
    t.shift? a = some u ↔
      t.date.carry? (t.time.second + a) = some u.date ∧
        (u.time.second : Int) = (t.time.second + a) % 86400 ∧ u.time.nanos = t.time.nanos := by
  have hpos : 0 ≤ (t.time.second + a) % 86400 := Int.emod_nonneg _ (by decide)
  have hday : ((secondsPerDay : Nat) : Int) = 86400 := rfl
  rw [shift?, hday, Option.bind_eq_some_iff]
  constructor
  · rintro ⟨date, hdate, hmap⟩
    obtain ⟨time, htime, rfl⟩ := Option.map_eq_some_iff.mp hmap
    obtain ⟨hs, hn⟩ := TimeOfDay.ofSeconds?_eq_some_iff.mp htime
    have hmod : (time.second : Int) = (t.time.second + a) % 86400 := by omega
    exact ⟨hdate, hmod, hn⟩
  · rintro ⟨hdate, hs, hn⟩
    refine ⟨u.date, hdate, Option.map_eq_some_iff.mpr ⟨u.time, ?_, rfl⟩⟩
    exact TimeOfDay.ofSeconds?_eq_some_iff.mpr ⟨by omega, hn⟩

theorem second_lt (t : DateTime) : t.time.second < 86400 := t.time.second_lt

/-- A shift of less than a day is undone by the opposite one. -/
theorem shift?_neg (h : t.shift? a = some u) (hlow : -86400 < a) (hhigh : a < 86400) :
    u.shift? (-a) = some t := by
  obtain ⟨hdate, hs, hn⟩ := shift?_eq_some_iff.mp h
  have ht := t.second_lt
  have hday : ((secondsPerDay : Nat) : Int) = 86400 := rfl
  refine shift?_eq_some_iff.mpr ⟨?_, by omega, hn.symm⟩
  rw [Date.carry?, hday] at hdate ⊢
  by_cases hbefore : (t.time.second : Int) + a < 0
  · rw [if_pos hbefore] at hdate
    rw [if_neg (by omega), if_neg (by omega)]
    exact Date.next?_of_previous? hdate
  · rw [if_neg hbefore] at hdate
    by_cases hsame : (t.time.second : Int) + a < 86400
    · rw [if_pos hsame] at hdate
      rw [if_neg (by omega), if_pos (by omega)]
      exact hdate.symm
    · rw [if_neg hsame] at hdate
      rw [if_pos (by omega)]
      exact Date.previous?_of_next? hdate

/-- A shift fails only where there is no day to carry into. -/
theorem isSome_shift?_eq (t : DateTime) (a : Int) :
    (t.shift? a).isSome = (t.date.carry? (t.time.second + a)).isSome := by
  cases hcarry : t.date.carry? (t.time.second + a) with
  | none =>
      rw [shift?, hcarry]
      rfl
  | some date =>
      have hpos : 0 ≤ (t.time.second + a) % 86400 := Int.emod_nonneg _ (by decide)
      have hsecond : ((t.time.second + a) % 86400).toNat < secondsPerDay := by
        change _ < 86400
        omega
      have hshift := shift?_eq_some_iff (t := t) (a := a)
        (u := ⟨date, ⟨((t.time.second + a) % 86400).toNat, t.time.nanos, hsecond,
          t.time.nanos_lt⟩⟩)
      rw [hshift.mpr ⟨hcarry, Int.toNat_of_nonneg hpos, rfl⟩]
      rfl

theorem isSome_shift? (hfirst : firstYear < t.date.year) (hlast : t.date.year < lastYear)
    (a : Int) : (t.shift? a).isSome = true := by
  rw [isSome_shift?_eq, Date.carry?]
  split
  · exact Date.isSome_previous? (Or.inl hfirst)
  · split
    · rfl
    · exact Date.isSome_next? (Or.inl hlast)

theorem isRegular_of_shift? (h : t.shift? a = some u) (ha : a % 60 = 0)
    (ht : t.time.IsRegular) : u.time.IsRegular := by
  obtain ⟨-, hs, hn⟩ := shift?_eq_some_iff.mp h
  intro hleap
  have hleap' : t.time.isLeap = true := by
    rw [TimeOfDay.isLeap, ← hn]
    exact hleap
  have hlast := ht hleap'
  omega

end DateTime

theorem Offset.ofSeconds?_eq_some_iff {s : Int} {o : Offset} :
    ofSeconds? s = some o ↔ o.seconds = s := by
  constructor
  · intro h
    unfold ofSeconds? at h
    split at h
    · cases h
      rfl
    · cases h
  · rintro rfl
    rw [ofSeconds?, dif_pos o.isBounded]

namespace Instant

theorem ofWall?_eq_some_iff {wall : DateTime} {offset : Offset} {i : Instant} :
    ofWall? wall offset = some i ↔ i.wall = wall ∧ i.offset = offset := by
  constructor
  · intro h
    unfold ofWall? at h
    split at h
    · cases h
      exact ⟨rfl, rfl⟩
    · cases h
  · rintro ⟨rfl, rfl⟩
    exact ofWall?_fields i

/-- Away from the ends of the calendar every date-time is an instant. -/
theorem exists_ofWall? (wall : DateTime) (hfirst : firstYear < wall.date.year)
    (hlast : wall.date.year < lastYear) (offset : Offset) :
    ∃ i, ofWall? wall offset = some i ∧ i.wall = wall ∧ i.offset = offset := by
  have hrange := DateTime.isSome_shift? hfirst hlast (-offset.seconds)
  exact ⟨⟨wall, offset, hrange⟩, by rw [ofWall?, dif_pos hrange], rfl, rfl⟩

theorem shift?_wall (i : Instant) : i.wall.shift? (-i.offset.seconds) = some i.utc := by
  rw [utc, Option.some_get]

theorem shift?_utc (i : Instant) : i.utc.shift? i.offset.seconds = some i.wall := by
  have hbound := i.offset.isBounded
  have h := DateTime.shift?_neg i.shift?_wall (by omega) (by omega)
  rwa [Int.neg_neg] at h

theorem withOffset?_self (i : Instant) : i.withOffset? i.offset = some i := by
  rw [withOffset?, i.shift?_utc, Option.bind_some, ofWall?_fields]

theorem offset_of_withOffset? {i j : Instant} {offset : Offset}
    (h : j.withOffset? offset = some i) : i.offset = offset := by
  obtain ⟨wall, -, hwall⟩ := Option.bind_eq_some_iff.mp h
  exact (ofWall?_eq_some_iff.mp hwall).2

theorem isRegular_of_withOffset? {i j : Instant} {offset : Offset}
    (h : i.withOffset? offset = some j) (hi : i.wall.time.IsRegular)
    (hown : i.offset.seconds % 60 = 0) (hoffset : offset.seconds % 60 = 0) :
    j.wall.time.IsRegular := by
  obtain ⟨wall, hwall, hj⟩ := Option.bind_eq_some_iff.mp h
  rw [(ofWall?_eq_some_iff.mp hj).1]
  have hutc : i.utc.time.IsRegular :=
    DateTime.isRegular_of_shift? i.shift?_wall (by omega) hi
  exact DateTime.isRegular_of_shift? hwall hoffset hutc

end Instant

end TripQuery
