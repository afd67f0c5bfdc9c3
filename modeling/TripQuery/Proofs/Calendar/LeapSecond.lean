import TripQuery.Calendar.Text

namespace TripQuery

/-!
# Leap seconds

A leap second at the end of a minute is written as one. A leap second within a minute is a time of
day of its own too, but it is written like the second after it, and that is what its text reads as.
-/

namespace TimeOfDay

/-- A leap second, if it is one, is that at the end of a minute. -/
def IsRegular (t : TimeOfDay) : Prop := t.isLeap = true → t.second % 60 = 59

instance (t : TimeOfDay) : Decidable t.IsRegular := by
  unfold IsRegular
  infer_instance

theorem ofSeconds?_eq_some_iff {s nanos : Nat} {t : TimeOfDay} :
    ofSeconds? s nanos = some t ↔ t.second = s ∧ t.nanos = nanos := by
  constructor
  · intro h
    unfold ofSeconds? at h
    split at h
    · cases h
      exact ⟨rfl, rfl⟩
    · cases h
  · rintro ⟨rfl, rfl⟩
    exact ofSeconds?_fields t

theorem isRegular_of_ofClock? {h m s nanos : Nat} {t : TimeOfDay}
    (ht : ofClock? h m s nanos = some t) : t.IsRegular := by
  intro hleap
  have hle : nanosPerSecond ≤ t.nanos := of_decide_eq_true hleap
  unfold ofClock? at ht
  split at ht
  · next hface =>
      split at ht
      · obtain ⟨-, hn⟩ := ofSeconds?_eq_some_iff.mp ht
        omega
      · split at ht
        · obtain ⟨hs, -⟩ := ofSeconds?_eq_some_iff.mp ht
          omega
        · cases ht
  · cases ht

/-- The time of day in which a leap second within a minute is the second after it. -/
def settled (t : TimeOfDay) : TimeOfDay :=
  if h : t.IsRegular then t
  else
    have hlast : t.second % 60 ≠ 59 := fun hs => h fun _ => hs
    have hlt : t.second < 86400 := t.second_lt
    have hnanos := t.nanos_lt
    ⟨t.second + 1, t.nanos - nanosPerSecond,
      show t.second + 1 < 86400 by omega, by omega⟩

theorem settled_of_isRegular {t : TimeOfDay} (h : t.IsRegular) : t.settled = t := by
  rw [settled, dif_pos h]

theorem isLeap_of_not_isRegular {t : TimeOfDay} (h : ¬ t.IsRegular) :
    t.isLeap = true ∧ t.second % 60 ≠ 59 := by
  unfold IsRegular at h
  exact ⟨(Classical.not_imp.mp h).1, (Classical.not_imp.mp h).2⟩

theorem settled_of_not_isRegular {t : TimeOfDay} (h : ¬ t.IsRegular) :
    t.settled.second = t.second + 1 ∧ t.settled.nanos = t.nanos - nanosPerSecond := by
  rw [settled, dif_neg h]
  exact ⟨rfl, rfl⟩

theorem shownSecond_of_isLeap {t : TimeOfDay} (h : t.isLeap = true) :
    t.shownSecond = t.second % 60 + 1 := by
  rw [shownSecond, h, if_pos rfl]

theorem shownNanos_of_isLeap {t : TimeOfDay} (h : t.isLeap = true) :
    t.shownNanos = t.nanos - nanosPerSecond := by
  rw [shownNanos, h, if_pos rfl]

theorem shown_of_not_isLeap {t : TimeOfDay} (h : t.isLeap = false) :
    t.shownSecond = t.second % 60 ∧ t.shownNanos = t.nanos := by
  rw [shownSecond, shownNanos, h]
  exact ⟨rfl, rfl⟩

/-- A clock's face, read as a time of day, is the settled one. -/
theorem ofClock?_shown (t : TimeOfDay) :
    ofClock? t.hour t.minute t.shownSecond t.shownNanos = some t.settled := by
  have hface : t.hour < 24 ∧ t.minute < 60 ∧ t.shownNanos < nanosPerSecond :=
    ⟨t.hour_lt, t.minute_lt, t.shownNanos_lt⟩
  have hsplit : 3600 * t.hour + 60 * t.minute + t.second % 60 = t.second := by
    unfold hour minute
    omega
  have hmod : t.second % 60 < 60 := Nat.mod_lt _ (by decide)
  rw [ofClock?, if_pos hface]
  cases hleap : t.isLeap with
  | false =>
      have hregular : t.IsRegular := fun h => absurd h (by rw [hleap]; exact Bool.false_ne_true)
      obtain ⟨hs, hn⟩ := shown_of_not_isLeap hleap
      rw [hs, hn, if_pos hmod, hsplit, settled_of_isRegular hregular, ofSeconds?_fields]
  | true =>
      have hle : nanosPerSecond ≤ t.nanos := of_decide_eq_true hleap
      have hs := shownSecond_of_isLeap hleap
      have hn := shownNanos_of_isLeap hleap
      by_cases hlast : t.second % 60 = 59
      · have hregular : t.IsRegular := fun _ => hlast
        rw [hs, hn, if_neg (by omega), if_pos (by omega), settled_of_isRegular hregular,
          ofSeconds?_eq_some_iff]
        exact ⟨by omega, by omega⟩
      · have hirregular : ¬ t.IsRegular := fun h => hlast (h hleap)
        obtain ⟨hs', hn'⟩ := settled_of_not_isRegular hirregular
        rw [hs, hn, if_pos (by omega), ofSeconds?_eq_some_iff]
        exact ⟨by omega, hn'⟩

/-- What a clock's face shows at a time of day that has one. -/
structure IsFace (t : TimeOfDay) (h m s nanos : Nat) : Prop where
  hour : t.hour = h
  minute : t.minute = m
  second : t.shownSecond = s
  nanos : t.shownNanos = nanos
  regular : t.IsRegular

theorem ofClock?_eq_some_iff {h m s nanos : Nat} {t : TimeOfDay} :
    ofClock? h m s nanos = some t ↔ t.IsFace h m s nanos := by
  constructor
  · intro ht
    have hregular := isRegular_of_ofClock? ht
    unfold ofClock? at ht
    split at ht
    · next hface =>
        split at ht
        · obtain ⟨hs, hn⟩ := ofSeconds?_eq_some_iff.mp ht
          have hleap : t.isLeap = false := decide_eq_false (by omega)
          obtain ⟨hsecond, hnanos⟩ := shown_of_not_isLeap hleap
          refine ⟨?_, ?_, by omega, by omega, hregular⟩
          · rw [hour, hs]
            omega
          · rw [minute, hs]
            omega
        · split at ht
          · obtain ⟨hs, hn⟩ := ofSeconds?_eq_some_iff.mp ht
            have hleap : t.isLeap = true := decide_eq_true (by omega)
            have hsecond := shownSecond_of_isLeap hleap
            have hnanos := shownNanos_of_isLeap hleap
            refine ⟨?_, ?_, by omega, by omega, hregular⟩
            · rw [hour, hs]
              omega
            · rw [minute, hs]
              omega
          · cases ht
    · cases ht
  · rintro ⟨rfl, rfl, rfl, rfl, hregular⟩
    rw [ofClock?_shown, settled_of_isRegular hregular]

/-- The settled time of day is written like the time of day itself. -/
theorem chars_settled (t : TimeOfDay) : t.settled.chars = t.chars := by
  by_cases h : t.IsRegular
  · rw [settled_of_isRegular h]
  · obtain ⟨hleap, hlast⟩ := isLeap_of_not_isRegular h
    obtain ⟨hs, hn⟩ := settled_of_not_isRegular h
    have hlt := t.nanos_lt
    have hsettled : t.settled.isLeap = false := by
      rw [isLeap, decide_eq_false_iff_not, hn]
      omega
    have hhour : t.settled.hour = t.hour := by
      rw [hour, hour, hs]
      omega
    have hminute : t.settled.minute = t.minute := by
      rw [minute, minute, hs]
      omega
    have hsecond : t.settled.shownSecond = t.shownSecond := by
      rw [(shown_of_not_isLeap hsettled).1, shownSecond_of_isLeap hleap, hs]
      omega
    have hnanos : t.settled.shownNanos = t.shownNanos := by
      rw [(shown_of_not_isLeap hsettled).2, shownNanos_of_isLeap hleap, hn]
    rw [chars, chars, hhour, hminute, hsecond, hnanos]

end TimeOfDay

end TripQuery
