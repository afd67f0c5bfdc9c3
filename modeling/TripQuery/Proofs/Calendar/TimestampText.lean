import TripQuery.Calendar.Reading
import TripQuery.Proofs.Calendar.Digits
import TripQuery.Proofs.Calendar.Shift
import TripQuery.Proofs.Calendar.Spelling
import TripQuery.Proofs.Text.Trimming

namespace TripQuery

/-!
# Timestamps and their texts

The timestamp of an instant reads back as that instant, as long as its year has four digits and its
offset no seconds. Of a leap second within a minute the second after it is read.
-/

theorem nanos?_padded {width n : Nat} (hwidth : 0 < width) (hnine : width ≤ 9)
    (h : n < 10 ^ width) {rest : List Char} (hrest : ∀ c ∈ rest.head?, c.isDigit = false) :
    nanos? (padded width n ++ rest) = some (n * 10 ^ (9 - width), rest) := by
  have hlength := length_padded hwidth h
  have htake : (padded width n).take 9 = padded width n := List.take_of_length_le (by omega)
  rw [nanos?_append (fun _ => isDigit_of_mem_padded) hrest, htake, if_neg (padded_ne_nil width n),
    ofDigitChars_padded, hlength]

theorem fraction?_fractionText {n : Nat} (h : n < nanosPerSecond) {rest : List Char}
    (hrest : ∀ c ∈ rest.head?, c.isDigit = false ∧ c ≠ '.') :
    fraction? (TimeOfDay.fractionText n ++ rest) = some (n, rest) := by
  have hstop : ∀ c ∈ rest.head?, c.isDigit = false := fun c hc => (hrest c hc).1
  have hlt : n < 1000000000 := h
  rw [TimeOfDay.fractionText]
  by_cases h0 : n = 0
  · rw [if_pos h0, List.nil_append, h0]
    cases rest with
    | nil => rfl
    | cons c rest =>
        unfold fraction?
        split
        · next heq =>
            cases heq
            exact absurd rfl (hrest '.' rfl).2
        · rfl
  · rw [if_neg h0]
    by_cases h3 : n % 1000000 = 0
    · rw [if_pos h3, List.cons_append, fraction?,
        nanos?_padded (by decide) (by decide) (by omega) hstop, Option.some.injEq, Prod.mk.injEq]
      exact ⟨by omega, rfl⟩
    · rw [if_neg h3]
      by_cases h6 : n % 1000 = 0
      · rw [if_pos h6, List.cons_append, fraction?,
          nanos?_padded (by decide) (by decide) (by omega) hstop, Option.some.injEq,
          Prod.mk.injEq]
        exact ⟨by omega, rfl⟩
      · rw [if_neg h6, List.cons_append, fraction?,
          nanos?_padded (by decide) (by decide) (by omega) hstop, Option.some.injEq,
          Prod.mk.injEq]
        exact ⟨by omega, rfl⟩

namespace Timestamp

theorem date?_chars {d : Date} (h0 : 0 ≤ d.year) (h9999 : d.year ≤ 9999) (rest : List Char) :
    date? (d.chars ++ rest) = some (d, rest) := by
  obtain ⟨hm1, hm12⟩ := d.one_le_month
  have hday := d.day_le
  have hmonth := monthLength_le d.year d.month
  have hyear : ((d.year.natAbs : Nat) : Int) = d.year := Int.natAbs_of_nonneg h0
  rw [date?, Date.chars, Date.yearText, if_pos ⟨h0, h9999⟩]
  simp only [List.append_assoc, List.cons_append]
  rw [fixed?_padded (by decide) (by omega)]
  simp only [Option.bind_eq_bind, Option.bind_some, expect?_cons_self]
  rw [fixed?_two (by omega)]
  simp only [Option.bind_some, expect?_cons_self]
  rw [fixed?_two (by omega)]
  simp only [Option.bind_some, hyear, Date.ofYmd?_fields]
  rfl

theorem time?_chars (t : TimeOfDay) {rest : List Char}
    (hrest : ∀ c ∈ rest.head?, c.isDigit = false ∧ c ≠ '.') :
    time? (t.chars ++ rest) = some (t.settled, rest) := by
  have hhour := t.hour_lt
  have hminute := t.minute_lt
  have hsecond : t.shownSecond < 100 := by
    unfold TimeOfDay.shownSecond
    split <;> omega
  rw [time?, TimeOfDay.chars]
  simp only [List.append_assoc, List.cons_append]
  rw [fixed?_two (by omega)]
  simp only [Option.bind_eq_bind, Option.bind_some, expect?_cons_self]
  rw [fixed?_two (by omega)]
  simp only [Option.bind_some, expect?_cons_self]
  rw [fixed?_two hsecond]
  simp only [Option.bind_some]
  rw [fraction?_fractionText t.shownNanos_lt hrest]
  simp only [Option.bind_some, t.ofClock?_shown]
  rfl

theorem sign_mem_signs (o : Offset) : o.sign ∈ signs := by
  unfold Offset.sign
  split <;> decide

theorem offset?_minuteChars {o : Offset} (h : o.seconds % 60 = 0) :
    offset? o.minuteChars = some o := by
  obtain ⟨hlow, hhigh⟩ := o.isBounded
  have habs : o.seconds.natAbs < 86400 := by omega
  have hwhole : o.seconds.natAbs % 60 = 0 := by omega
  have hsign : o.sign ≠ 'Z' ∧ o.sign ≠ 'z' := by
    unfold Offset.sign
    split <;> decide
  have hutc : ¬ (o.minuteChars = ['Z'] ∨ o.minuteChars = ['z']) := by
    simp [Offset.minuteChars, hsign.1, hsign.2]
  have hone : ∀ cs, oneOf? signs (o.sign :: cs) = some (o.sign, cs) := fun cs => by
    rw [oneOf?, if_pos (sign_mem_signs o)]
  have hrest (n : Nat) (hn : n < 100) : fixed? 2 (padded 2 n) = some (n, []) := by
    have htwo := fixed?_two hn []
    rwa [List.append_nil] at htwo
  have hminutes : (o.seconds.natAbs + 30) / 60 < 1440 := by omega
  rw [offset?, if_neg hutc, Offset.minuteChars]
  simp only [List.cons_append]
  rw [hone]
  simp only [Option.bind_eq_bind, Option.bind_some]
  rw [fixed?_two (by omega)]
  simp only [Option.bind_some, expect?_cons_self]
  rw [hrest _ (by omega)]
  simp only [Option.bind_some]
  rw [if_pos ⟨trivial, by omega, by omega⟩]
  have hseconds : (if o.sign = '+' then
      (3600 * ((o.seconds.natAbs + 30) / 60 / 60 : Nat) +
        60 * ((o.seconds.natAbs + 30) / 60 % 60 : Nat) : Int)
      else -(3600 * ((o.seconds.natAbs + 30) / 60 / 60 : Nat) +
        60 * ((o.seconds.natAbs + 30) / 60 % 60 : Nat))) = o.seconds := by
    unfold Offset.sign
    by_cases hneg : o.seconds < 0
    · rw [if_pos hneg, if_neg (by decide)]
      omega
    · rw [if_neg hneg, if_pos rfl]
      omega
  rw [hseconds, Offset.ofSeconds?_eq_some_iff]

theorem head_minuteChars (o : Offset) :
    ∀ c ∈ o.minuteChars.head?, c.isDigit = false ∧ c ≠ '.' := by
  intro c hc
  have hsign : o.sign = c := by simpa [Offset.minuteChars] using hc
  rw [← hsign]
  unfold Offset.sign
  split <;> decide

theorem read?_timestampChars {i : Instant} (h0 : 0 ≤ i.wall.date.year)
    (h9999 : i.wall.date.year ≤ 9999) (hminute : i.offset.seconds % 60 = 0) :
    read? i.timestampChars = Instant.ofWall? ⟨i.wall.date, i.wall.time.settled⟩ i.offset := by
  rw [read?, Instant.timestampChars]
  simp only [List.append_assoc, List.cons_append]
  rw [date?_chars h0 h9999]
  simp only [Option.bind_eq_bind, Option.bind_some]
  rw [oneOf?, if_pos (by decide)]
  simp only [Option.bind_some]
  rw [time?_chars _ (head_minuteChars _)]
  simp only [Option.bind_some, offset?_minuteChars hminute]

end Timestamp

namespace Instant

theorem isTrimmed_timestampChars (i : Instant) : IsTrimmed i.timestampChars := by
  have hpadded (width n : Nat) : ∀ c ∈ padded width n, isBlank c = false :=
    fun c hc => isBlank_eq_false_of_isDigit (isDigit_of_mem_padded hc)
  have hyear : Date.yearText i.wall.date.year ≠ [] := by
    unfold Date.yearText
    split
    · exact padded_ne_nil 4 _
    · exact List.cons_ne_nil _ _
  have hhead : ∀ c ∈ (Date.yearText i.wall.date.year).head?, isBlank c = false := by
    intro c hc
    unfold Date.yearText at hc
    split at hc
    · exact hpadded 4 _ c (List.mem_of_mem_head? hc)
    · rw [List.head?_cons, Option.mem_some_iff] at hc
      rw [← hc]
      split <;> decide
  have hlast (n : Nat) : ∀ c ∈ (padded 2 n).getLast?, isBlank c = false :=
    fun c hc => hpadded 2 n c (List.mem_of_getLast? hc)
  have htrimmed := isTrimmed_append
    ('-' :: (padded 2 i.wall.date.month ++ '-' :: (padded 2 i.wall.date.day ++
      'T' :: (i.wall.time.chars ++ i.offset.sign ::
        (padded 2 ((i.offset.seconds.natAbs + 30) / 60 / 60) ++ [':'])))))
    hyear (padded_ne_nil 2 _) hhead (hlast ((i.offset.seconds.natAbs + 30) / 60 % 60))
  simpa [timestampChars, Date.chars, Offset.minuteChars] using htrimmed

/-- An instant is read off its timestamp, with the time of day that is written there. -/
theorem read_timestamp {i : Instant} (h0 : 0 ≤ i.wall.date.year)
    (h9999 : i.wall.date.year ≤ 9999) (hminute : i.offset.seconds % 60 = 0) :
    ∃ j, read i.offset i.timestamp = .ok j ∧ j.offset = i.offset ∧
      j.wall = ⟨i.wall.date, i.wall.time.settled⟩ := by
  have hfirst : firstYear < i.wall.date.year := Int.lt_of_lt_of_le (by decide) h0
  have hlast : i.wall.date.year < lastYear := Int.lt_of_le_of_lt h9999 (by decide)
  obtain ⟨j, hj, hwall, hoffset⟩ :=
    exists_ofWall? ⟨i.wall.date, i.wall.time.settled⟩ hfirst hlast i.offset
  have hself : j.withOffset? i.offset = some j := by
    rw [← hoffset]
    exact j.withOffset?_self
  have hof : ofTimestamp? i.offset i.timestampChars = some j := by
    rw [ofTimestamp?, Timestamp.read?_timestampChars h0 h9999 hminute, hj, Option.bind_some, hself]
  refine ⟨j, ?_, hoffset, hwall⟩
  rw [read, timestamp, String.toList_ofList, i.isTrimmed_timestampChars.trim_eq, hof]

end Instant

end TripQuery
