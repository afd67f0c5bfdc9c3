import TripQuery.Proofs.Calendar.DateAndTime
import TripQuery.Proofs.Calendar.Shift
import TripQuery.Proofs.Calendar.Spelling

namespace TripQuery

/-!
# The texts of timestamps

A timestamp names an offset behind its date-time, or it leaves the offset out. The texts of both
are described here as their parts one behind the other, and the readers accept these texts and no
others.
-/

namespace DateTime

variable {cs : List Char} {p : Pattern} {wall : DateTime}

/-- The text of a date-time that names no offset. -/
def IsText (cs : List Char) (wall : DateTime) : Prop :=
  ∃ p ∈ patterns, ∃ f, Pattern.IsText {} cs f p ∧ f.Shows wall

theorem isSeparated_patterns : ∀ p ∈ patterns, p.IsSeparated := by
  have hclock {items : Pattern} (h : Pattern.IsSeparated (.minute :: items)) :
      Pattern.IsSeparated (Date.yearFirst ++ .literal 'T' :: .hour :: .literal ':' :: .minute ::
        items) :=
    Pattern.isSeparated_mark rfl <| Pattern.isSeparated_mark rfl <| Pattern.isSeparated_mark rfl <|
      Pattern.isSeparated_mark rfl h
  intro p hp
  simp only [patterns, List.mem_cons, List.not_mem_nil, or_false] at hp
  rcases hp with rfl | rfl
  · exact hclock (Pattern.isSeparated_mark rfl Pattern.isSeparated_second_fraction)
  · exact hclock (Pattern.isSeparated_singleton _)

theorem fit?_eq_some_iff (hp : p.IsSeparated) :
    fit? cs p = some wall ↔ ∃ f, p.IsText {} cs f ∧ f.Shows wall := by
  rw [fit?, Pattern.bind_read_eq_some_iff hp]
  simp only [Fields.dateTime?_eq_some_iff]

/-- A text that ends with the minute does not fit the pattern with seconds. -/
theorem findSome?_eq_some_iff :
    patterns.findSome? (fit? cs) = some wall ↔ IsText cs wall := by
  constructor
  · intro h
    obtain ⟨p, hp, hfit⟩ := List.exists_of_findSome?_eq_some h
    exact ⟨p, hp, (fit?_eq_some_iff (isSeparated_patterns p hp)).mp hfit⟩
  · rintro ⟨p, hp, htext⟩
    have hfit := (fit?_eq_some_iff (isSeparated_patterns p hp)).mpr htext
    simp only [patterns, List.mem_cons, List.not_mem_nil, or_false] at hp
    rcases hp with rfl | rfl
    · rw [patterns, List.findSome?_cons, hfit]
    · obtain ⟨f, hread, -⟩ := Option.bind_eq_some_iff.mp hfit
      have hnone : fit? cs toTheFraction = none := by
        have hmore : toTheFraction.read cs = none :=
          Pattern.read_append_literal hread ':' [.second, .fraction]
        rw [fit?, hmore, Option.bind_none]
      rw [patterns, List.findSome?_cons, hnone, List.findSome?_cons, hfit]

theorem findSome?_eq_none (h : ¬ ∃ wall, IsText cs wall) :
    patterns.findSome? (fit? cs) = none := by
  rw [Option.eq_none_iff_forall_ne_some]
  intro wall hwall
  exact h ⟨wall, findSome?_eq_some_iff.mp hwall⟩

end DateTime

namespace Timestamp

/-- A number of exactly `width` digits. -/
def IsWide (width : Nat) (cs : List Char) (n : Nat) : Prop := IsNumeral cs n ∧ cs.length = width

inductive IsDateText : List Char → Date → Prop
  | intro {ys ms ds : List Char} {y : Nat} {d : Date} (hyear : IsWide 4 ys y) (hy : d.year = y)
      (hmonth : IsWide 2 ms d.month) (hday : IsWide 2 ds d.day) :
      IsDateText (ys ++ '-' :: (ms ++ '-' :: ds)) d

inductive IsTimeText : List Char → TimeOfDay → Prop
  | intro {hs ms ss fs : List Char} {h m s n : Nat} {t : TimeOfDay} (hhour : IsWide 2 hs h)
      (hminute : IsWide 2 ms m) (hsecond : IsWide 2 ss s) (hfraction : IsFraction fs n)
      (hface : t.IsFace h m s n) : IsTimeText (hs ++ ':' :: (ms ++ ':' :: (ss ++ fs))) t

inductive IsOffsetText : List Char → Offset → Prop
  | utc {z : Char} {o : Offset} (hz : z = 'Z' ∨ z = 'z') (ho : o.seconds = 0) :
      IsOffsetText [z] o
  | ahead {hs ms : List Char} {h m : Nat} {o : Offset} (hhour : IsWide 2 hs h)
      (hminute : IsWide 2 ms m) (hh : h < 24) (hm : m < 60)
      (ho : o.seconds = 3600 * h + 60 * m) : IsOffsetText ('+' :: (hs ++ ':' :: ms)) o
  | behind {sign : Char} {hs ms : List Char} {h m : Nat} {o : Offset}
      (hsign : sign = '-' ∨ sign = '\u2212') (hhour : IsWide 2 hs h) (hminute : IsWide 2 ms m)
      (hh : h < 24) (hm : m < 60) (ho : o.seconds = -(3600 * h + 60 * m)) :
      IsOffsetText (sign :: (hs ++ ':' :: ms)) o

/-- The text of a date-time and of the offset it is meant in. -/
inductive IsText : List Char → DateTime → Offset → Prop
  | intro {date time offset : List Char} {mark : Char} {wall : DateTime} {own : Offset}
      (hdate : IsDateText date wall.date) (hmark : mark ∈ ['T', 't', ' '])
      (htime : IsTimeText time wall.time) (hoffset : IsOffsetText offset own) :
      IsText (date ++ mark :: (time ++ offset)) wall own

theorem reads_fixed? {width : Nat} (hwidth : 0 < width) :
    Reads (fixed? width) (IsWide width) fun _ => false where
  split {cs rest n} h := by
    obtain ⟨hlength, hdigits, rfl, rfl⟩ := digits_of_fixed? h
    have hne : cs.take width ≠ [] := by
      intro hnil
      rw [hnil, List.length_nil] at hlength
      omega
    exact ⟨cs.take width, ⟨⟨hne, hdigits, rfl⟩, hlength⟩, (List.take_append_drop _ _).symm⟩
  append := by
    rintro ds rest n ⟨⟨-, hdigits, rfl⟩, rfl⟩ -
    have hall : ds.all Char.isDigit = true := List.all_eq_true.mpr hdigits
    simp [fixed?, hall]

theorem IsWide.fixed? {width n : Nat} {ds : List Char} (h : IsWide width ds n)
    (rest : List Char) : fixed? width (ds ++ rest) = some (n, rest) := by
  have hwidth : 0 < width := by
    rw [← h.2]
    exact List.length_pos_iff.mpr h.1.ne_nil
  exact (reads_fixed? hwidth).append h fun _ _ => rfl

theorem isWide_of_fixed? {width n : Nat} (hwidth : 0 < width) {cs rest : List Char}
    (h : Timestamp.fixed? width cs = some (n, rest)) : ∃ ds, IsWide width ds n ∧ cs = ds ++ rest :=
  (reads_fixed? hwidth).split h

theorem reads_date? : Reads date? IsDateText fun _ => false where
  split h := by
    simp only [date?, Option.bind_eq_bind, Option.bind_eq_some_iff] at h
    obtain ⟨⟨y, _⟩, hy, _, hfirst, ⟨m, _⟩, hm, _, hsecond, ⟨d, _⟩, hd, date, hdate, heq⟩ := h
    cases heq
    cases expect?_eq_some_iff.mp hfirst
    cases expect?_eq_some_iff.mp hsecond
    obtain ⟨ds, hds, rfl⟩ := isWide_of_fixed? (by decide) hd
    obtain ⟨ms, hms, hms'⟩ := isWide_of_fixed? (by decide) hm
    obtain ⟨ys, hys, rfl⟩ := isWide_of_fixed? (by decide) hy
    obtain ⟨hyear, rfl, rfl⟩ := Date.ofYmd?_eq_some_iff.mp hdate
    exact ⟨_, .intro hys hyear hms hds, by simp [hms']⟩
  append := by
    rintro _ rest date ⟨hyear, hy, hmonth, hday⟩ -
    have hdate : Date.ofYmd? _ _ _ = some date := Date.ofYmd?_eq_some_iff.mpr ⟨hy, rfl, rfl⟩
    simp only [date?, List.append_assoc, List.cons_append, hyear.fixed?, hmonth.fixed?, hday.fixed?,
      expect?_cons_self, Option.bind_eq_bind, Option.bind_some, hdate]
    rfl

theorem reads_time? : Reads time? IsTimeText fun c => c.isDigit || c == '.' where
  split h := by
    simp only [time?, Option.bind_eq_bind, Option.bind_eq_some_iff] at h
    obtain ⟨⟨h, _⟩, hh, _, hfirst, ⟨m, _⟩, hm, _, hsecond, ⟨s, _⟩, hs, ⟨n, _⟩, hn, time, htime,
      heq⟩ := h
    cases heq
    cases expect?_eq_some_iff.mp hfirst
    cases expect?_eq_some_iff.mp hsecond
    obtain ⟨fs, hfs, rfl⟩ := reads_fraction?.split hn
    obtain ⟨ss, hss, rfl⟩ := isWide_of_fixed? (by decide) hs
    obtain ⟨ms, hms, hms'⟩ := isWide_of_fixed? (by decide) hm
    obtain ⟨hs, hhs, rfl⟩ := isWide_of_fixed? (by decide) hh
    exact ⟨_, .intro hhs hms hss hfs (TimeOfDay.ofClock?_eq_some_iff.mp htime), by simp [hms']⟩
  append := by
    rintro _ rest time ⟨hhour, hminute, hsecond, hfraction, hface⟩ hrest
    have htime := TimeOfDay.ofClock?_eq_some_iff.mpr hface
    simp only [time?, List.append_assoc, List.cons_append, hhour.fixed?, hminute.fixed?,
      hsecond.fixed?, reads_fraction?.append hfraction hrest, expect?_cons_self,
      Option.bind_eq_bind, Option.bind_some, htime]
    rfl

theorem IsOffsetText.head {cs : List Char} {o : Offset} (h : IsOffsetText cs o) :
    ∀ c ∈ cs.head?, (c.isDigit || c == '.') = false := by
  intro c hc
  cases h with
  | utc hz =>
      cases hc
      rcases hz with rfl | rfl <;> rfl
  | ahead =>
      cases hc
      rfl
  | behind hsign =>
      cases hc
      rcases hsign with rfl | rfl <;> rfl

/-- Behind a sign stand hours and minutes. -/
theorem offset?_signed {sign : Char} (hsign : sign ∈ signs) {hs ms : List Char} {h m : Nat}
    (hhour : IsWide 2 hs h) (hminute : IsWide 2 ms m) (hh : h < 24) (hm : m < 60) :
    offset? (sign :: (hs ++ ':' :: ms)) =
      Offset.ofSeconds? (if sign = '+' then 3600 * h + 60 * m else -(3600 * h + 60 * m)) := by
  have hlong (z : Char) : sign :: (hs ++ ':' :: ms) ≠ [z] := by simp
  have hlast := hminute.fixed? []
  rw [List.append_nil] at hlast
  rw [offset?, if_neg fun hz => hz.elim (hlong _) (hlong _)]
  simp only [oneOf?, if_pos hsign, Option.bind_eq_bind, Option.bind_some, hhour.fixed?,
    expect?_cons_self, hlast]
  exact if_pos ⟨trivial, hh, hm⟩

theorem offset?_eq_some_iff {cs : List Char} {o : Offset} :
    offset? cs = some o ↔ IsOffsetText cs o := by
  constructor
  · intro h
    unfold offset? at h
    split at h
    · next hz =>
        cases h
        rcases hz with rfl | rfl
        · exact .utc (Or.inl rfl) rfl
        · exact .utc (Or.inr rfl) rfl
    · simp only [Option.bind_eq_bind, Option.bind_eq_some_iff] at h
      obtain ⟨⟨sign, _⟩, hsign, ⟨hour, _⟩, hh, _, hmark, ⟨minute, rest⟩, hm, hoffset⟩ := h
      cases expect?_eq_some_iff.mp hmark
      obtain ⟨ms, hms, rfl⟩ := isWide_of_fixed? (by decide) hm
      obtain ⟨hs, hhs, rfl⟩ := isWide_of_fixed? (by decide) hh
      obtain ⟨rfl, hmem⟩ := oneOf?_eq_some_iff.mp hsign
      split at hoffset
      · next hrange =>
          obtain ⟨hrest, hhour, hminute⟩ := hrange
          have hseconds := Offset.ofSeconds?_eq_some_iff.mp hoffset
          simp only at hrest
          rw [hrest, List.append_nil]
          split at hseconds
          · next hplus =>
              obtain rfl : sign = '+' := hplus
              exact .ahead hhs hms hhour hminute hseconds
          · next hplus =>
              have hminus : sign = '-' ∨ sign = '\u2212' := by
                simpa [signs, hplus] using hmem
              exact .behind hminus hhs hms hhour hminute hseconds
      · cases hoffset
  · intro h
    cases h with
    | utc hz ho =>
        have hutc := Offset.ofSeconds?_eq_some_iff.mpr ho
        rcases hz with rfl | rfl <;> exact hutc
    | ahead hhour hminute hh hm ho =>
        rw [offset?_signed (by decide) hhour hminute hh hm, if_pos rfl]
        exact Offset.ofSeconds?_eq_some_iff.mpr ho
    | behind hsign hhour hminute hh hm ho =>
        have hminus {c : Char} (hc : c = '-' ∨ c = '\u2212') : c ∈ signs ∧ c ≠ '+' := by
          rcases hc with rfl | rfl <;> decide
        rw [offset?_signed (hminus hsign).1 hhour hminute hh hm, if_neg (hminus hsign).2]
        exact Offset.ofSeconds?_eq_some_iff.mpr ho

theorem IsDateText.year_bounds {cs : List Char} {d : Date} (h : IsDateText cs d) :
    0 ≤ d.year ∧ d.year < 10000 := by
  obtain ⟨⟨hnumeral, hlength⟩, hy, -, -⟩ := h
  have hlt := hnumeral.lt
  rw [hlength] at hlt
  omega

theorem IsText.year_bounds {cs : List Char} {wall : DateTime} {own : Offset}
    (h : IsText cs wall own) : 0 ≤ wall.date.year ∧ wall.date.year < 10000 := by
  obtain ⟨hdate, -, -, -⟩ := h
  exact hdate.year_bounds

/-- The years of such a timestamp have four digits, so that it always is an instant. -/
theorem exists_read?_iff {cs : List Char} {wall : DateTime} {own : Offset} :
    (∃ i, read? cs = some i ∧ i.wall = wall ∧ i.offset = own) ↔ IsText cs wall own := by
  constructor
  · rintro ⟨i, h, rfl, rfl⟩
    simp only [read?, Option.bind_eq_bind, Option.bind_eq_some_iff] at h
    obtain ⟨⟨d, _⟩, hd, ⟨mark, _⟩, hmark, ⟨t, _⟩, ht, o, hoffset, hwall⟩ := h
    obtain ⟨hw, rfl⟩ := Instant.ofWall?_eq_some_iff.mp hwall
    obtain ⟨rfl, hmem⟩ := oneOf?_eq_some_iff.mp hmark
    obtain ⟨time, htime, rfl⟩ := reads_time?.split ht
    obtain ⟨date, hdate, rfl⟩ := reads_date?.split hd
    rw [hw]
    exact .intro hdate hmem htime (offset?_eq_some_iff.mp hoffset)
  · rintro ⟨hdate, hmark, htime, hoffset⟩
    have hbounds := hdate.year_bounds
    have hfirst : firstYear < wall.date.year := Int.lt_of_lt_of_le (by decide) hbounds.1
    have hlast : wall.date.year < lastYear := Int.lt_of_lt_of_le hbounds.2 (by decide)
    obtain ⟨i, hi, hw, ho⟩ := Instant.exists_ofWall? wall hfirst hlast own
    refine ⟨i, ?_, hw, ho⟩
    rw [read?, reads_date?.append hdate fun _ _ => rfl]
    have hread := reads_time?.append htime hoffset.head
    simp only [Option.bind_eq_bind, Option.bind_some, oneOf?, if_pos hmark, hread,
      offset?_eq_some_iff.mpr hoffset, hi]

end Timestamp

end TripQuery
