import TripQuery.Proofs.Calendar.DateSpelling
import TripQuery.Proofs.Calendar.Trial

namespace TripQuery

/-!
# Dates with dashes

Two patterns read numbers with dashes between them, one with the year in the first place and one
with the month there. A text fits both when it is three numbers of one or two digits. It is then
two dates, unless the numbers are all the same, and the order in which the patterns are tried
decides between them. For no other text does the order matter.
-/

/-- A short number may be a year as well. -/
theorem AfterBlanks.year {cs : List Char} {n : Nat} (h : AfterBlanks (IsNumber 2) cs n) :
    AfterBlanks IsYear cs n := by
  obtain ⟨blanks, ds, hblanks, hds, rfl⟩ := h
  exact ⟨blanks, ds, hblanks, .unsigned ⟨hds.1, Nat.le_trans hds.2 (by decide)⟩, rfl⟩

/-- In front of the same text a year and a short number are the same. -/
theorem AfterBlanks.year_eq_number {ys ns rest rest' : List Char} {y : Int} {n : Nat}
    (hy : AfterBlanks IsYear ys y) (hn : AfterBlanks (IsNumber 2) ns n)
    (hrest : ∀ c ∈ rest.head?, c.isDigit = false) (hrest' : ∀ c ∈ rest'.head?, c.isDigit = false)
    (heq : ys ++ rest = ns ++ rest') : y = n ∧ rest = rest' := by
  have hyear := reads_year?.append hy hrest
  rw [heq] at hyear
  exact eq_of_year?_of_shortNumber? hyear (reads_shortNumber?.append hn hrest') hrest hrest'

namespace Date

/-- Three numbers with dashes between them. Each has one or two digits and may have blanks in
front of it. -/
inductive IsDashed : List Char → Nat → Nat → Nat → Prop
  | intro {as bs cs : List Char} {a b c : Nat} (ha : AfterBlanks (IsNumber 2) as a)
      (hb : AfterBlanks (IsNumber 2) bs b) (hc : AfterBlanks (IsNumber 2) cs c) :
      IsDashed (as ++ '-' :: (bs ++ '-' :: cs)) a b c

/-- The text is one date with the year in front, and another one with the month in front. -/
def HasTwoReadings (cs : List Char) : Prop :=
  ∃ a b c : Nat, IsDashed cs a b c ∧ IsDate a b c ∧ IsDate c a b ∧ ¬ (a = b ∧ b = c)

variable {cs : List Char} {d e : Date} {p : Pattern} {a b c : Nat}

theorem exists_ofYmd?_iff {y : Int} : (∃ d, ofYmd? y b c = some d) ↔ IsDate y b c := by
  constructor
  · rintro ⟨d, hd⟩
    obtain ⟨rfl, rfl, rfl⟩ := ofYmd?_eq_some_iff.mp hd
    exact d.isDate
  · intro h
    exact ⟨⟨y, b, c, h⟩, ofYmd?_eq_some_iff.mpr ⟨rfl, rfl, rfl⟩⟩

theorem fit?_eq_some_iff (hp : p.IsSeparated) :
    fit? cs p = some d ↔
      ∃ f, Pattern.IsText {} cs f p ∧ d.year = f.year ∧ d.month = f.month ∧ d.day = f.day := by
  rw [fit?, Pattern.bind_read_eq_some_iff hp]
  simp only [Fields.date?, ofYmd?_eq_some_iff]

theorem isSeparated_yearFirst : Pattern.IsSeparated yearFirst :=
  Pattern.isSeparated_mark rfl <| Pattern.isSeparated_mark rfl <| Pattern.isSeparated_singleton _

theorem isSeparated_monthFirst : Pattern.IsSeparated monthFirst :=
  Pattern.isSeparated_mark rfl <| Pattern.isSeparated_mark rfl <| Pattern.isSeparated_singleton _

theorem fit?_yearFirst_iff :
    fit? cs yearFirst = some d ↔
      ∃ ys ms ds, cs = ys ++ '-' :: (ms ++ '-' :: ds) ∧ AfterBlanks IsYear ys d.year ∧
        AfterBlanks (IsNumber 2) ms d.month ∧ AfterBlanks (IsNumber 2) ds d.day := by
  rw [fit?_eq_some_iff isSeparated_yearFirst]
  constructor
  · rintro ⟨f, htext, hyear, hmonth, hday⟩
    obtain ⟨ys, ms, ds, _, _, rfl, ⟨y, hys, rfl⟩, ⟨m, hms, rfl⟩, n, hds, rfl⟩ :=
      Pattern.isText_marks_iff.mp htext
    rw [hyear, hmonth, hday]
    exact ⟨ys, ms, ds, rfl, hys, hms, hds⟩
  · rintro ⟨ys, ms, ds, rfl, hys, hms, hds⟩
    refine ⟨{ year := d.year, month := d.month, day := d.day }, ?_, rfl, rfl, rfl⟩
    apply Pattern.isText_marks_iff.mpr
    exact ⟨ys, ms, ds, _, _, rfl, ⟨d.year, hys, rfl⟩, ⟨d.month, hms, rfl⟩, ⟨d.day, hds, rfl⟩⟩

theorem fit?_monthFirst_iff :
    fit? cs monthFirst = some d ↔
      ∃ ms ds ys, cs = ms ++ '-' :: (ds ++ '-' :: ys) ∧ AfterBlanks (IsNumber 2) ms d.month ∧
        AfterBlanks (IsNumber 2) ds d.day ∧ AfterBlanks IsYear ys d.year := by
  rw [fit?_eq_some_iff isSeparated_monthFirst]
  constructor
  · rintro ⟨f, htext, hyear, hmonth, hday⟩
    obtain ⟨ms, ds, ys, _, _, rfl, ⟨m, hms, rfl⟩, ⟨n, hds, rfl⟩, y, hys, rfl⟩ :=
      Pattern.isText_marks_iff.mp htext
    rw [hyear, hmonth, hday]
    exact ⟨ms, ds, ys, rfl, hms, hds, hys⟩
  · rintro ⟨ms, ds, ys, rfl, hms, hds, hys⟩
    refine ⟨{ year := d.year, month := d.month, day := d.day }, ?_, rfl, rfl, rfl⟩
    apply Pattern.isText_marks_iff.mpr
    exact ⟨ms, ds, ys, _, _, rfl, ⟨d.month, hms, rfl⟩, ⟨d.day, hds, rfl⟩, ⟨d.year, hys, rfl⟩⟩

/-- What fits both patterns is three short numbers, of which the year is the first or the last. -/
theorem fit?_both_iff :
    fit? cs yearFirst = some d ∧ fit? cs monthFirst = some e ↔
      ∃ a b c : Nat, IsDashed cs a b c ∧ ofYmd? a b c = some d ∧ ofYmd? c a b = some e := by
  constructor
  · rintro ⟨hd, he⟩
    obtain ⟨ys, ms, ds, rfl, hys, hms, hds⟩ := fit?_yearFirst_iff.mp hd
    obtain ⟨ms', ds', ys', htext, hms', hds', hys'⟩ := fit?_monthFirst_iff.mp he
    have hdash (back : List Char) : ∀ c ∈ ('-' :: back).head?, c.isDigit = false := by
      rintro c ⟨⟩
      rfl
    have hnil : ∀ c ∈ ([] : List Char).head?, c.isDigit = false := by
      rintro c ⟨⟩
    -- Place by place the two patterns read the same number off the same text.
    obtain ⟨hfirst, hback⟩ := hys.year_eq_number hms' (hdash _) (hdash _) htext
    obtain ⟨-, hback⟩ := List.cons.inj hback
    obtain ⟨hsecond, hback⟩ := reads_shortNumber?.unique hms hds' (hdash _) (hdash _) hback
    obtain ⟨-, rfl⟩ := List.cons.inj hback
    obtain ⟨hthird, -⟩ := hys'.year_eq_number hds hnil hnil rfl
    refine ⟨e.month, e.day, d.day, ?_, ofYmd?_eq_some_iff.mpr ⟨hfirst, hsecond, rfl⟩,
      ofYmd?_eq_some_iff.mpr ⟨hthird, rfl, rfl⟩⟩
    rw [htext]
    exact .intro hms' hds' hds
  · rintro ⟨a, b, c, ⟨ha, hb, hc⟩, hd, he⟩
    obtain ⟨hya, hmb, hdc⟩ := ofYmd?_eq_some_iff.mp hd
    obtain ⟨hyc, hma, hdb⟩ := ofYmd?_eq_some_iff.mp he
    refine ⟨fit?_yearFirst_iff.mpr ⟨_, _, _, rfl, ?_, ?_, ?_⟩,
      fit?_monthFirst_iff.mpr ⟨_, _, _, rfl, ?_, ?_, ?_⟩⟩
    · rw [hya]
      exact ha.year
    · rwa [hmb]
    · rwa [hdc]
    · rwa [hma]
    · rwa [hdb]
    · rw [hyc]
      exact hc.year

theorem eq_iff_of_ofYmd? (hd : ofYmd? (a : Int) b c = some d) (he : ofYmd? (c : Int) a b = some e) :
    d = e ↔ a = b ∧ b = c := by
  obtain ⟨hya, hmb, hdc⟩ := ofYmd?_eq_some_iff.mp hd
  obtain ⟨hyc, hma, hdb⟩ := ofYmd?_eq_some_iff.mp he
  constructor
  · rintro rfl
    omega
  · rintro ⟨rfl, rfl⟩
    exact Date.ext (hya.trans hyc.symm) (hmb.trans hma.symm) (hdc.trans hdb.symm)

theorem HasTwoReadings.exists_dates (h : HasTwoReadings cs) :
    ∃ d e, fit? cs yearFirst = some d ∧ fit? cs monthFirst = some e ∧ d ≠ e := by
  obtain ⟨a, b, c, hdashed, hd, he, hne⟩ := h
  obtain ⟨d, hd⟩ := exists_ofYmd?_iff.mpr hd
  obtain ⟨e, he⟩ := exists_ofYmd?_iff.mpr he
  obtain ⟨hyear, hmonth⟩ := fit?_both_iff.mpr ⟨a, b, c, hdashed, hd, he⟩
  exact ⟨d, e, hyear, hmonth, fun hde => hne ((eq_iff_of_ofYmd? hd he).mp hde)⟩

theorem eq_iff_not_hasTwoReadings (hd : fit? cs yearFirst = some d)
    (he : fit? cs monthFirst = some e) : d = e ↔ ¬ HasTwoReadings cs := by
  constructor
  · intro hde htwo
    obtain ⟨d', e', hd', he', hne⟩ := htwo.exists_dates
    rw [hd, Option.some.injEq] at hd'
    rw [he, Option.some.injEq] at he'
    exact hne (hd'.symm.trans (hde.trans he'))
  · intro hone
    obtain ⟨a, b, c, hdashed, hd', he'⟩ := fit?_both_iff.mp ⟨hd, he⟩
    apply (eq_iff_of_ofYmd? hd' he').mpr
    by_contra hne
    exact hone ⟨a, b, c, hdashed, exists_ofYmd?_iff.mp ⟨d, hd'⟩, exists_ofYmd?_iff.mp ⟨e, he'⟩, hne⟩

/-- No date with dashes has a slash in it. -/
theorem fit?_slashed_eq_none (hp : p = yearFirst ∨ p = monthFirst) (h : fit? cs p = some d) :
    fit? cs slashed = none := by
  have hitems : ∀ i ∈ p, ¬ i.Allows '/' := by
    rcases hp with rfl | rfl <;> simp [yearFirst, monthFirst, Item.Allows, Item.Starts, isBlank]
  have hslash : '/' ∉ cs := by
    obtain ⟨f, hread, -⟩ := Option.bind_eq_some_iff.mp h
    exact (Pattern.isText_of_readFrom hread).notMem hitems
  have hread : slashed.read cs = none := Pattern.read_eq_none_of_notMem (by decide) hslash
  rw [fit?, hread, Option.bind_none]

theorem agree_fit?_iff : Agree (fit? cs) patterns ↔ ¬ HasTwoReadings cs := by
  constructor
  · intro h htwo
    obtain ⟨d, e, hd, he, hne⟩ := htwo.exists_dates
    exact hne (h yearFirst (by decide) monthFirst (by decide) d e hd he)
  · intro hone
    apply agree_of_findSome? (r := patterns.findSome? (fit? cs))
    intro p hp d hfit
    simp only [patterns, List.mem_cons, List.not_mem_nil, or_false] at hp
    rcases hp with rfl | rfl | rfl
    · rw [patterns, List.findSome?_cons, hfit]
    · have hyear : fit? cs yearFirst = none := by
        rw [Option.eq_none_iff_forall_ne_some]
        intro e he
        rw [fit?_slashed_eq_none (Or.inl rfl) he] at hfit
        cases hfit
      rw [patterns, List.findSome?_cons, hyear, List.findSome?_cons, hfit]
    · have hslash := fit?_slashed_eq_none (Or.inr rfl) hfit
      rw [patterns, List.findSome?_cons]
      cases hyear : fit? cs yearFirst with
      | none => rw [List.findSome?_cons, hslash, List.findSome?_cons, hfit]
      | some e => rw [(eq_iff_not_hasTwoReadings hyear hfit).mpr hone]

/-- Any order of trial reads the same exactly when the text has one reading at most. -/
theorem readIn_perm_iff (s : String) :
    (∀ ps : List Pattern, ps.Perm patterns → readIn ps s = read s) ↔
      ¬ HasTwoReadings (trim s.toList) := by
  rw [← agree_fit?_iff, agree_iff_findSome?_perm]
  refine forall₂_congr fun ps hps => ?_
  rw [← readIn_patterns, readIn, readIn]
  by_cases hcompact : isCompact (trim s.toList) = true
  · -- Eight digits are read without any pattern, and no pattern fits them either.
    have hnone {qs : List Pattern} (hqs : qs.Perm patterns) :
        qs.findSome? (fit? (trim s.toList)) = none := by
      apply List.findSome?_eq_none_iff.mpr
      intro p hp
      exact fit?_eq_none_of_isCompact hcompact p (hqs.mem_iff.mp hp)
    simp only [hcompact, if_true, hnone hps, hnone (.refl patterns)]
  · simp only [hcompact, Bool.false_eq_true, if_false, found_inj]

/-- A text fits both patterns with dashes exactly when it is three short numbers that name a date
from the left and one with the last number as its year. These are the same date only if all three
numbers are the same. Otherwise the year is read in front, and would be read behind if that were
tried first. For every other text it does not matter what is tried first. -/
theorem dashed_date_readings (s : String) :
    (∀ d e, fit? (trim s.toList) yearFirst = some d ∧ fit? (trim s.toList) monthFirst = some e ↔
      ∃ a b c : Nat, IsDashed (trim s.toList) a b c ∧ ofYmd? a b c = some d ∧
        ofYmd? c a b = some e) ∧
    (∀ d e, fit? (trim s.toList) yearFirst = some d → fit? (trim s.toList) monthFirst = some e →
      (d = e ↔ ¬ HasTwoReadings (trim s.toList)) ∧ read s = .ok d ∧
        readIn [monthFirst, slashed, yearFirst] s = .ok e) ∧
    ((∀ ps : List Pattern, ps.Perm patterns → readIn ps s = read s) ↔
      ¬ HasTwoReadings (trim s.toList)) := by
  refine ⟨fun d e => fit?_both_iff, fun d e hd he => ⟨?_, ?_, ?_⟩, readIn_perm_iff s⟩
  · exact eq_iff_not_hasTwoReadings hd he
  · exact read_of_yearFirst hd
  · have hps : List.Perm [monthFirst, slashed, yearFirst] patterns := by decide
    apply readIn_of_findSome? hps
    rw [List.findSome?_cons, he]

theorem dashed_date_readings_of_three_numbers :
    ∃ d e : Date, fit? (trim " 12-11-10 ".toList) yearFirst = some d ∧
      fit? (trim " 12-11-10 ".toList) monthFirst = some e ∧ ¬ (d = e) ∧
      read " 12-11-10 " = .ok d ∧
      readIn [monthFirst, slashed, yearFirst] " 12-11-10 " = .ok e := by
  have hd : fit? (trim " 12-11-10 ".toList) yearFirst = some ⟨12, 11, 10, by decide⟩ := by
    decide +kernel
  have he : fit? (trim " 12-11-10 ".toList) monthFirst = some ⟨10, 12, 11, by decide⟩ := by
    decide +kernel
  have hread := ((dashed_date_readings " 12-11-10 ").2.1 _ _ hd he).2
  exact ⟨_, _, hd, he, by decide, hread⟩

/-- The second of January in the year 3 is taken for the third of February in the year 1. -/
theorem dashed_date_of_two_meanings :
    ∃ d e : Date, fit? (trim "1-2-3".toList) yearFirst = some d ∧
      fit? (trim "1-2-3".toList) monthFirst = some e ∧ ¬ (d = e) ∧
      [monthFirst, slashed, yearFirst].Perm patterns ∧
      ¬ (readIn [monthFirst, slashed, yearFirst] "1-2-3" = read "1-2-3") :=
  ⟨⟨1, 2, 3, by decide⟩, ⟨3, 1, 2, by decide⟩, by decide +kernel, by decide +kernel, by decide,
    by decide, by decide +kernel⟩

end Date

end TripQuery
