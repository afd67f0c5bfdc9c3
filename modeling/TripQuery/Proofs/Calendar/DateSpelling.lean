import TripQuery.Proofs.Calendar.DateAndTime
import TripQuery.Proofs.Calendar.Digits
import TripQuery.Proofs.Calendar.Neighbours
import TripQuery.Proofs.Text.Respelling

namespace TripQuery

/-!
# The spellings of a date

The patterns of a date are tried in order, and still each spelling is read as its own date. Marks
keep most of them apart. Between the two patterns with dashes it is the four digits of the year,
of which a day in their place would leave two unread.
-/

section Numerals

variable {cs : List Char} {n : Nat}

theorem IsNumeral.isBlank_eq_false (h : IsNumeral cs n) : ∀ c ∈ cs, isBlank c = false :=
  fun c hc => isBlank_eq_false_of_isDigit (h.isDigit c hc)

theorem IsNumeral.ne_mark (h : IsNumeral cs n) {mark : Char} (hmark : mark.isDigit = false) :
    ∀ c ∈ cs, c ≠ mark := by
  rintro c hc rfl
  rw [h.isDigit c hc] at hmark
  cases hmark

theorem IsYear.isBlank_eq_false {y : Int} (h : IsYear cs y) : ∀ c ∈ cs, isBlank c = false := by
  cases h with
  | unsigned h => exact h.1.isBlank_eq_false
  | positive h => exact List.forall_mem_cons.mpr ⟨rfl, h.isBlank_eq_false⟩
  | negative h => exact List.forall_mem_cons.mpr ⟨rfl, h.isBlank_eq_false⟩

theorem AfterBlanks.self {α : Type} {IsText : List Char → α → Prop} {a : α} (h : IsText cs a) :
    AfterBlanks IsText cs a :=
  ⟨[], cs, rfl, h, rfl⟩

theorem isNumeral_padded (width n : Nat) : IsNumeral (padded width n) n :=
  ⟨padded_ne_nil width n, fun _ => isDigit_of_mem_padded, ofDigitChars_padded width n⟩

theorem isNumber_padded {width most : Nat} (hwidth : width ≤ most) (hmost : 0 < most)
    (h : n < 10 ^ most) : IsNumber most (padded width n) n := by
  refine ⟨isNumeral_padded width n, ?_⟩
  have hdigits : (Nat.toDigits 10 n).length ≤ most :=
    (Nat.length_toDigits_le_iff (by decide) hmost).mpr h
  rw [padded_eq, List.length_append, List.length_replicate]
  omega

end Numerals

namespace Date

/-- The year has four digits and no sign. -/
def HasPlainYear (d : Date) : Prop := 0 ≤ d.year ∧ d.year ≤ 9999

/-- A number with or without a zero in front. -/
def IsShortForm (n : Nat) (cs : List Char) : Prop := cs = padded 1 n ∨ cs = padded 2 n

/-- The spellings of a date: the form in which it is shown and, for a plain year, the forms with
dashes or slashes and the one in eight digits. -/
inductive IsSpelling (d : Date) : List Char → Prop
  | display : IsSpelling d d.chars
  | yearFirst (hyear : d.HasPlainYear) {m n : List Char} (hm : IsShortForm d.month m)
      (hn : IsShortForm d.day n) :
      IsSpelling d (padded 4 d.year.natAbs ++ '-' :: (m ++ '-' :: n))
  | slashed (hyear : d.HasPlainYear) {m n : List Char} (hm : IsShortForm d.month m)
      (hn : IsShortForm d.day n) :
      IsSpelling d (m ++ '/' :: (n ++ '/' :: padded 4 d.year.natAbs))
  | monthFirst (hyear : d.HasPlainYear) {m n : List Char} (hm : IsShortForm d.month m)
      (hn : IsShortForm d.day n) :
      IsSpelling d (m ++ '-' :: (n ++ '-' :: padded 4 d.year.natAbs))
  | compact (hyear : d.HasPlainYear) :
      IsSpelling d (padded 4 d.year.natAbs ++ (padded 2 d.month ++ padded 2 d.day))

variable {d : Date}

theorem chars_eq (d : Date) :
    d.chars = yearText d.year ++ '-' :: (padded 2 d.month ++ '-' :: padded 2 d.day) := by
  simp only [chars, List.append_assoc, List.cons_append]

/-! The texts of the year, the month and the day are what the items of a pattern look for. -/

theorem HasPlainYear.isNumber (h : d.HasPlainYear) :
    IsNumber 4 (padded 4 d.year.natAbs) d.year.natAbs := by
  obtain ⟨hlow, hhigh⟩ := h
  exact isNumber_padded (by decide) (by decide) (by omega)

theorem HasPlainYear.length_padded (h : d.HasPlainYear) :
    (padded 4 d.year.natAbs).length = 4 := by
  obtain ⟨hlow, hhigh⟩ := h
  exact TripQuery.length_padded (by decide) (by omega)

theorem HasPlainYear.natAbs_eq (h : d.HasPlainYear) : ((d.year.natAbs : Nat) : Int) = d.year :=
  Int.natAbs_of_nonneg h.1

theorem HasPlainYear.isYear (h : d.HasPlainYear) : IsYear (padded 4 d.year.natAbs) d.year := by
  have hyear : IsYear (padded 4 d.year.natAbs) (d.year.natAbs : Nat) := .unsigned h.isNumber
  rwa [h.natAbs_eq] at hyear

theorem isYear_yearText (d : Date) : IsYear (yearText d.year) d.year := by
  unfold yearText
  split
  · next hplain => exact HasPlainYear.isYear hplain
  · split
    · next hneg =>
        have hyear : IsYear ('-' :: padded 4 d.year.natAbs) (-(d.year.natAbs : Nat)) :=
          .negative (isNumeral_padded 4 _)
        have hvalue : -((d.year.natAbs : Nat) : Int) = d.year := by omega
        rwa [hvalue] at hyear
    · next hneg =>
        have hyear : IsYear ('+' :: padded 4 d.year.natAbs) (d.year.natAbs : Nat) :=
          .positive (isNumeral_padded 4 _)
        have hvalue : ((d.year.natAbs : Nat) : Int) = d.year := by omega
        rwa [hvalue] at hyear

theorem month_lt (d : Date) : d.month < 10 ^ 2 := by
  have hmonth := d.one_le_month
  omega

theorem day_lt (d : Date) : d.day < 10 ^ 2 := by
  have hday := d.day_le
  have hlength := monthLength_le d.year d.month
  omega

theorem IsShortForm.isNumber {k : Nat} {cs : List Char} (h : IsShortForm k cs)
    (hk : k < 10 ^ 2) : IsNumber 2 cs k := by
  rcases h with rfl | rfl <;> exact isNumber_padded (by decide) (by decide) hk

section Marked

variable {y m n : List Char} {mark : Char} {year : Int} {month day : Nat}

theorem forall_marked_iff {p : Char → Prop} :
    (∀ c ∈ m ++ mark :: (n ++ mark :: y), p c) ↔
      p mark ∧ (∀ c ∈ m, p c) ∧ (∀ c ∈ n, p c) ∧ ∀ c ∈ y, p c := by
  simp only [List.forall_mem_append, List.forall_mem_cons]
  tauto

theorem fit?_of_read {p : Pattern} {cs : List Char}
    (h : p.read cs = some { year := d.year, month := d.month, day := d.day }) :
    fit? cs p = some d := by
  rw [fit?, h, Option.bind_some]
  exact ofYmd?_fields d

theorem read_yearFirst (hy : IsYear y year) (hm : IsNumber 2 m month) :
    yearFirst.read (y ++ '-' :: (m ++ '-' :: n)) =
      Pattern.readFrom { year, month } n [.day] := by
  have hyear : Item.IsText {} y { year } .year := ⟨year, .self hy, rfl⟩
  have hmonth : Item.IsText { year } m { year, month } .month := ⟨month, .self hm, rfl⟩
  rw [Pattern.read, yearFirst, Pattern.readFrom_mark hyear rfl, Pattern.readFrom_mark hmonth rfl]

theorem fit?_yearFirst (hy : IsYear y d.year) (hm : IsNumber 2 m d.month)
    (hn : IsNumber 2 n d.day) : fit? (y ++ '-' :: (m ++ '-' :: n)) yearFirst = some d := by
  apply fit?_of_read
  rw [read_yearFirst hy hm]
  exact Pattern.readFrom_singleton ⟨d.day, .self hn, rfl⟩

/-- Both patterns with the year in the last place are of this form. -/
theorem fit?_yearLast (hmark : mark.isDigit = false) (hm : IsNumber 2 m d.month)
    (hn : IsNumber 2 n d.day) (hy : IsYear y d.year) :
    fit? (m ++ mark :: (n ++ mark :: y)) [.month, .literal mark, .day, .literal mark, .year] =
      some d := by
  have hmonth : Item.IsText {} m { month := d.month } .month := ⟨d.month, .self hm, rfl⟩
  have hday : Item.IsText { month := d.month } n { month := d.month, day := d.day } .day :=
    ⟨d.day, .self hn, rfl⟩
  apply fit?_of_read
  rw [Pattern.read, Pattern.readFrom_mark hmonth hmark, Pattern.readFrom_mark hday hmark]
  exact Pattern.readFrom_singleton ⟨d.year, .self hy, rfl⟩

/-- Numbers with other marks between them do not fit. -/
theorem fit?_eq_none_of_mark {p : Pattern} {other : Char} {k : Nat} (hp : .literal other ∈ p)
    (hother : other.isDigit = false) (hne : mark ≠ other) (hm : IsNumeral m month)
    (hn : IsNumeral n day) (hy : IsNumeral y k) :
    fit? (m ++ mark :: (n ++ mark :: y)) p = none := by
  have hmarks : ∀ c ∈ m ++ mark :: (n ++ mark :: y), c ≠ other :=
    forall_marked_iff.mpr ⟨hne, hm.ne_mark hother, hn.ne_mark hother, hy.ne_mark hother⟩
  have hread : p.read (m ++ mark :: (n ++ mark :: y)) = none :=
    Pattern.read_eq_none_of_notMem hp fun hmem => hmarks other hmem rfl
  rw [fit?, hread, Option.bind_none]

/-- A day takes no more than two digits. -/
theorem readFrom_day_eq_none {f : Fields} {k : Nat} (hy : IsNumeral y k) (hlong : 2 < y.length) :
    Pattern.readFrom f y [.day] = none := by
  rw [Option.eq_none_iff_forall_ne_some]
  intro g hread
  obtain ⟨front, back, f', rfl, ⟨j, ⟨blanks, ds, hblanks, hds, rfl⟩, -⟩, rfl, -⟩ :=
    (Pattern.readFrom_eq_some_iff (Pattern.isSeparated_singleton _)).mp hread
  have hnil : blanks = [] := by
    cases blanks with
    | nil => rfl
    | cons b blanks =>
        have hdigit : isBlank b = false := hy.isBlank_eq_false b (by simp)
        rw [List.all_cons, hdigit] at hblanks
        cases hblanks
  rw [hnil, List.nil_append, List.append_nil] at hlong
  exact absurd hds.2 (by omega)

/-- With the month in the first place and a year of more than two digits in the last, the year does
not come first. -/
theorem fit?_yearFirst_eq_none {k : Nat} (hm : IsNumber 2 m month) (hn : IsNumber 2 n day)
    (hy : IsNumeral y k) (hlong : 2 < y.length) :
    fit? (m ++ '-' :: (n ++ '-' :: y)) yearFirst = none := by
  have hfour : IsYear m month := .unsigned ⟨hm.1, Nat.le_trans hm.2 (by decide)⟩
  rw [fit?, read_yearFirst hfour hn, readFrom_day_eq_none hy hlong, Option.bind_none]

/-- The value of eight digits is that of the first four, the next two and the last two. -/
theorem ofCompact?_append {year : Nat} (hy : IsNumeral y year) (hm : IsNumeral m month)
    (hn : IsNumeral n day) (hm2 : m.length = 2) (hn2 : n.length = 2) :
    ofCompact? (y ++ (m ++ n)) = ofYmd? year month day := by
  have hvalue : Nat.ofDigitChars 10 (y ++ (m ++ n)) 0 = (year * 100 + month) * 100 + day := by
    rw [Nat.ofDigitChars_append, Nat.ofDigitChars_append, hy.value,
      Nat.ofDigitChars_eq_ofDigitChars_zero, Nat.ofDigitChars_eq_ofDigitChars_zero (l := m),
      hm.value, hn.value, hm2, hn2]
    omega
  have hmonth : month < 100 := by simpa [hm2] using hm.lt
  have hday : day < 100 := by simpa [hn2] using hn.lt
  simp only [ofCompact?, hvalue]
  congr 1 <;> omega

/-- Eight digits are read as a year of four digits, a month of two and a day of two. -/
theorem read_of_compact {year : Nat} {s : String} (hs : trim s.toList = y ++ (m ++ n))
    (hy : IsNumeral y year) (hm : IsNumeral m month) (hn : IsNumeral n day) (hy4 : y.length = 4)
    (hm2 : m.length = 2) (hn2 : n.length = 2) :
    read s = found .noSuchDate (trimmed s) (ofYmd? year month day) := by
  have hdigits : ∀ c ∈ y ++ (m ++ n), c.isDigit = true :=
    List.forall_mem_append.mpr ⟨hy.isDigit, List.forall_mem_append.mpr ⟨hm.isDigit, hn.isDigit⟩⟩
  have hcompact : isCompact (y ++ (m ++ n)) = true := by
    have hlength : (y ++ (m ++ n)).length = 8 := by simp [hy4, hm2, hn2]
    rw [isCompact, hlength, List.all_eq_true.mpr hdigits]
    rfl
  simp only [read, hs, hcompact, if_true, ofCompact?_append hy hm hn hm2 hn2]

end Marked

namespace IsSpelling

variable {cs : List Char}

theorem isBlank_eq_false (h : IsSpelling d cs) : ∀ c ∈ cs, isBlank c = false := by
  have hpadded (width k : Nat) : ∀ c ∈ padded width k, isBlank c = false :=
    (isNumeral_padded width k).isBlank_eq_false
  have hshort {k : Nat} {l : List Char} (hl : IsShortForm k l) : ∀ c ∈ l, isBlank c = false := by
    rcases hl with rfl | rfl <;> exact hpadded _ k
  cases h with
  | display =>
      rw [chars_eq]
      exact forall_marked_iff.mpr
        ⟨rfl, (isYear_yearText d).isBlank_eq_false, hpadded 2 _, hpadded 2 _⟩
  | yearFirst _ hm hn => exact forall_marked_iff.mpr ⟨rfl, hpadded 4 _, hshort hm, hshort hn⟩
  | slashed _ hm hn => exact forall_marked_iff.mpr ⟨rfl, hshort hm, hshort hn, hpadded 4 _⟩
  | monthFirst _ hm hn => exact forall_marked_iff.mpr ⟨rfl, hshort hm, hshort hn, hpadded 4 _⟩
  | compact =>
      exact List.forall_mem_append.mpr
        ⟨hpadded 4 _, List.forall_mem_append.mpr ⟨hpadded 2 _, hpadded 2 _⟩⟩

theorem read {s : String} (h : IsSpelling d cs) (hs : trim s.toList = cs) :
    Date.read s = .ok d := by
  cases h with
  | display =>
      apply read_of_yearFirst
      rw [hs, chars_eq]
      have hmonth : IsShortForm d.month (padded 2 d.month) := .inr rfl
      have hday : IsShortForm d.day (padded 2 d.day) := .inr rfl
      exact fit?_yearFirst (isYear_yearText d) (hmonth.isNumber d.month_lt)
        (hday.isNumber d.day_lt)
  | yearFirst hyear hm hn =>
      apply read_of_yearFirst
      rw [hs]
      exact fit?_yearFirst hyear.isYear (hm.isNumber d.month_lt) (hn.isNumber d.day_lt)
  | slashed hyear hm hn =>
      have hmonth := hm.isNumber d.month_lt
      have hday := hn.isNumber d.day_lt
      have hdash : Item.literal '-' ∈ Date.yearFirst := by decide
      have hfirst : fit? (_ ++ '/' :: (_ ++ '/' :: _)) Date.yearFirst = none :=
        fit?_eq_none_of_mark hdash rfl (by decide) hmonth.1 hday.1 hyear.isNumber.1
      apply read_of_findSome?
      rw [hs, patterns, List.findSome?_cons, hfirst, List.findSome?_cons, Date.slashed,
        fit?_yearLast rfl hmonth hday hyear.isYear]
  | monthFirst hyear hm hn =>
      have hmonth := hm.isNumber d.month_lt
      have hday := hn.isNumber d.day_lt
      have hfirst := fit?_yearFirst_eq_none hmonth hday hyear.isNumber.1
        (by rw [hyear.length_padded]; decide)
      have hslash : Item.literal '/' ∈ Date.slashed := by decide
      have hsecond : fit? (_ ++ '-' :: (_ ++ '-' :: _)) Date.slashed = none :=
        fit?_eq_none_of_mark hslash rfl (by decide) hmonth.1 hday.1 hyear.isNumber.1
      apply read_of_findSome?
      rw [hs, patterns, List.findSome?_cons, hfirst, List.findSome?_cons, hsecond,
        List.findSome?_cons, Date.monthFirst, fit?_yearLast rfl hmonth hday hyear.isYear]
  | compact hyear =>
      have hmonth : (padded 2 d.month).length = 2 := length_padded (by decide) d.month_lt
      have hday : (padded 2 d.day).length = 2 := length_padded (by decide) d.day_lt
      rw [read_of_compact hs hyear.isNumber.1 (isNumeral_padded 2 _) (isNumeral_padded 2 _)
        hyear.length_padded hmonth hday, hyear.natAbs_eq, ofYmd?_fields, found_some]

end IsSpelling

/-- Eight digits are those of a year, a month and a day. -/
theorem exists_eight_digits {cs : List Char} (hlength : cs.length = 8)
    (hdigits : ∀ c ∈ cs, c.isDigit = true) :
    ∃ y m n year month day, cs = y ++ (m ++ n) ∧ y.length = 4 ∧ m.length = 2 ∧ n.length = 2 ∧
      IsNumeral y year ∧ IsNumeral m month ∧ IsNumeral n day := by
  have hnumeral {ds : List Char} (hpos : 0 < ds.length) (hds : ds ⊆ cs) :
      IsNumeral ds (Nat.ofDigitChars 10 ds 0) :=
    ⟨List.ne_nil_of_length_pos hpos, fun c hc => hdigits c (hds hc), rfl⟩
  have hy : (cs.take 4).length = 4 := by simp [hlength]
  have hm : ((cs.drop 4).take 2).length = 2 := by simp [hlength]
  have hn : ((cs.drop 4).drop 2).length = 2 := by simp [hlength]
  have hsplit : cs = cs.take 4 ++ ((cs.drop 4).take 2 ++ (cs.drop 4).drop 2) := by
    rw [List.take_append_drop, List.take_append_drop]
  have hback : cs.drop 4 ⊆ cs := List.drop_subset 4 cs
  refine ⟨_, _, _, _, _, _, hsplit, hy, hm, hn, hnumeral (by omega) (List.take_subset 4 cs),
    hnumeral (by omega) ?_, hnumeral (by omega) ?_⟩
  · exact List.Subset.trans (List.take_subset 2 _) hback
  · exact List.Subset.trans (List.drop_subset 2 _) hback

/-- A date is read off each of its spellings, with any blanks around it. Eight digits fit no
pattern: they are a year of four digits, a month of two and a day of two. -/
theorem read_every_spelling :
    (∀ (d : Date) (cs before after : List Char) (s : String), IsSpelling d cs →
      before.all isBlank = true → after.all isBlank = true →
        s.toList = before ++ (cs ++ after) → read s = .ok d) ∧
    ∀ s : String, (trim s.toList).length = 8 → (∀ c ∈ trim s.toList, c.isDigit = true) →
      (∀ p ∈ patterns, p.read (trim s.toList) = none) ∧
      ∃ y m n year month day, trim s.toList = y ++ (m ++ n) ∧ y.length = 4 ∧ m.length = 2 ∧
        n.length = 2 ∧ IsNumeral y year ∧ IsNumeral m month ∧ IsNumeral n day ∧
        read s = found .noSuchDate (trimmed s) (ofYmd? year month day) := by
  refine ⟨fun d cs before after s h hbefore hafter hs => ?_, fun s hlength hdigits => ?_⟩
  · apply h.read
    rw [hs, trim_blank_append hbefore, trim_append_blank hafter,
      (isTrimmed_of_forall h.isBlank_eq_false).trim_eq]
  · obtain ⟨y, m, n, year, month, day, hs, hy4, hm2, hn2, hy, hm, hn⟩ :=
      exists_eight_digits hlength hdigits
    exact ⟨read_eq_none_of_isDigit hdigits, y, m, n, year, month, day, hs, hy4, hm2, hn2, hy, hm,
      hn, read_of_compact hs hy hm hn hy4 hm2 hn2⟩

/-- A leap day of the year four with the month first and no zero in front of it, and eight digits
that name no day. -/
theorem read_every_spelling_of_leap_day :
    ∃ d : Date, d.year = 4 ∧ d.month = 2 ∧ d.day = 29 ∧ read "\u3000 2-29-0004\n" = .ok d ∧
      (∀ p ∈ patterns, p.read "20230229".toList = none) ∧
      read "20230229" = .error ⟨.noSuchDate, "20230229"⟩ := by
  let d : Date := ⟨4, 2, 29, by decide⟩
  have hyear : d.HasPlainYear := ⟨by decide, by decide⟩
  have hspelling := IsSpelling.monthFirst hyear (.inl rfl) (.inl rfl)
  have height := read_every_spelling.2 "20230229" rfl (List.all_eq_true.mp rfl)
  refine ⟨d, rfl, rfl, rfl, ?_, height.1, by decide +kernel⟩
  exact read_every_spelling.1 d _ ['\u3000', ' '] ['\n'] _ hspelling (by decide) (by decide)
    (by decide)

end Date

end TripQuery
