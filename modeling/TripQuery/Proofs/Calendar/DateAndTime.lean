import Mathlib.Data.List.TakeWhile
import TripQuery.Proofs.Calendar.Pattern
import TripQuery.Proofs.Calendar.Spelling
import TripQuery.Proofs.Calendar.Trial
import TripQuery.Proofs.Text.Trimming

namespace TripQuery

/-!
# A date and a time of day in one text

A date and a time of day with a `T` between them are read as the two of them. Such a text is no
timestamp with an offset, and nothing that starts with a year is a time of day.
-/

/-- A number that is not cut short is all the digits in front. -/
theorem eq_of_number? {most n : Nat} {cs rest : List Char} (h : number? most cs = some (n, rest))
    (hrest : ∀ c ∈ rest.head?, c.isDigit = false) :
    n = Nat.ofDigitChars 10 (cs.takeWhile Char.isDigit) 0 ∧ rest = cs.dropWhile Char.isDigit := by
  obtain ⟨ds, ⟨hds, -⟩, rfl⟩ := (reads_number? most).split h
  have hnone : ds.dropWhile Char.isDigit = [] := List.dropWhile_eq_nil_iff.mpr hds.isDigit
  rw [takeWhile_append_of_head hrest, dropWhile_append_of_head hrest,
    List.takeWhile_eq_self_iff.mpr hds.isDigit, hnone, hds.value]
  exact ⟨rfl, rfl⟩

theorem number?_of_head {most : Nat} {cs : List Char} (h : ∀ c ∈ cs.head?, c.isDigit = false) :
    number? most cs = none := by
  have hds : (cs.take most).takeWhile Char.isDigit = [] := by
    cases cs with
    | nil => simp
    | cons c cs =>
        have hc : c.isDigit = false := h c rfl
        cases most <;> simp [hc]
  simp [number?, hds]

/-- A year and a short number in front of one text are the same, unless one of them is cut short. -/
theorem eq_of_year?_of_shortNumber? {cs ys ns : List Char} {y : Int} {n : Nat}
    (hy : year? cs = some (y, ys)) (hn : shortNumber? cs = some (n, ns))
    (hys : ∀ c ∈ ys.head?, c.isDigit = false) (hns : ∀ c ∈ ns.head?, c.isDigit = false) :
    y = n ∧ ys = ns := by
  obtain ⟨hvalue, hrest⟩ := eq_of_number? hn hns
  unfold year? at hy
  split at hy
  · next hsign =>
      rw [shortNumber?, hsign, number?_of_head (by simp)] at hn
      cases hn
  · next hsign =>
      rw [shortNumber?, hsign, number?_of_head (by simp)] at hn
      cases hn
  · obtain ⟨⟨m, r⟩, hm, heq⟩ := Option.map_eq_some_iff.mp hy
    cases heq
    obtain ⟨hvalue', hrest'⟩ := eq_of_number? hm hys
    rw [hvalue, hvalue', hrest, hrest']
    exact ⟨rfl, rfl⟩

theorem Pattern.exists_read_of_readFrom {f g : Fields} {cs : List Char} {i : Item} {c : Char}
    {p : Pattern} (h : readFrom f cs (i :: .literal c :: p) = some g) :
    ∃ f' rest, i.read f cs = some (f', c :: rest) := by
  obtain ⟨⟨f', rest⟩, hi, hrest⟩ := Option.bind_eq_some_iff.mp h
  obtain ⟨rest, rfl⟩ := exists_cons_of_readFrom_literal hrest
  exact ⟨f', rest, hi⟩

namespace Item

variable {f g : Fields} {cs rest : List Char}

theorem exists_year?_of_read (h : Item.year.read f cs = some (g, rest)) :
    ∃ y, year? cs = some (y, rest) := by
  obtain ⟨⟨y, r⟩, hy, heq⟩ := Option.map_eq_some_iff.mp h
  cases heq
  exact ⟨y, hy⟩

theorem exists_shortNumber?_of_read {i : Item} (hi : i = .hour ∨ i = .halfDayHour)
    (h : i.read f cs = some (g, rest)) : ∃ n, shortNumber? cs = some (n, rest) := by
  rcases hi with rfl | rfl
  · obtain ⟨⟨n, r⟩, hn, heq⟩ := Option.map_eq_some_iff.mp h
    cases heq
    exact ⟨n, hn⟩
  · obtain ⟨⟨n, r⟩, hn, heq⟩ := Option.map_eq_some_iff.mp h
    obtain ⟨⟨m, s⟩, hm, hrange⟩ := Option.bind_eq_some_iff.mp hn
    cases heq
    simp only at hrange
    split at hrange
    · cases hrange
      exact ⟨m, hm⟩
    · cases hrange

end Item

/-- Every time of day starts with an hour and a colon. -/
theorem TimeOfDay.exists_shortNumber?_of_fit? {cs : List Char} {p : Pattern} {t : TimeOfDay}
    (hp : p ∈ patterns) (h : fit? cs p = some t) :
    ∃ n rest, shortNumber? cs = some (n, ':' :: rest) := by
  obtain ⟨f, hf, -⟩ := Option.bind_eq_some_iff.mp h
  have hstart : ∃ i items, p = i :: .literal ':' :: items ∧ (i = .hour ∨ i = .halfDayHour) := by
    simp only [patterns, List.mem_cons, List.not_mem_nil, or_false] at hp
    rcases hp with rfl | rfl | rfl | rfl
    · exact ⟨.hour, _, rfl, Or.inl rfl⟩
    · exact ⟨.hour, _, rfl, Or.inl rfl⟩
    · exact ⟨.halfDayHour, _, rfl, Or.inr rfl⟩
    · exact ⟨.halfDayHour, _, rfl, Or.inr rfl⟩
  obtain ⟨i, items, rfl, hi⟩ := hstart
  obtain ⟨f', rest, hread⟩ := Pattern.exists_read_of_readFrom hf
  obtain ⟨n, hn⟩ := Item.exists_shortNumber?_of_read hi hread
  exact ⟨n, rest, hn⟩

/-- Every date and time of day starts with a year and a dash. -/
theorem DateTime.exists_year?_of_fit? {cs : List Char} {p : Pattern} {t : DateTime}
    (hp : p ∈ patterns) (h : fit? cs p = some t) :
    ∃ y rest, year? cs = some (y, '-' :: rest) := by
  obtain ⟨f, hf, -⟩ := Option.bind_eq_some_iff.mp h
  have hstart : ∃ items, p = .year :: .literal '-' :: items := by
    simp only [patterns, List.mem_cons, List.not_mem_nil, or_false] at hp
    rcases hp with rfl | rfl
    · exact ⟨_, rfl⟩
    · exact ⟨_, rfl⟩
  obtain ⟨items, rfl⟩ := hstart
  obtain ⟨f', rest, hread⟩ := Pattern.exists_read_of_readFrom hf
  obtain ⟨y, hy⟩ := Item.exists_year?_of_read hread
  exact ⟨y, rest, hy⟩

/-- A text that starts with a year and a dash is no time of day. -/
theorem TimeOfDay.read_of_year? {s : String} {y : Int} {rest : List Char}
    (h : year? (trim s.toList) = some (y, '-' :: rest)) :
    read s = .error ⟨.unrecognizedTime, trimmed s⟩ := by
  have hnone : patterns.findSome? (fit? (trim s.toList)) = none := by
    rw [List.findSome?_eq_none_iff]
    intro p hp
    rw [Option.eq_none_iff_forall_ne_some]
    intro t ht
    obtain ⟨n, behind, hn⟩ := exists_shortNumber?_of_fit? hp ht
    obtain ⟨-, hmark⟩ := eq_of_year?_of_shortNumber? h hn (by simp) (by simp)
    cases hmark
  rw [read, hnone, found_none]

namespace DateTime

/-- A date and a time of day are read as written, each by its own pattern. -/
theorem fit?_join {d t : List Char} {date : Date} {p : Pattern}
    (hd : Date.fit? d Date.yearFirst = some date) (hp : ∀ i ∈ p, i.setsDate = false) :
    fit? (d ++ 'T' :: t) (Date.yearFirst ++ .literal 'T' :: p) =
      (TimeOfDay.fit? t p).map fun time => ⟨date, time⟩ := by
  obtain ⟨f, hf, hdate⟩ := Option.bind_eq_some_iff.mp hd
  have hparts : Parts ('T' :: t) := by
    intro c hc
    cases hc
    decide
  have hdateOnly : ({} : Fields).withDate f = f :=
    Pattern.withDate_of_readFrom (by decide) hf
  have hread : Pattern.read (Date.yearFirst ++ .literal 'T' :: p) (d ++ 'T' :: t) =
      (Pattern.read p t).map (·.withDate f) := by
    rw [Pattern.read, Pattern.readFrom_append hf hparts, Pattern.readFrom_literal_self,
      ← hdateOnly, Pattern.readFrom_withDate hp, hdateOnly]
    rfl
  rw [fit?, hread, TimeOfDay.fit?]
  cases Pattern.read p t with
  | none => rfl
  | some g =>
      simp only [Option.map_some, Option.bind_some, Fields.dateTime?, Fields.date?_withDate,
        Fields.time?_withDate, hdate]
      cases g.time? <;> rfl

end DateTime

/-! A timestamp keeps the widths of its fields, so the patterns read it as far as its offset. -/

namespace Timestamp

theorem digits_of_fixed? {width n : Nat} {cs rest : List Char}
    (h : fixed? width cs = some (n, rest)) :
    (cs.take width).length = width ∧ (∀ c ∈ cs.take width, c.isDigit = true) ∧
      n = Nat.ofDigitChars 10 (cs.take width) 0 ∧ rest = cs.drop width := by
  unfold fixed? at h
  simp only [List.all_eq_true] at h
  split at h
  · next hds =>
      cases h
      exact ⟨hds.1, hds.2, rfl, rfl⟩
  · cases h

theorem number?_of_fixed? {width n : Nat} (hwidth : 0 < width) {cs rest : List Char}
    (h : fixed? width cs = some (n, rest)) : number? width cs = some (n, rest) := by
  obtain ⟨hlength, hdigits, rfl, rfl⟩ := digits_of_fixed? h
  have hds : (cs.take width).takeWhile Char.isDigit = cs.take width :=
    List.takeWhile_eq_self_iff.mpr hdigits
  have hne : cs.take width ≠ [] := by
    intro hnil
    rw [hnil, List.length_nil] at hlength
    omega
  simp only [number?, hds, if_neg hne, hlength]

theorem exists_digit_of_fixed? {width n : Nat} (hwidth : 0 < width) {cs rest : List Char}
    (h : fixed? width cs = some (n, rest)) : ∃ c ds, cs = c :: ds ∧ c.isDigit = true := by
  obtain ⟨-, hdigits, -⟩ := digits_of_fixed? h
  obtain ⟨k, rfl⟩ := Nat.exists_eq_succ_of_ne_zero (Nat.ne_of_gt hwidth)
  cases cs with
  | nil => simp [fixed?] at h
  | cons c ds => exact ⟨c, ds, rfl, hdigits c (by simp)⟩

theorem shortNumber?_of_fixed? {n : Nat} {cs rest : List Char}
    (h : fixed? 2 cs = some (n, rest)) : shortNumber? cs = some (n, rest) := by
  obtain ⟨c, ds, rfl, hc⟩ := exists_digit_of_fixed? (by decide) h
  rw [shortNumber?, trimStart_cons, if_neg (by simp [isBlank_eq_false_of_isDigit hc])]
  exact number?_of_fixed? (by decide) h

theorem year?_of_fixed? {n : Nat} {cs rest : List Char} (h : fixed? 4 cs = some (n, rest)) :
    year? cs = some ((n : Int), rest) := by
  obtain ⟨c, ds, rfl, hc⟩ := exists_digit_of_fixed? (by decide) h
  rw [year?, trimStart_cons, if_neg (by simp [isBlank_eq_false_of_isDigit hc])]
  split
  · next heq =>
      cases heq
      cases hc
  · next heq =>
      cases heq
      cases hc
  · rw [number?_of_fixed? (by decide) h]
    rfl

variable {cs rest : List Char}

theorem exists_readFrom_of_date? {date : Date} (h : date? cs = some (date, rest)) (f : Fields) :
    ∃ g, ∀ items,
      Pattern.readFrom f cs (Date.yearFirst ++ items) = Pattern.readFrom g rest items := by
  simp only [date?, Option.bind_eq_bind, Option.bind_eq_some_iff] at h
  obtain ⟨⟨y, _⟩, hy, _, hfirst, ⟨m, _⟩, hm, _, hsecond, ⟨d, _⟩, hd, _, -, heq⟩ := h
  cases heq
  cases expect?_eq_some_iff.mp hfirst
  cases expect?_eq_some_iff.mp hsecond
  refine ⟨{ f with year := y, month := m, day := d }, fun items => ?_⟩
  simp only [Date.yearFirst, List.cons_append, List.nil_append, Pattern.readFrom_cons (i := .year),
    Pattern.readFrom_cons (i := .month), Pattern.readFrom_cons (i := .day), Item.read,
    year?_of_fixed? hy, shortNumber?_of_fixed? hm, shortNumber?_of_fixed? hd, Option.map_some,
    Option.bind_some, Pattern.readFrom_literal_self]

theorem exists_readFrom_of_time? {time : TimeOfDay} (h : time? cs = some (time, rest))
    (f : Fields) : ∃ g behind e,
      (∀ items,
        Pattern.readFrom f cs (TimeOfDay.toTheMinute ++ items) =
          Pattern.readFrom g (':' :: behind) items) ∧
      ∀ items,
        Pattern.readFrom g (':' :: behind) (.literal ':' :: .second :: .fraction :: items) =
          Pattern.readFrom e rest items := by
  simp only [time?, Option.bind_eq_bind, Option.bind_eq_some_iff] at h
  obtain ⟨⟨h, _⟩, hh, _, hfirst, ⟨m, _⟩, hm, behind, hsecond, ⟨s, _⟩, hs, ⟨n, _⟩, hn, _, -,
    heq⟩ := h
  cases heq
  cases expect?_eq_some_iff.mp hfirst
  cases expect?_eq_some_iff.mp hsecond
  refine ⟨{ f with hour := h, minute := m }, behind,
    { f with hour := h, minute := m, second := s, nanos := n }, fun items => ?_, fun items => ?_⟩
  · simp only [TimeOfDay.toTheMinute, List.cons_append, List.nil_append,
      Pattern.readFrom_cons (i := .hour), Pattern.readFrom_cons (i := .minute), Item.read,
      shortNumber?_of_fixed? hh, shortNumber?_of_fixed? hm, Option.map_some, Option.bind_some,
      Pattern.readFrom_literal_self]
  · simp only [Pattern.readFrom_cons (i := .second), Pattern.readFrom_cons (i := .fraction),
      Item.read, shortNumber?_of_fixed? hs, hn, Option.map_some, Option.bind_some,
      Pattern.readFrom_literal_self]

theorem offset?_nil : offset? [] = none := by simp [offset?, oneOf?]

/-- A timestamp with an offset is no date and time of day without one. -/
theorem fit?_eq_none_of_read? {i : Instant} (h : read? cs = some i) :
    ∀ p ∈ DateTime.patterns, DateTime.fit? cs p = none := by
  simp only [read?, Option.bind_eq_bind, Option.bind_eq_some_iff] at h
  obtain ⟨⟨date, _⟩, hdate, ⟨mark, behind⟩, hmark, ⟨time, last⟩, htime, offset, hoffset, -⟩ := h
  obtain ⟨rfl, -⟩ := oneOf?_eq_some_iff.mp hmark
  have hlast : last ≠ [] := by
    rintro rfl
    rw [offset?_nil] at hoffset
    cases hoffset
  obtain ⟨f, hf⟩ := exists_readFrom_of_date? hdate {}
  obtain ⟨g, more, e, hg, he⟩ := exists_readFrom_of_time? htime f
  -- What is left behind the minute is the second, and behind the second it is the offset.
  have hminute : Pattern.readFrom f behind TimeOfDay.toTheMinute = none := hg []
  have hfraction : Pattern.readFrom f behind (TimeOfDay.toTheSecond ++ [.fraction]) = none := by
    calc
      _ = Pattern.readFrom g (':' :: more) [.literal ':', .second, .fraction] := hg _
      _ = Pattern.readFrom e last [] := he []
      _ = none := if_neg hlast
  have hnone (p : Pattern) (hp : Pattern.readFrom f behind p = none) :
      DateTime.fit? cs (Date.yearFirst ++ .literal 'T' :: p) = none := by
    rw [DateTime.fit?, Pattern.read, hf]
    by_cases hT : 'T' = mark
    · rw [← hT, Pattern.readFrom_literal_self, hp, Option.bind_none]
    · rw [Pattern.readFrom_literal_of_ne hT, Option.bind_none]
  intro p hp
  simp only [DateTime.patterns, List.mem_cons, List.not_mem_nil, or_false] at hp
  rcases hp with rfl | rfl
  · exact hnone _ hfraction
  · exact hnone _ hminute

end Timestamp

namespace TimeOfDay

variable {cs : List Char} {t : TimeOfDay}

theorem fit?_fraction (h : fit? cs toTheSecond = some t) :
    fit? cs (toTheSecond ++ [.fraction]) = some t := by
  obtain ⟨f, hf, ht⟩ := Option.bind_eq_some_iff.mp h
  have hnanos : f.nanos = 0 := Pattern.nanos_of_readFrom (by decide) hf
  have hmore := Pattern.readFrom_append hf parts_nil [.fraction]
  rw [List.append_nil] at hmore
  have hself : Pattern.readFrom f [] [.fraction] = some f := by
    have hnothing : Pattern.readFrom f [] [.fraction] = some { f with nanos := 0 } := rfl
    rw [hnothing, ← hnanos]
  rw [fit?, Pattern.read, hmore, hself]
  exact ht

/-- Behind the minute no second is left to read. -/
theorem fit?_of_toTheMinute (h : fit? cs toTheMinute = some t) (items : Pattern) :
    fit? cs (toTheMinute ++ .literal ':' :: items) = none := by
  obtain ⟨f, hf, -⟩ := Option.bind_eq_some_iff.mp h
  rw [fit?, Pattern.read_append_literal hf ':' items, Option.bind_none]

/-- The text is a time of day of the whole day, with or without a second. -/
def IsClock (cs : List Char) (t : TimeOfDay) : Prop :=
  fit? cs toTheSecond = some t ∨ fit? cs toTheMinute = some t

theorem IsClock.read {s : String} (h : IsClock s.toList t) (hs : IsTrimmed s.toList) :
    read s = .ok t := by
  have hfind : patterns.findSome? (fit? s.toList) = some t := by
    rw [patterns]
    rcases h with hsecond | hminute
    · rw [List.findSome?_cons, hsecond]
    · have hnone : fit? s.toList toTheSecond = none := fit?_of_toTheMinute hminute [.second]
      rw [List.findSome?_cons, hnone, List.findSome?_cons, hminute]
  rw [TimeOfDay.read, hs.trim_eq, hfind, found_some]

theorem IsClock.ne_nil (h : IsClock cs t) : cs ≠ [] := by
  rintro rfl
  rcases h with h | h <;> cases h

end TimeOfDay

namespace Date

variable {cs : List Char} {d : Date}

theorem exists_mark : ∀ p ∈ patterns, ∃ mark : Char, mark.isDigit = false ∧ .literal mark ∈ p := by
  intro p hp
  simp only [patterns, List.mem_cons, List.not_mem_nil, or_false] at hp
  rcases hp with rfl | rfl | rfl
  · exact ⟨'-', rfl, by decide⟩
  · exact ⟨'/', rfl, by decide⟩
  · exact ⟨'-', rfl, by decide⟩

/-- Digits alone fit no pattern, because every pattern has a mark. -/
theorem read_eq_none_of_isDigit (h : ∀ c ∈ cs, c.isDigit = true) :
    ∀ p ∈ patterns, p.read cs = none := by
  intro p hp
  obtain ⟨mark, hmark, hmem⟩ := exists_mark p hp
  refine Pattern.read_eq_none_of_notMem hmem fun hcs => ?_
  rw [h mark hcs] at hmark
  cases hmark

theorem fit?_eq_none_of_isCompact (h : isCompact cs = true) : ∀ p ∈ patterns, fit? cs p = none := by
  intro p hp
  have hdigits := List.all_eq_true.mp (Bool.and_eq_true_iff.mp h).2
  rw [fit?, read_eq_none_of_isDigit hdigits p hp, Option.bind_none]

/-- A text that fits a pattern is none of eight digits. -/
theorem readIn_of_findSome? {ps : List Pattern} (hps : ps.Perm patterns) {s : String}
    (h : ps.findSome? (fit? (trim s.toList)) = some d) : readIn ps s = .ok d := by
  have hcompact : isCompact (trim s.toList) = false := by
    apply eq_false_of_ne_true
    intro hcompact
    obtain ⟨p, hp, hfit⟩ := List.exists_of_findSome?_eq_some h
    rw [fit?_eq_none_of_isCompact hcompact p (hps.mem_iff.mp hp)] at hfit
    cases hfit
  simp only [readIn, hcompact, h]
  rfl

theorem read_of_findSome? {s : String} (h : patterns.findSome? (fit? (trim s.toList)) = some d) :
    read s = .ok d :=
  readIn_of_findSome? (.refl patterns) h

theorem read_of_yearFirst {s : String} (h : fit? (trim s.toList) yearFirst = some d) :
    read s = .ok d := by
  apply read_of_findSome?
  rw [patterns, List.findSome?_cons, h]

end Date

namespace Instant

/-- A date and time of day without an offset is placed in the given one. -/
theorem read_of_findSome? {s : String} {wall : DateTime}
    (h : DateTime.patterns.findSome? (DateTime.fit? (trim s.toList)) = some wall)
    (offset : Offset) : read offset s = place wall offset (trimmed s) := by
  have hnone : ofTimestamp? offset (trim s.toList) = none := by
    obtain ⟨p, hp, hfit⟩ := List.exists_of_findSome?_eq_some h
    rw [ofTimestamp?, Option.bind_eq_none_iff]
    intro i hi
    rw [Timestamp.fit?_eq_none_of_read? hi p hp] at hfit
    cases hfit
  rw [read, hnone, h]
  rfl

/-- A date and a time of day, each a text of its own without blanks around it. -/
structure IsWritten (wall : DateTime) (d t : String) : Prop where
  date : Date.fit? d.toList Date.yearFirst = some wall.date
  clock : TimeOfDay.IsClock t.toList wall.time
  dateTrimmed : IsTrimmed d.toList
  clockTrimmed : IsTrimmed t.toList

namespace IsWritten

variable {wall : DateTime} {d t : String}

theorem combine (h : IsWritten wall d t) (now : Instant) :
    combine (some d) (some t) now = place wall now.offset (trimmed (d ++ " " ++ t)) := by
  have hdate : Date.fit? (trim d.toList) Date.yearFirst = some wall.date := by
    rw [h.dateTrimmed.trim_eq, h.date]
  rw [Instant.combine, readPart, readPart, Date.read_of_yearFirst hdate,
    h.clock.read h.clockTrimmed]
  rfl

theorem toList_join (d t : String) : (d ++ "T" ++ t).toList = d.toList ++ 'T' :: t.toList := by
  simp

theorem date_ne_nil (h : IsWritten wall d t) : d.toList ≠ [] := by
  intro hnil
  have hdate := h.date
  rw [hnil] at hdate
  cases hdate

theorem isTrimmed_join (h : IsWritten wall d t) : IsTrimmed (d ++ "T" ++ t).toList := by
  rw [toList_join]
  exact isTrimmed_append ['T'] h.date_ne_nil h.clock.ne_nil h.dateTrimmed.1 h.clockTrimmed.2

theorem trim_join (h : IsWritten wall d t) :
    trim (d ++ "T" ++ t).toList = d.toList ++ 'T' :: t.toList := by
  rw [h.isTrimmed_join.trim_eq, toList_join]

/-- The seconds may be left out of the text, and then the pattern with seconds does not fit. -/
theorem findSome?_join (h : IsWritten wall d t) :
    DateTime.patterns.findSome? (DateTime.fit? (d.toList ++ 'T' :: t.toList)) = some wall := by
  have hfraction : DateTime.toTheFraction =
      Date.yearFirst ++ .literal 'T' :: (TimeOfDay.toTheSecond ++ [.fraction]) := rfl
  rw [DateTime.patterns, List.findSome?_cons, hfraction, DateTime.fit?_join h.date (by decide)]
  rcases h.clock with hclock | hclock
  · rw [TimeOfDay.fit?_fraction hclock, Option.map_some]
  · have hnone : TimeOfDay.fit? t.toList (TimeOfDay.toTheSecond ++ [.fraction]) = none :=
      TimeOfDay.fit?_of_toTheMinute hclock [.second, .fraction]
    rw [hnone, Option.map_none, List.findSome?_cons, DateTime.toTheMinute,
      DateTime.fit?_join h.date (by decide), hclock, Option.map_some]

theorem exists_fit?_join (h : IsWritten wall d t) :
    ∃ p ∈ DateTime.patterns, DateTime.fit? (d.toList ++ 'T' :: t.toList) p = some wall :=
  List.exists_of_findSome?_eq_some h.findSome?_join

theorem read (h : IsWritten wall d t) (offset : Offset) :
    read offset (d ++ "T" ++ t) = place wall offset (trimmed (d ++ "T" ++ t)) := by
  apply read_of_findSome?
  rw [h.trim_join]
  exact h.findSome?_join

/-- The joined text is no time of day, so that nothing else is made of it. -/
theorem combine_join (h : IsWritten wall d t) (now : Instant) :
    Instant.combine none (some (d ++ "T" ++ t)) now =
      .error ⟨.unrecognizedTime, trimmed (d ++ "T" ++ t)⟩ := by
  obtain ⟨p, hp, hfit⟩ := h.exists_fit?_join
  obtain ⟨y, rest, hy⟩ := DateTime.exists_year?_of_fit? hp hfit
  rw [← h.trim_join] at hy
  rw [Instant.combine, readPart, readPart, TimeOfDay.read_of_year? hy]
  rfl

end IsWritten

end Instant

end TripQuery
