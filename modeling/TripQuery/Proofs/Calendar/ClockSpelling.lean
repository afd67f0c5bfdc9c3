import TripQuery.Proofs.Calendar.DateAndTime
import TripQuery.Proofs.Calendar.Trial
import TripQuery.Proofs.Text.UpperCase

namespace TripQuery

/-!
# The spellings of a time of day

A time of day is spelt with the hour of the day, the minute and perhaps the second, or with the
hour of a half day, the minute and the half. Four patterns read these spellings and nothing else.
Where two of them fit one text they find the same time, so that any of them may be tried first.
-/

section Halves

variable {c d : Char} {cs : List Char} {n : Nat}

theorem isAlpha_of_toLower (h : c.toLower = d) (hd : d.isLower = true) : c.isAlpha = true := by
  rw [← Char.isLower_toLower_eq_isAlpha, h, hd]

theorem isDigit_eq_false_of_isAlpha (h : c.isAlpha = true) : c.isDigit = false := by
  simp only [Char.isAlpha, Char.isUpper, Char.isLower, Bool.or_eq_true, Bool.and_eq_true,
    decide_eq_true_eq] at h
  have hcode : 65 ≤ c.toNat ∧ c.toNat ≤ 90 ∨ 97 ≤ c.toNat ∧ c.toNat ≤ 122 := h
  simp only [Char.isDigit, Bool.and_eq_false_iff, decide_eq_false_iff_not]
  right
  intro hhigh
  have hhigh : c.toNat ≤ 57 := hhigh
  omega

theorem isDigit_eq_false_of_isBlank (h : isBlank c = true) : c.isDigit = false := by
  apply eq_false_of_ne_true
  intro hdigit
  rw [isBlank_eq_false_of_isDigit hdigit] at h
  cases h

/-- A half of the day is a word. -/
theorem IsMeridiem.isAlpha (h : IsMeridiem cs n) : ∀ c ∈ cs, c.isAlpha = true := by
  cases h with
  | am ha hm =>
      simp only [List.forall_mem_cons]
      exact ⟨isAlpha_of_toLower ha rfl, isAlpha_of_toLower hm rfl, by simp⟩
  | pm hp hm =>
      simp only [List.forall_mem_cons]
      exact ⟨isAlpha_of_toLower hp rfl, isAlpha_of_toLower hm rfl, by simp⟩

theorem IsMeridiem.le (h : IsMeridiem cs n) : n ≤ 12 := by
  cases h <;> decide

theorem IsMeridiem.exists_mem (h : IsMeridiem cs n) : ∃ c ∈ cs, c.isAlpha = true := by
  have hne : cs ≠ [] := by cases h <;> exact List.cons_ne_nil _ _
  obtain ⟨c, rest, rfl⟩ := List.exists_cons_of_ne_nil hne
  exact ⟨c, List.mem_cons_self, h.isAlpha c List.mem_cons_self⟩

end Halves

namespace TimeOfDay

/-- The time of day at an hour, a minute and a second. The sixtieth second is the leap second of
the one before it. -/
def IsAt (t : TimeOfDay) (hour minute second : Nat) : Prop :=
  t.second = 3600 * hour + 60 * minute + min second 59 ∧
    t.nanos = if second = 60 then nanosPerSecond else 0

/-- The spellings of a time of day, with the hour, the minute and the second that they say. Each
number has one or two digits and may have blanks in front of it. -/
inductive IsClockText : List Char → Nat → Nat → Nat → Prop
  | withSecond {hs ms ss : List Char} {hour minute second : Nat}
      (hhour : AfterBlanks (IsNumber 2) hs hour) (hminute : AfterBlanks (IsNumber 2) ms minute)
      (hsecond : AfterBlanks (IsNumber 2) ss second) (hh : hour ≤ 23) (hm : minute ≤ 59)
      (hlast : second ≤ 60) : IsClockText (hs ++ ':' :: (ms ++ ':' :: ss)) hour minute second
  | withMinute {hs ms : List Char} {hour minute : Nat}
      (hhour : AfterBlanks (IsNumber 2) hs hour) (hminute : AfterBlanks (IsNumber 2) ms minute)
      (hh : hour ≤ 23) (hm : minute ≤ 59) : IsClockText (hs ++ ':' :: ms) hour minute 0
  | withHalf {hs ms blanks half : List Char} {hour minute start : Nat}
      (hhour : AfterBlanks (IsNumber 2) hs hour) (hminute : AfterBlanks (IsNumber 2) ms minute)
      (hblanks : blanks.all isBlank = true) (hhalf : IsMeridiem half start) (hlow : 1 ≤ hour)
      (hhigh : hour ≤ 12) (hm : minute ≤ 59) :
      IsClockText (hs ++ ':' :: (ms ++ (blanks ++ half))) (hour % 12 + start) minute 0

variable {cs : List Char} {p : Pattern} {t : TimeOfDay} {hour minute second : Nat}

theorem ofClock?_of_le (hh : hour ≤ 23) (hm : minute ≤ 59) (hs : second ≤ 60) :
    ofClock? hour minute second 0 =
      ofSeconds? (3600 * hour + 60 * minute + min second 59)
        (if second = 60 then nanosPerSecond else 0) := by
  have hface : hour < 24 ∧ minute < 60 ∧ 0 < nanosPerSecond := ⟨by omega, by omega, by decide⟩
  rw [ofClock?, if_pos hface]
  by_cases hleap : second = 60
  · rw [hleap, if_neg (by decide), if_pos rfl, if_pos rfl]
    rfl
  · rw [if_pos (by omega), if_neg hleap, Nat.min_eq_left (by omega)]

theorem le_of_ofClock? {nanos : Nat} (h : ofClock? hour minute second nanos = some t) :
    hour ≤ 23 ∧ minute ≤ 59 ∧ second ≤ 60 := by
  unfold ofClock? at h
  split at h
  · next hface =>
      split at h
      · omega
      · split at h
        · omega
        · cases h
  · cases h

theorem ofClock?_eq_some_iff_isAt :
    ofClock? hour minute second 0 = some t ↔
      hour ≤ 23 ∧ minute ≤ 59 ∧ second ≤ 60 ∧ t.IsAt hour minute second := by
  constructor
  · intro h
    obtain ⟨hh, hm, hs⟩ := le_of_ofClock? h
    rw [ofClock?_of_le hh hm hs, ofSeconds?_eq_some_iff] at h
    exact ⟨hh, hm, hs, h⟩
  · rintro ⟨hh, hm, hs, hat⟩
    rw [ofClock?_of_le hh hm hs, ofSeconds?_eq_some_iff]
    exact hat

theorem exists_isAt (hh : hour ≤ 23) (hm : minute ≤ 59) (hs : second ≤ 60) :
    ∃ t : TimeOfDay, t.IsAt hour minute second := by
  have hsecond : 3600 * hour + 60 * minute + min second 59 < secondsPerDay := by
    rw [secondsPerDay]
    omega
  have hnanos : (if second = 60 then nanosPerSecond else 0) < 2 * nanosPerSecond := by
    split <;> decide
  exact ⟨⟨_, _, hsecond, hnanos⟩, rfl, rfl⟩

/-- Neither a half of the day nor blanks in front of it could belong to the minute. -/
theorem isSeparated_half : Pattern.IsSeparated [.minute, .space, .meridiem] ∧
    Pattern.IsSeparated [.minute, .meridiem] := by
  have hletter {c : Char} (hc : Pattern.Starts c [.meridiem]) : c.isAlpha = true := by
    rcases hc with (ha | hp) | ⟨-, hc⟩
    · exact isAlpha_of_toLower ha rfl
    · exact isAlpha_of_toLower hp rfl
    · exact hc.elim
  have hspace : Pattern.IsSeparated [.space, .meridiem] :=
    ⟨fun c hc => isBlank_eq_false_of_isAlpha (hletter hc), Pattern.isSeparated_singleton _⟩
  refine ⟨⟨fun c hc => ?_, hspace⟩, fun c hc => ?_, Pattern.isSeparated_singleton _⟩
  · rcases hc with hblank | ⟨-, hc⟩
    · exact isDigit_eq_false_of_isBlank hblank
    · exact isDigit_eq_false_of_isAlpha (hletter hc)
  · exact isDigit_eq_false_of_isAlpha (hletter hc)

theorem isSeparated_patterns : ∀ p ∈ patterns, p.IsSeparated := by
  intro p hp
  simp only [patterns, List.mem_cons, List.not_mem_nil, or_false] at hp
  rcases hp with rfl | rfl | rfl | rfl
  · exact Pattern.isSeparated_mark rfl <| Pattern.isSeparated_mark rfl <|
      Pattern.isSeparated_singleton _
  · exact Pattern.isSeparated_mark rfl <| Pattern.isSeparated_singleton _
  · exact Pattern.isSeparated_mark rfl isSeparated_half.2
  · exact Pattern.isSeparated_mark rfl isSeparated_half.1

theorem fit?_eq_some_iff (hp : p ∈ patterns) :
    fit? cs p = some t ↔ ∃ f, Pattern.IsText {} cs f p ∧ f.time? = some t :=
  Pattern.bind_read_eq_some_iff (isSeparated_patterns p hp)

/-- No blanks are blanks as well. -/
theorem fit?_halfDaySpaced (h : fit? cs halfDay = some t) : fit? cs halfDaySpaced = some t := by
  obtain ⟨f, htext, ht⟩ := (fit?_eq_some_iff (by decide)).mp h
  apply (fit?_eq_some_iff (by decide)).mpr
  refine ⟨f, ?_, ht⟩
  rw [halfDay, Pattern.isText_mark_iff] at htext
  obtain ⟨hs, back, f', rfl, hhour, ms, half, g, rfl, hminute, hhalf⟩ := htext
  rw [halfDaySpaced, Pattern.isText_mark_iff]
  exact ⟨hs, _, f', rfl, hhour, ms, half, g, rfl, hminute, [], half, g, rfl, ⟨rfl, rfl⟩, hhalf⟩

theorem fit?_toTheSecond_iff :
    fit? cs toTheSecond = some t ↔
      ∃ hs ms ss hour minute second, cs = hs ++ ':' :: (ms ++ ':' :: ss) ∧
        AfterBlanks (IsNumber 2) hs hour ∧ AfterBlanks (IsNumber 2) ms minute ∧
          AfterBlanks (IsNumber 2) ss second ∧ ofClock? hour minute second 0 = some t := by
  rw [fit?_eq_some_iff (by decide)]
  constructor
  · rintro ⟨f, htext, ht⟩
    obtain ⟨hs, ms, ss, _, _, hcs, ⟨hour, hhour, rfl⟩, ⟨minute, hminute, rfl⟩, hlast⟩ :=
      Pattern.isText_marks_iff.mp htext
    obtain ⟨second, hsecond, rfl⟩ := hlast
    exact ⟨hs, ms, ss, hour, minute, second, hcs, hhour, hminute, hsecond, ht⟩
  · rintro ⟨hs, ms, ss, hour, minute, second, hcs, hhour, hminute, hsecond, ht⟩
    refine ⟨{ hour, minute, second }, Pattern.isText_marks_iff.mpr ?_, ht⟩
    exact ⟨hs, ms, ss, _, _, hcs, ⟨hour, hhour, rfl⟩, ⟨minute, hminute, rfl⟩, second, hsecond, rfl⟩

theorem fit?_toTheMinute_iff :
    fit? cs toTheMinute = some t ↔
      ∃ hs ms hour minute, cs = hs ++ ':' :: ms ∧ AfterBlanks (IsNumber 2) hs hour ∧
        AfterBlanks (IsNumber 2) ms minute ∧ ofClock? hour minute 0 0 = some t := by
  rw [fit?_eq_some_iff (by decide)]
  constructor
  · rintro ⟨f, htext, ht⟩
    obtain ⟨hs, ms, _, hcs, ⟨hour, hhour, rfl⟩, hlast⟩ := Pattern.isText_mark_iff.mp htext
    obtain ⟨minute, hminute, rfl⟩ := Pattern.isText_singleton_iff.mp hlast
    exact ⟨hs, ms, hour, minute, hcs, hhour, hminute, ht⟩
  · rintro ⟨hs, ms, hour, minute, hcs, hhour, hminute, ht⟩
    refine ⟨{ hour, minute }, Pattern.isText_mark_iff.mpr ?_, ht⟩
    refine ⟨hs, ms, _, hcs, ⟨hour, hhour, rfl⟩, ?_⟩
    exact Pattern.isText_singleton_iff.mpr ⟨minute, hminute, rfl⟩

theorem fit?_halfDaySpaced_iff :
    fit? cs halfDaySpaced = some t ↔
      ∃ hs ms blanks half hour minute start, cs = hs ++ ':' :: (ms ++ (blanks ++ half)) ∧
        AfterBlanks (IsNumber 2) hs hour ∧ 1 ≤ hour ∧ hour ≤ 12 ∧
          AfterBlanks (IsNumber 2) ms minute ∧ blanks.all isBlank = true ∧
            IsMeridiem half start ∧ ofClock? (hour % 12 + start) minute 0 0 = some t := by
  rw [fit?_eq_some_iff (by decide), halfDaySpaced]
  constructor
  · rintro ⟨f, htext, ht⟩
    obtain ⟨hs, _, _, rfl, ⟨_, ⟨hour, hhour, hlow, hhigh, rfl⟩, rfl⟩, htext⟩ :=
      Pattern.isText_mark_iff.mp htext
    obtain ⟨ms, _, _, rfl, ⟨minute, hminute, rfl⟩, blanks, half, _, rfl, ⟨hblanks, rfl⟩, hlast⟩ :=
      htext
    obtain ⟨start, hhalf, rfl⟩ := Pattern.isText_singleton_iff.mp hlast
    exact ⟨hs, ms, blanks, half, hour, minute, start, rfl, hhour, hlow, hhigh, hminute, hblanks,
      hhalf, ht⟩
  · rintro ⟨hs, ms, blanks, half, hour, minute, start, rfl, hhour, hlow, hhigh, hminute, hblanks,
      hhalf, ht⟩
    refine ⟨{ hour := hour % 12 + start, minute }, Pattern.isText_mark_iff.mpr ?_, ht⟩
    refine ⟨hs, _, { hour := hour % 12 }, rfl, ⟨_, ⟨hour, hhour, hlow, hhigh, rfl⟩, rfl⟩, ?_⟩
    refine ⟨ms, _, { hour := hour % 12, minute }, rfl, ⟨minute, hminute, rfl⟩, ?_⟩
    refine ⟨blanks, half, _, rfl, ⟨hblanks, rfl⟩, ?_⟩
    exact Pattern.isText_singleton_iff.mpr ⟨start, hhalf, rfl⟩

theorem isClockText_of_fit? (hp : p ∈ patterns) (h : fit? cs p = some t) :
    ∃ hour minute second, IsClockText cs hour minute second ∧ t.IsAt hour minute second := by
  have hspaced (h : fit? cs halfDaySpaced = some t) :
      ∃ hour minute second, IsClockText cs hour minute second ∧ t.IsAt hour minute second := by
    obtain ⟨hs, ms, blanks, half, hour, minute, start, rfl, hhour, hlow, hhigh, hminute, hblanks,
      hhalf, ht⟩ := fit?_halfDaySpaced_iff.mp h
    obtain ⟨-, hm, -, hat⟩ := ofClock?_eq_some_iff_isAt.mp ht
    exact ⟨_, minute, 0, .withHalf hhour hminute hblanks hhalf hlow hhigh hm, hat⟩
  simp only [patterns, List.mem_cons, List.not_mem_nil, or_false] at hp
  rcases hp with rfl | rfl | rfl | rfl
  · obtain ⟨hs, ms, ss, hour, minute, second, rfl, hhour, hminute, hsecond, ht⟩ :=
      fit?_toTheSecond_iff.mp h
    obtain ⟨hh, hm, hlast, hat⟩ := ofClock?_eq_some_iff_isAt.mp ht
    exact ⟨hour, minute, second, .withSecond hhour hminute hsecond hh hm hlast, hat⟩
  · obtain ⟨hs, ms, hour, minute, rfl, hhour, hminute, ht⟩ := fit?_toTheMinute_iff.mp h
    obtain ⟨hh, hm, -, hat⟩ := ofClock?_eq_some_iff_isAt.mp ht
    exact ⟨hour, minute, 0, .withMinute hhour hminute hh hm, hat⟩
  · exact hspaced (fit?_halfDaySpaced h)
  · exact hspaced h

theorem IsClockText.exists_fit? (h : IsClockText cs hour minute second) :
    ∃ p ∈ patterns, ∃ t, fit? cs p = some t ∧ t.IsAt hour minute second := by
  cases h with
  | withSecond hhour hminute hsecond hh hm hlast =>
      obtain ⟨t, hat⟩ := exists_isAt hh hm hlast
      have ht := ofClock?_eq_some_iff_isAt.mpr ⟨hh, hm, hlast, hat⟩
      refine ⟨toTheSecond, by decide, t, fit?_toTheSecond_iff.mpr ?_, hat⟩
      exact ⟨_, _, _, _, _, _, rfl, hhour, hminute, hsecond, ht⟩
  | withMinute hhour hminute hh hm =>
      obtain ⟨t, hat⟩ := exists_isAt hh hm (Nat.zero_le 60)
      have ht := ofClock?_eq_some_iff_isAt.mpr ⟨hh, hm, Nat.zero_le 60, hat⟩
      refine ⟨toTheMinute, by decide, t, fit?_toTheMinute_iff.mpr ?_, hat⟩
      exact ⟨_, _, _, _, rfl, hhour, hminute, ht⟩
  | @withHalf _ _ _ _ hour _ start hhour hminute hblanks hhalf hlow hhigh hm =>
      have hstart : start ≤ 12 := hhalf.le
      have hh : hour % 12 + start ≤ 23 := by omega
      obtain ⟨t, hat⟩ := exists_isAt hh hm (Nat.zero_le 60)
      have ht := ofClock?_eq_some_iff_isAt.mpr ⟨hh, hm, Nat.zero_le 60, hat⟩
      refine ⟨halfDaySpaced, by decide, t, fit?_halfDaySpaced_iff.mpr ?_, hat⟩
      exact ⟨_, _, _, _, _, _, _, rfl, hhour, hlow, hhigh, hminute, hblanks, hhalf, ht⟩

/-- No letter stands in the spelling of a time of the whole day. -/
theorem isAlpha_eq_false_of_wholeDay {f g : Fields} (hp : p = toTheSecond ∨ p = toTheMinute)
    (h : Pattern.IsText f cs g p) : ∀ c ∈ cs, c.isAlpha = false := by
  intro c hc
  apply eq_false_of_ne_true
  intro halpha
  have hnumber : ¬ (isBlank c = true ∨ c.isDigit = true) := by
    rw [isBlank_eq_false_of_isAlpha halpha, isDigit_eq_false_of_isAlpha halpha]
    simp
  have hmark : ¬ c = ':' := by
    rintro rfl
    cases halpha
  have hitems : ∀ i ∈ p, ¬ i.Allows c := by
    rcases hp with rfl | rfl
    · simp only [toTheSecond, List.forall_mem_cons]
      exact ⟨hnumber, hmark, hnumber, hmark, hnumber, by simp⟩
    · simp only [toTheMinute, List.forall_mem_cons]
      exact ⟨hnumber, hmark, hnumber, by simp⟩
  exact h.notMem hitems hc

theorem fit?_wholeDay_eq_none {u : TimeOfDay} (hp : p = toTheSecond ∨ p = toTheMinute)
    (h : fit? cs halfDaySpaced = some u) : fit? cs p = none := by
  rw [Option.eq_none_iff_forall_ne_some]
  intro t ht
  obtain ⟨f, hread, -⟩ := Option.bind_eq_some_iff.mp ht
  obtain ⟨g, hhalf, -⟩ := Option.bind_eq_some_iff.mp h
  have hmeridiem : ∀ f cs g, Item.meridiem.IsText f cs g → ∃ c ∈ cs, c.isAlpha = true := by
    rintro f cs g ⟨n, hn, -⟩
    exact hn.exists_mem
  obtain ⟨c, hc, halpha⟩ := (Pattern.isText_of_readFrom hhalf).exists_mem (by decide) hmeridiem
  rw [isAlpha_eq_false_of_wholeDay hp (Pattern.isText_of_readFrom hread) c hc] at halpha
  cases halpha

/-- Whatever fits a text is what is found first. -/
theorem findSome?_of_fit? (hp : p ∈ patterns) (h : fit? cs p = some t) :
    patterns.findSome? (fit? cs) = some t := by
  have hspaced (hhalf : fit? cs halfDaySpaced = some t) :
      patterns.findSome? (fit? cs) = (fit? cs halfDay).or (some t) := by
    have hsecond : fit? cs toTheSecond = none := fit?_wholeDay_eq_none (Or.inl rfl) hhalf
    have hminute : fit? cs toTheMinute = none := fit?_wholeDay_eq_none (Or.inr rfl) hhalf
    rw [patterns, List.findSome?_cons, hsecond, List.findSome?_cons, hminute, List.findSome?_cons,
      List.findSome?_cons, hhalf]
    cases fit? cs halfDay <;> rfl
  simp only [patterns, List.mem_cons, List.not_mem_nil, or_false] at hp
  rcases hp with rfl | rfl | rfl | rfl
  · rw [patterns, List.findSome?_cons, h]
  · have hsecond : fit? cs toTheSecond = none := fit?_of_toTheMinute h [.second]
    rw [patterns, List.findSome?_cons, hsecond, List.findSome?_cons, h]
  · rw [hspaced (fit?_halfDaySpaced h), h, Option.some_or]
  · rw [hspaced h]
    cases hhalf : fit? cs halfDay with
    | none => rfl
    | some u =>
        rw [fit?_halfDaySpaced hhalf] at h
        rw [Option.some_or, h]

theorem agree_fit? (cs : List Char) : Agree (fit? cs) patterns :=
  agree_of_findSome? fun _ hp _ => findSome?_of_fit? hp

theorem IsClockText.read {s : String} (h : IsClockText (trim s.toList) hour minute second) :
    ∃ t, t.IsAt hour minute second ∧ read s = .ok t := by
  obtain ⟨p, hp, t, hfit, hat⟩ := h.exists_fit?
  refine ⟨t, hat, ?_⟩
  rw [TimeOfDay.read, findSome?_of_fit? hp hfit, found_some]

theorem exists_isClockText_of_read {s : String} (h : read s = .ok t) :
    ∃ hour minute second, IsClockText (trim s.toList) hour minute second := by
  obtain ⟨p, hp, hfit⟩ := List.exists_of_findSome?_eq_some (found_eq_ok_iff.mp h)
  obtain ⟨hour, minute, second, htext, -⟩ := isClockText_of_fit? hp hfit
  exact ⟨hour, minute, second, htext⟩

theorem readIn_of_perm {ps : List Pattern} (hps : ps.Perm patterns) (s : String) :
    readIn ps s = read s := by
  rw [readIn, (agree_fit? _).findSome?_eq hps, TimeOfDay.read]

/-- A time of day is read off its spellings and off nothing else, and it is the time that they say.
All patterns that fit a text find the same time, so that any order of trial reads the same. -/
theorem read_exactly_clock_texts (s : String) :
    ((∃ t, read s = .ok t) ↔
      ∃ hour minute second, IsClockText (trim s.toList) hour minute second) ∧
    (∀ hour minute second, IsClockText (trim s.toList) hour minute second →
      ∃ t, t.IsAt hour minute second ∧ read s = .ok t) ∧
    (∀ e, read s = .error e → e = ⟨.unrecognizedTime, trimmed s⟩) ∧
    (∀ p ∈ patterns, ∀ q ∈ patterns, ∀ t u,
      fit? (trim s.toList) p = some t → fit? (trim s.toList) q = some u → t = u) ∧
    ∀ ps : List Pattern, ps.Perm patterns → readIn ps s = read s := by
  refine ⟨⟨?_, ?_⟩, fun _ _ _ => IsClockText.read, ?_, agree_fit? _, fun ps hps => ?_⟩
  · rintro ⟨t, ht⟩
    exact exists_isClockText_of_read ht
  · rintro ⟨hour, minute, second, htext⟩
    obtain ⟨t, -, ht⟩ := htext.read
    exact ⟨t, ht⟩
  · intro e he
    rw [TimeOfDay.read] at he
    cases hfind : patterns.findSome? (fit? (trim s.toList)) with
    | none =>
        rw [hfind] at he
        cases he
        rfl
    | some t =>
        rw [hfind] at he
        cases he
  · exact readIn_of_perm hps s

/-- Five minutes past midnight, with blanks wherever they may stand, the leap second at the end of
the day, and an afternoon that fits two patterns. -/
theorem read_exactly_clock_texts_at_midnight :
    (∃ t : TimeOfDay, t.second = 300 ∧ t.nanos = 0 ∧ read "\t12: 5\u3000aM " = .ok t ∧
      readIn [halfDaySpaced, halfDay, toTheMinute, toTheSecond] "\t12: 5\u3000aM " = .ok t) ∧
    (∃ t : TimeOfDay, t.second = 86399 ∧ t.nanos = nanosPerSecond ∧ read "23:59:60" = .ok t) ∧
    (∃ t u, fit? (trim "1:30pm".toList) halfDay = some t ∧
      fit? (trim "1:30pm".toList) halfDaySpaced = some u ∧ t = u) ∧
    read "0:30 am" = .error ⟨.unrecognizedTime, "0:30 am"⟩ := by
  have hnumber {blanks ds : List Char} (hblanks : blanks.all isBlank = true) (hne : ds ≠ [])
      (hdigits : ds.all Char.isDigit = true) (hlength : ds.length ≤ 2) :
      AfterBlanks (IsNumber 2) (blanks ++ ds) (Nat.ofDigitChars 10 ds 0) :=
    ⟨blanks, ds, hblanks, ⟨⟨hne, List.all_eq_true.mp hdigits, rfl⟩, hlength⟩, rfl⟩
  have hpast : IsClockText (trim "\t12: 5\u3000aM ".toList) 0 5 0 := by
    have hchars : trim "\t12: 5\u3000aM ".toList =
        ([] ++ ['1', '2']) ++ ':' :: (([' '] ++ ['5']) ++ (['\u3000'] ++ ['a', 'M'])) := by
      decide +kernel
    rw [hchars]
    exact .withHalf (hnumber rfl (by decide) rfl (by decide))
      (hnumber rfl (by decide) rfl (by decide)) rfl (.am rfl rfl) (by decide) (by decide)
      (by decide)
  have hleap : IsClockText (trim "23:59:60".toList) 23 59 60 := by
    have hchars : trim "23:59:60".toList =
        ([] ++ ['2', '3']) ++ ':' :: (([] ++ ['5', '9']) ++ ':' :: ([] ++ ['6', '0'])) := by
      decide +kernel
    rw [hchars]
    exact .withSecond (hnumber rfl (by decide) rfl (by decide))
      (hnumber rfl (by decide) rfl (by decide)) (hnumber rfl (by decide) rfl (by decide))
      (by decide) (by decide) (by decide)
  refine ⟨?_, ?_, ?_, ?_⟩
  · obtain ⟨-, htime, -, -, horder⟩ := read_exactly_clock_texts "\t12: 5\u3000aM "
    obtain ⟨t, ⟨hsecond, hnanos⟩, ht⟩ := htime 0 5 0 hpast
    have hps : List.Perm [halfDaySpaced, halfDay, toTheMinute, toTheSecond] patterns := by decide
    exact ⟨t, hsecond, hnanos, ht, (horder _ hps).trans ht⟩
  · obtain ⟨-, htime, -, -, -⟩ := read_exactly_clock_texts "23:59:60"
    obtain ⟨t, ⟨hsecond, hnanos⟩, ht⟩ := htime 23 59 60 hleap
    exact ⟨t, hsecond, hnanos, ht⟩
  · obtain ⟨-, -, -, hagree, -⟩ := read_exactly_clock_texts "1:30pm"
    have hfits : (fit? (trim "1:30pm".toList) halfDay).isSome = true ∧
        (fit? (trim "1:30pm".toList) halfDaySpaced).isSome = true := by decide +kernel
    obtain ⟨t, ht⟩ := Option.isSome_iff_exists.mp hfits.1
    obtain ⟨u, hu⟩ := Option.isSome_iff_exists.mp hfits.2
    exact ⟨t, u, ht, hu, hagree halfDay (by decide) halfDaySpaced (by decide) t u ht hu⟩
  · cases hread : read "0:30 am" with
    | ok t =>
        have hfault : (read "0:30 am").toOption.isSome = false := by decide +kernel
        rw [hread] at hfault
        cases hfault
    | error e =>
        rw [(read_exactly_clock_texts "0:30 am").2.2.1 e hread]
        rfl

end TimeOfDay

end TripQuery
