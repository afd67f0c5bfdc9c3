import TripQuery.Proofs.Calendar.LeapSecond
import TripQuery.Proofs.Calendar.Pattern
import TripQuery.Proofs.Numerals
import TripQuery.Proofs.Text.Trimming

namespace TripQuery

/-!
# The texts of a pattern

What the items of a pattern may look like, said without reading anything: numbers by their digits,
with blanks in front, and a pattern as the texts of its items one behind the other. A reader takes
exactly these texts off the front, unless what follows could belong to them, and a pattern in which
that never happens is fitted by its texts and by no other.
-/

def IsNumber (most : Nat) (cs : List Char) (n : Nat) : Prop := IsNumeral cs n ∧ cs.length ≤ most

/-- A text behind blanks, of which there may be none. -/
def AfterBlanks {α : Type} (IsText : List Char → α → Prop) (cs : List Char) (a : α) : Prop :=
  ∃ blanks text, blanks.all isBlank = true ∧ IsText text a ∧ cs = blanks ++ text

/-- A year has up to four digits, or a sign and then any number of them. -/
inductive IsYear : List Char → Int → Prop
  | unsigned {ds : List Char} {n : Nat} (h : IsNumber 4 ds n) : IsYear ds n
  | positive {ds : List Char} {n : Nat} (h : IsNumeral ds n) : IsYear ('+' :: ds) n
  | negative {ds : List Char} {n : Nat} (h : IsNumeral ds n) : IsYear ('-' :: ds) (-n)

def IsHalfDayHour (cs : List Char) (n : Nat) : Prop :=
  ∃ h, AfterBlanks (IsNumber 2) cs h ∧ 1 ≤ h ∧ h ≤ 12 ∧ n = h % 12

/-- The nanoseconds of a fraction are its first nine digits, as if zeros followed them. -/
inductive IsFraction : List Char → Nat → Prop
  | none : IsFraction [] 0
  | digits {ds : List Char} {n : Nat} (h : IsNumeral (ds.take 9) n)
      (hds : ∀ c ∈ ds, c.isDigit = true) : IsFraction ('.' :: ds) (n * 10 ^ (9 - ds.length))

inductive IsMeridiem : List Char → Nat → Prop
  | am {a m : Char} (ha : a.toLower = 'a') (hm : m.toLower = 'm') : IsMeridiem [a, m] 0
  | pm {p m : Char} (hp : p.toLower = 'p') (hm : m.toLower = 'm') : IsMeridiem [p, m] 12

/-- The text of an item, which turns the fields `f` into `g`. -/
def Item.IsText (f : Fields) (cs : List Char) (g : Fields) : Item → Prop
  | .year => ∃ y, AfterBlanks IsYear cs y ∧ g = { f with year := y }
  | .month => ∃ n, AfterBlanks (IsNumber 2) cs n ∧ g = { f with month := n }
  | .day => ∃ n, AfterBlanks (IsNumber 2) cs n ∧ g = { f with day := n }
  | .hour => ∃ n, AfterBlanks (IsNumber 2) cs n ∧ g = { f with hour := n }
  | .halfDayHour => ∃ n, IsHalfDayHour cs n ∧ g = { f with hour := n }
  | .minute => ∃ n, AfterBlanks (IsNumber 2) cs n ∧ g = { f with minute := n }
  | .second => ∃ n, AfterBlanks (IsNumber 2) cs n ∧ g = { f with second := n }
  | .fraction => ∃ n, IsFraction cs n ∧ g = { f with nanos := n }
  | .meridiem => ∃ n, IsMeridiem cs n ∧ g = { f with hour := f.hour + n }
  | .space => cs.all isBlank = true ∧ g = f
  | .literal c => cs = [c] ∧ g = f

/-- The text of a pattern is that of its items one behind the other. -/
def Pattern.IsText (f : Fields) (cs : List Char) (g : Fields) : Pattern → Prop
  | [] => cs = [] ∧ g = f
  | i :: is => ∃ front back f', cs = front ++ back ∧ i.IsText f front f' ∧ IsText f' back g is

/-- A reader of certain texts. What `goesOn` could continue a text and may not follow it. -/
structure Reads {α : Type} (read : List Char → Option (α × List Char))
    (IsText : List Char → α → Prop) (goesOn : Char → Bool) : Prop where
  split {cs rest : List Char} {a : α} : read cs = some (a, rest) →
    ∃ front, IsText front a ∧ cs = front ++ rest
  append {front rest : List Char} {a : α} : IsText front a →
    (∀ c ∈ rest.head?, goesOn c = false) → read (front ++ rest) = some (a, rest)

theorem Reads.map {α β : Type} {read : List Char → Option (α × List Char)}
    {IsText : List Char → α → Prop} {goesOn : Char → Bool} (h : Reads read IsText goesOn)
    (g : α → β) :
    Reads (fun cs => (read cs).map fun (a, rest) => (g a, rest))
      (fun cs b => ∃ a, IsText cs a ∧ b = g a) goesOn where
  split hread := by
    obtain ⟨⟨a, r⟩, ha, heq⟩ := Option.map_eq_some_iff.mp hread
    cases heq
    obtain ⟨front, htext, hcs⟩ := h.split ha
    exact ⟨front, ⟨a, htext, rfl⟩, hcs⟩
  append := by
    rintro front rest b ⟨a, htext, rfl⟩ hrest
    rw [h.append htext hrest, Option.map_some]

/-- A text is told apart from what follows it, and says one thing only. -/
theorem Reads.unique {α : Type} {read : List Char → Option (α × List Char)}
    {IsText : List Char → α → Prop} {goesOn : Char → Bool} (h : Reads read IsText goesOn)
    {front front' rest rest' : List Char} {a b : α} (ha : IsText front a) (hb : IsText front' b)
    (hrest : ∀ c ∈ rest.head?, goesOn c = false) (hrest' : ∀ c ∈ rest'.head?, goesOn c = false)
    (heq : front ++ rest = front' ++ rest') : a = b ∧ rest = rest' := by
  have hread := h.append ha hrest
  rw [heq, h.append hb hrest'] at hread
  cases hread
  exact ⟨rfl, rfl⟩

theorem reads_number? (most : Nat) : Reads (number? most) (IsNumber most) Char.isDigit where
  split {cs rest n} h := by
    have hds : (cs.take most).takeWhile Char.isDigit <+: cs :=
      (List.takeWhile_prefix _).trans (List.take_prefix most cs)
    have hlength : ((cs.take most).takeWhile Char.isDigit).length ≤ most :=
      Nat.le_trans (List.takeWhile_prefix _).length_le (List.length_take_le _ _)
    unfold number? at h
    simp only at h
    split at h
    · cases h
    · next hne =>
        cases h
        exact ⟨_, ⟨⟨hne, fun c hc => List.all_eq_true.mp List.all_takeWhile c hc, rfl⟩, hlength⟩,
          (List.prefix_iff_eq_append.mp hds).symm⟩
  append {ds rest n} h hrest := by
    obtain ⟨⟨hne, hdigits, hvalue⟩, hmost⟩ := h
    have hstop : (rest.take (most - ds.length)).takeWhile Char.isDigit = [] := by
      cases rest with
      | nil => simp
      | cons c rest => cases most - ds.length <;> simp [hrest c rfl]
    have hds : ((ds ++ rest).take most).takeWhile Char.isDigit = ds := by
      rw [List.take_append, List.take_of_length_le hmost, List.takeWhile_append_of_pos hdigits,
        hstop, List.append_nil]
    simp only [number?, hds, if_neg hne, List.drop_left, hvalue]

/-- A text behind blanks is what is left when they are trimmed. -/
theorem afterBlanks_of_trimStart {α : Type} {IsText : List Char → α → Prop}
    {cs front rest : List Char} {a : α} (h : IsText front a)
    (htrim : trimStart cs = front ++ rest) :
    ∃ text, AfterBlanks IsText text a ∧ cs = text ++ rest := by
  obtain ⟨blanks, hblanks, hcs⟩ := exists_eq_blank_append cs
  refine ⟨blanks ++ front, ⟨blanks, front, hblanks, h, rfl⟩, ?_⟩
  rw [hcs, htrim, List.append_assoc]

theorem reads_shortNumber? : Reads shortNumber? (AfterBlanks (IsNumber 2)) Char.isDigit where
  split h := by
    obtain ⟨ds, hds, htrim⟩ := (reads_number? 2).split h
    exact afterBlanks_of_trimStart hds htrim
  append := by
    rintro _ rest n ⟨blanks, ds, hblanks, hds, rfl⟩ hrest
    have hhead : ∀ c ∈ (ds ++ rest).head?, isBlank c = false := by
      obtain ⟨c, cs, heq, hc⟩ := hds.1.head rest
      rw [heq]
      rintro _ ⟨⟩
      exact isBlank_eq_false_of_isDigit hc
    rw [shortNumber?, List.append_assoc, trimStart_blank_append hblanks hhead]
    exact (reads_number? 2).append hds hrest

theorem reads_signed : Reads (fun cs => number? cs.length cs) IsNumeral Char.isDigit where
  split h := by
    obtain ⟨ds, hds, hcs⟩ := (reads_number? _).split h
    exact ⟨ds, hds.1, hcs⟩
  append {ds rest n} h hrest := by
    have hlength : ds.length ≤ (ds ++ rest).length := by simp
    exact (reads_number? _).append ⟨h, hlength⟩ hrest

theorem reads_year? : Reads year? (AfterBlanks IsYear) Char.isDigit where
  split h := by
    unfold year? at h
    split at h
    · next htrim =>
        obtain ⟨ds, ⟨n, hn, rfl⟩, rfl⟩ := (reads_signed.map fun n : Nat => -(n : Int)).split h
        exact afterBlanks_of_trimStart (.negative hn) htrim
    · next htrim =>
        obtain ⟨ds, ⟨n, hn, rfl⟩, rfl⟩ := (reads_signed.map fun n : Nat => (n : Int)).split h
        exact afterBlanks_of_trimStart (.positive hn) htrim
    · obtain ⟨ds, ⟨n, hn, rfl⟩, htrim⟩ := ((reads_number? 4).map fun n : Nat => (n : Int)).split h
      exact afterBlanks_of_trimStart (.unsigned hn) htrim
  append := by
    rintro _ rest y ⟨blanks, text, hblanks, htext, rfl⟩ hrest
    rw [List.append_assoc]
    cases htext with
    | unsigned hn =>
        obtain ⟨c, cs, heq, hc⟩ := hn.1.head rest
        have hhead : ∀ d ∈ (text ++ rest).head?, isBlank d = false := by
          rw [heq]
          rintro _ ⟨⟩
          exact isBlank_eq_false_of_isDigit hc
        rw [year?, trimStart_blank_append hblanks hhead]
        split
        · next hsign =>
            rw [hsign] at heq
            cases heq
            cases hc
        · next hsign =>
            rw [hsign] at heq
            cases heq
            cases hc
        · exact ((reads_number? 4).map fun n : Nat => (n : Int)).append ⟨_, hn, rfl⟩ hrest
    | positive hn =>
        rw [year?, trimStart_blank_append hblanks (by rintro _ ⟨⟩; rfl)]
        exact (reads_signed.map fun n : Nat => (n : Int)).append ⟨_, hn, rfl⟩ hrest
    | negative hn =>
        rw [year?, trimStart_blank_append hblanks (by rintro _ ⟨⟩; rfl)]
        exact (reads_signed.map fun n : Nat => -(n : Int)).append ⟨_, hn, rfl⟩ hrest

theorem reads_halfDayHour? : Reads halfDayHour? IsHalfDayHour Char.isDigit where
  split {cs rest n} h := by
    obtain ⟨⟨hour, r⟩, hread, hrange⟩ := Option.bind_eq_some_iff.mp h
    obtain ⟨front, htext, rfl⟩ := reads_shortNumber?.split hread
    simp only at hrange
    split at hrange
    · next hhour =>
        cases hrange
        exact ⟨front, ⟨hour, htext, hhour.1, hhour.2, rfl⟩, rfl⟩
    · cases hrange
  append := by
    rintro front rest n ⟨hour, htext, hlow, hhigh, rfl⟩ hrest
    rw [halfDayHour?, reads_shortNumber?.append htext hrest, Option.bind_some]
    exact if_pos ⟨hlow, hhigh⟩

/-- The digits in front are a fraction when there is at least one. -/
theorem nanos?_append {ds rest : List Char} (hds : ∀ c ∈ ds, c.isDigit = true)
    (hrest : ∀ c ∈ rest.head?, c.isDigit = false) :
    nanos? (ds ++ rest) =
      if ds.take 9 = [] then none
      else some (Nat.ofDigitChars 10 (ds.take 9) 0 * 10 ^ (9 - ds.length), rest) := by
  have htake : ((ds ++ rest).take 9).takeWhile Char.isDigit = ds.take 9 := by
    rw [← List.take_takeWhile, takeWhile_append_of_head hrest, List.takeWhile_eq_self_iff.mpr hds]
  have hdrop : (ds ++ rest).drop (ds.take 9).length = ds.drop 9 ++ rest := by
    have hsplit : ds ++ rest = ds.take 9 ++ (ds.drop 9 ++ rest) := by
      rw [← List.append_assoc, List.take_append_drop]
    rw [hsplit, List.drop_left]
  have hlength : (ds ++ rest).length - (ds.drop 9 ++ rest).length = min 9 ds.length := by
    simp only [List.length_append, List.length_drop]
    omega
  have hnine : 9 - min 9 ds.length = 9 - ds.length := by omega
  have hskip : (ds.drop 9 ++ rest).dropWhile Char.isDigit = rest := by
    rw [List.dropWhile_append_of_pos fun c hc => hds c (List.mem_of_mem_drop hc)]
    cases rest with
    | nil => rfl
    | cons c rest => exact List.dropWhile_cons_of_neg (by simp [hrest c rfl])
  unfold nanos? number?
  simp only [htake, hdrop]
  split
  · rfl
  · simp only [Option.map_some, hlength, hskip, hnine]
    rfl

theorem reads_fraction? : Reads fraction? IsFraction fun c => c.isDigit || c == '.' where
  split {cs rest n} h := by
    unfold fraction? at h
    split at h
    · next cs =>
        have hds : ∀ c ∈ cs.takeWhile Char.isDigit, c.isDigit = true := fun c hc =>
          List.all_eq_true.mp List.all_takeWhile c hc
        have hrest : ∀ c ∈ (cs.dropWhile Char.isDigit).head?, c.isDigit = false := by
          intro c hc
          have hnot := List.head?_dropWhile_not Char.isDigit cs
          rw [hc] at hnot
          simpa using hnot
        rw [← List.takeWhile_append_dropWhile (p := Char.isDigit) (l := cs),
          nanos?_append hds hrest] at h
        split at h
        · cases h
        · next hne =>
            cases h
            refine ⟨'.' :: cs.takeWhile Char.isDigit, .digits ⟨hne, ?_, rfl⟩ hds, ?_⟩
            · exact fun c hc => hds c (List.mem_of_mem_take hc)
            · rw [List.cons_append, List.takeWhile_append_dropWhile]
    · cases h
      exact ⟨[], .none, rfl⟩
  append := by
    rintro front rest n htext hrest
    have hstop : ∀ c ∈ rest.head?, c.isDigit = false ∧ c ≠ '.' := by simpa using hrest
    cases htext with
    | none =>
        rw [List.nil_append]
        unfold fraction?
        split
        · exact absurd rfl (hstop '.' rfl).2
        · rfl
    | digits h hds =>
        rw [List.cons_append, fraction?, nanos?_append hds fun c hc => (hstop c hc).1,
          if_neg h.ne_nil, h.value]

theorem reads_meridiem? : Reads meridiem? IsMeridiem fun _ => false where
  split {cs rest n} h := by
    unfold meridiem? at h
    split at h
    · next a m rest =>
        split at h
        · next hm =>
            split at h
            · next ha =>
                cases h
                exact ⟨[a, m], .am ha hm, rfl⟩
            · split at h
              · next hp =>
                  cases h
                  exact ⟨[a, m], .pm hp hm, rfl⟩
              · cases h
        · cases h
    · cases h
  append := by
    rintro front rest n htext -
    cases htext with
    | am ha hm => simp [meridiem?, ha, hm]
    | pm hp hm => simp [meridiem?, hp, hm]

namespace Item

/-- The characters that the item takes along when they follow its text. -/
def goesOn : Item → Char → Bool
  | meridiem | literal _ => fun _ => false
  | space => isBlank
  | fraction => fun c => c.isDigit || c == '.'
  | _ => Char.isDigit

theorem reads_read (f : Fields) (i : Item) :
    Reads (fun cs => i.read f cs) (fun cs g => i.IsText f cs g) i.goesOn := by
  cases i with
  | year => exact reads_year?.map fun y => { f with year := y }
  | month => exact reads_shortNumber?.map fun n => { f with month := n }
  | day => exact reads_shortNumber?.map fun n => { f with day := n }
  | hour => exact reads_shortNumber?.map fun n => { f with hour := n }
  | halfDayHour => exact reads_halfDayHour?.map fun n => { f with hour := n }
  | minute => exact reads_shortNumber?.map fun n => { f with minute := n }
  | second => exact reads_shortNumber?.map fun n => { f with second := n }
  | fraction => exact reads_fraction?.map fun n => { f with nanos := n }
  | meridiem => exact reads_meridiem?.map fun n => { f with hour := f.hour + n }
  | space =>
      constructor
      · intro cs rest g h
        cases h
        obtain ⟨blanks, hblanks, hcs⟩ := exists_eq_blank_append cs
        exact ⟨blanks, ⟨hblanks, rfl⟩, hcs⟩
      · rintro front rest g ⟨hblanks, rfl⟩ hrest
        simp only [read, trimStart_blank_append hblanks hrest]
  | literal c =>
      constructor
      · intro cs rest g h
        cases cs with
        | nil => cases h
        | cons d cs =>
            simp only [read] at h
            split at h
            · next hc =>
                cases h
                exact ⟨[c], ⟨rfl, rfl⟩, by rw [hc, List.singleton_append]⟩
            · cases h
      · rintro front rest g ⟨rfl, rfl⟩ -
        simp [read]

/-- The characters that the texts of the item may start with. -/
def Starts (c : Char) : Item → Prop
  | year => isBlank c = true ∨ c = '+' ∨ c = '-' ∨ c.isDigit = true
  | fraction => c = '.'
  | meridiem => c.toLower = 'a' ∨ c.toLower = 'p'
  | space => isBlank c = true
  | literal d => c = d
  | _ => isBlank c = true ∨ c.isDigit = true

/-- The characters that the texts of the item may consist of. -/
def Allows (c : Char) : Item → Prop
  | fraction => c = '.' ∨ c.isDigit = true
  | meridiem => c.toLower = 'a' ∨ c.toLower = 'p' ∨ c.toLower = 'm'
  | i => i.Starts c

/-- The items that may be written as nothing. -/
def IsOptional (i : Item) : Prop := i = space ∨ i = fraction

end Item

section Members

variable {α : Type} {cs : List Char} {a : α} {n : Nat} {c : Char}

theorem AfterBlanks.mem {IsText : List Char → α → Prop} (h : AfterBlanks IsText cs a)
    (hc : c ∈ cs) : isBlank c = true ∨ ∃ text, IsText text a ∧ c ∈ text := by
  obtain ⟨blanks, text, hblanks, htext, rfl⟩ := h
  rcases List.mem_append.mp hc with hc | hc
  · exact Or.inl (List.all_eq_true.mp hblanks c hc)
  · exact Or.inr ⟨text, htext, hc⟩

theorem AfterBlanks.ne_nil {IsText : List Char → α → Prop} (h : AfterBlanks IsText cs a)
    (hne : ∀ text, IsText text a → text ≠ []) : cs ≠ [] := by
  obtain ⟨blanks, text, -, htext, rfl⟩ := h
  exact List.append_ne_nil_of_right_ne_nil blanks (hne text htext)

theorem AfterBlanks.mem_number {most : Nat} (h : AfterBlanks (IsNumber most) cs n)
    (hc : c ∈ cs) : isBlank c = true ∨ c.isDigit = true := by
  rcases h.mem hc with hblank | ⟨ds, hds, hc⟩
  · exact Or.inl hblank
  · exact Or.inr (hds.1.isDigit c hc)

theorem IsYear.mem {y : Int} (h : IsYear cs y) (hc : c ∈ cs) :
    c = '+' ∨ c = '-' ∨ c.isDigit = true := by
  cases h with
  | unsigned h => exact Or.inr (Or.inr (h.1.isDigit c hc))
  | positive h =>
      rcases List.mem_cons.mp hc with rfl | hc
      · exact Or.inl rfl
      · exact Or.inr (Or.inr (h.isDigit c hc))
  | negative h =>
      rcases List.mem_cons.mp hc with rfl | hc
      · exact Or.inr (Or.inl rfl)
      · exact Or.inr (Or.inr (h.isDigit c hc))

theorem IsYear.ne_nil {y : Int} (h : IsYear cs y) : cs ≠ [] := by
  cases h with
  | unsigned h => exact h.1.ne_nil
  | positive h => exact List.cons_ne_nil _ _
  | negative h => exact List.cons_ne_nil _ _

end Members

namespace Item

variable {i : Item} {f g : Fields} {cs : List Char}

theorem IsText.allows (h : i.IsText f cs g) : ∀ c ∈ cs, i.Allows c := by
  intro c hc
  cases i with
  | year =>
      obtain ⟨y, hy, -⟩ := h
      rcases hy.mem hc with hblank | ⟨text, htext, hc⟩
      · exact Or.inl hblank
      · exact Or.inr (htext.mem hc)
  | halfDayHour =>
      obtain ⟨n, ⟨hour, hhour, -⟩, -⟩ := h
      exact hhour.mem_number hc
  | fraction =>
      obtain ⟨n, hn, -⟩ := h
      cases hn with
      | none => cases hc
      | digits hn hds =>
          rcases List.mem_cons.mp hc with rfl | hc
          · exact Or.inl rfl
          · exact Or.inr (hds c hc)
  | meridiem =>
      obtain ⟨n, hn, -⟩ := h
      cases hn with
      | am ha hm =>
          simp only [List.mem_cons, List.not_mem_nil, or_false] at hc
          rcases hc with rfl | rfl
          · exact Or.inl ha
          · exact Or.inr (Or.inr hm)
      | pm hp hm =>
          simp only [List.mem_cons, List.not_mem_nil, or_false] at hc
          rcases hc with rfl | rfl
          · exact Or.inr (Or.inl hp)
          · exact Or.inr (Or.inr hm)
  | space => exact List.all_eq_true.mp h.1 c hc
  | literal d =>
      obtain ⟨rfl, -⟩ := h
      exact List.mem_singleton.mp hc
  | month | day | hour | minute | second =>
      obtain ⟨n, hn, -⟩ := h
      exact hn.mem_number hc

theorem IsText.starts (h : i.IsText f cs g) : ∀ c ∈ cs.head?, i.Starts c := by
  intro c hc
  have hallows := h.allows c (List.mem_of_mem_head? hc)
  cases i with
  | fraction =>
      obtain ⟨n, hn, -⟩ := h
      cases hn with
      | none => cases hc
      | digits =>
          cases hc
          rfl
  | meridiem =>
      obtain ⟨n, hn, -⟩ := h
      cases hn with
      | am ha =>
          cases hc
          exact Or.inl ha
      | pm hp =>
          cases hc
          exact Or.inr hp
  | _ => exact hallows

theorem IsText.ne_nil (h : i.IsText f cs g) (hi : ¬ i.IsOptional) : cs ≠ [] := by
  have hnumber {most n : Nat} (hn : AfterBlanks (IsNumber most) cs n) : cs ≠ [] :=
    hn.ne_nil fun _ hds => hds.1.ne_nil
  cases i with
  | year =>
      obtain ⟨y, hy, -⟩ := h
      exact hy.ne_nil fun _ htext => htext.ne_nil
  | halfDayHour =>
      obtain ⟨n, ⟨hour, hhour, -⟩, -⟩ := h
      exact hnumber hhour
  | fraction => exact absurd (Or.inr rfl) hi
  | meridiem =>
      obtain ⟨n, hn, -⟩ := h
      cases hn <;> exact List.cons_ne_nil _ _
  | space => exact absurd (Or.inl rfl) hi
  | literal d =>
      obtain ⟨rfl, -⟩ := h
      exact List.cons_ne_nil _ _
  | month | day | hour | minute | second =>
      obtain ⟨n, hn, -⟩ := h
      exact hnumber hn

end Item

namespace Pattern

def Starts (c : Char) : Pattern → Prop
  | [] => False
  | i :: is => i.Starts c ∨ i.IsOptional ∧ Starts c is

/-- No item could take along the start of what follows it. -/
def IsSeparated : Pattern → Prop
  | [] => True
  | i :: is => (∀ c, Starts c is → i.goesOn c = false) ∧ IsSeparated is

variable {p : Pattern} {f g : Fields} {cs : List Char}

theorem IsText.starts (h : IsText f cs g p) : ∀ c ∈ cs.head?, p.Starts c := by
  induction p generalizing f cs with
  | nil =>
      obtain ⟨rfl, -⟩ := h
      intro c hc
      cases hc
  | cons i is ih =>
      obtain ⟨front, back, f', rfl, hfront, hback⟩ := h
      intro c hc
      cases front with
      | nil => exact Or.inr ⟨by_contra fun hi => hfront.ne_nil hi rfl, ih hback c hc⟩
      | cons d front => exact Or.inl (hfront.starts c hc)

/-- An item takes its text off the front and leaves the rest to the items behind it. -/
theorem readFrom_append_text {i : Item} {front rest : List Char} (h : i.IsText f front g)
    (hrest : ∀ c ∈ rest.head?, i.goesOn c = false) (items : Pattern) :
    readFrom f (front ++ rest) (i :: items) = readFrom g rest items := by
  have hread : i.read f (front ++ rest) = some (g, rest) := (i.reads_read f).append h hrest
  rw [readFrom_cons, hread, Option.bind_some]

/-- A mark that does not belong to an item ends its text. -/
theorem readFrom_mark {i : Item} {front : List Char} {mark : Char} (h : i.IsText f front g)
    (hmark : i.goesOn mark = false) (rest : List Char) (items : Pattern) :
    readFrom f (front ++ mark :: rest) (i :: .literal mark :: items) = readFrom g rest items := by
  have hhead : ∀ c ∈ (mark :: rest).head?, i.goesOn c = false := by
    rintro c ⟨⟩
    exact hmark
  rw [readFrom_append_text h hhead, readFrom_literal_self]

theorem readFrom_singleton {i : Item} (h : i.IsText f cs g) : readFrom f cs [i] = some g := by
  have hread : readFrom f (cs ++ []) [i] = readFrom g [] [] :=
    readFrom_append_text h (by rintro c ⟨⟩) []
  rwa [List.append_nil, readFrom_nil, if_pos rfl] at hread

theorem isText_of_readFrom (h : readFrom f cs p = some g) : IsText f cs g p := by
  induction p generalizing f cs with
  | nil =>
      rw [readFrom_nil] at h
      split at h
      · next hcs =>
          cases h
          exact ⟨hcs, rfl⟩
      · cases h
  | cons i is ih =>
      rw [readFrom_cons, Option.bind_eq_some_iff] at h
      obtain ⟨⟨f', rest⟩, hread, hrest⟩ := h
      obtain ⟨front, hfront, rfl⟩ := (i.reads_read f).split hread
      exact ⟨front, rest, f', rfl, hfront, ih hrest⟩

theorem IsText.readFrom (h : IsText f cs g p) (hp : p.IsSeparated) :
    readFrom f cs p = some g := by
  induction p generalizing f cs with
  | nil =>
      obtain ⟨rfl, rfl⟩ := h
      rfl
  | cons i is ih =>
      obtain ⟨front, back, f', rfl, hfront, hback⟩ := h
      rw [readFrom_append_text hfront fun c hc => hp.1 c (hback.starts c hc)]
      exact ih hback hp.2

/-- The texts of a pattern are those that fit it. -/
theorem readFrom_eq_some_iff (hp : p.IsSeparated) :
    readFrom f cs p = some g ↔ IsText f cs g p :=
  ⟨isText_of_readFrom, fun h => h.readFrom hp⟩

/-- What is made of the fields of a text that fits. -/
theorem bind_read_eq_some_iff {α : Type} {make : Fields → Option α} {a : α}
    (hp : p.IsSeparated) :
    (p.read cs).bind make = some a ↔ ∃ f, IsText {} cs f p ∧ make f = some a := by
  simp only [read, Option.bind_eq_some_iff, readFrom_eq_some_iff hp]

theorem isText_singleton_iff {i : Item} : IsText f cs g [i] ↔ i.IsText f cs g := by
  constructor
  · rintro ⟨front, back, f', rfl, hfront, rfl, rfl⟩
    rwa [List.append_nil]
  · intro h
    exact ⟨cs, [], g, (List.append_nil cs).symm, h, rfl, rfl⟩

theorem isText_mark_iff {i : Item} {mark : Char} :
    IsText f cs g (i :: .literal mark :: p) ↔
      ∃ front back f', cs = front ++ mark :: back ∧ i.IsText f front f' ∧ IsText f' back g p := by
  constructor
  · rintro ⟨front, _, _, rfl, hfront, _, back, f', rfl, ⟨rfl, rfl⟩, hback⟩
    exact ⟨front, back, f', rfl, hfront, hback⟩
  · rintro ⟨front, back, f', rfl, hfront, hback⟩
    exact ⟨front, mark :: back, f', rfl, hfront, [mark], back, f', rfl, ⟨rfl, rfl⟩, hback⟩

theorem isText_marks_iff {i j k : Item} {mark mark' : Char} :
    IsText f cs g [i, .literal mark, j, .literal mark', k] ↔
      ∃ xs ys zs f' f'', cs = xs ++ mark :: (ys ++ mark' :: zs) ∧ i.IsText f xs f' ∧
        j.IsText f' ys f'' ∧ k.IsText f'' zs g := by
  simp only [isText_mark_iff, isText_singleton_iff]
  constructor
  · rintro ⟨xs, _, f', rfl, hxs, ys, zs, f'', rfl, hys, hzs⟩
    exact ⟨xs, ys, zs, f', f'', rfl, hxs, hys, hzs⟩
  · rintro ⟨xs, ys, zs, f', f'', rfl, hxs, hys, hzs⟩
    exact ⟨xs, _, f', rfl, hxs, ys, zs, f'', rfl, hys, hzs⟩

/-- A text that fits a pattern has no characters but those of the items. -/
theorem IsText.allows (h : IsText f cs g p) : ∀ c ∈ cs, ∃ i ∈ p, i.Allows c := by
  induction p generalizing f cs with
  | nil =>
      obtain ⟨rfl, -⟩ := h
      simp
  | cons i is ih =>
      obtain ⟨front, back, f', rfl, hfront, hback⟩ := h
      refine List.forall_mem_append.mpr ⟨fun c hc => ?_, fun c hc => ?_⟩
      · exact ⟨i, List.mem_cons_self, hfront.allows c hc⟩
      · obtain ⟨j, hj, hallows⟩ := ih hback c hc
        exact ⟨j, List.mem_cons_of_mem i hj, hallows⟩

theorem IsText.notMem {c : Char} (h : IsText f cs g p) (hp : ∀ i ∈ p, ¬ i.Allows c) : c ∉ cs := by
  intro hc
  obtain ⟨i, hi, hallows⟩ := h.allows c hc
  exact hp i hi hallows

/-- What an item never goes without, the whole text has. -/
theorem IsText.exists_mem {P : Char → Prop} (h : IsText f cs g p) {i : Item} (hi : i ∈ p)
    (htext : ∀ f cs g, i.IsText f cs g → ∃ c ∈ cs, P c) : ∃ c ∈ cs, P c := by
  induction p generalizing f cs with
  | nil => cases hi
  | cons j is ih =>
      obtain ⟨front, back, f', rfl, hfront, hback⟩ := h
      rcases List.mem_cons.mp hi with rfl | hi
      · obtain ⟨c, hc, hP⟩ := htext f front f' hfront
        exact ⟨c, List.mem_append_left back hc, hP⟩
      · obtain ⟨c, hc, hP⟩ := ih hback hi
        exact ⟨c, List.mem_append_right front hc, hP⟩

/-- Every mark of a pattern stands in the texts that fit it. -/
theorem mem_of_readFrom {c : Char} (hc : .literal c ∈ p) (h : readFrom f cs p = some g) :
    c ∈ cs := by
  have hmark : ∀ f cs g, (Item.literal c).IsText f cs g → ∃ d ∈ cs, d = c := by
    rintro f _ g ⟨rfl, -⟩
    exact ⟨c, List.mem_cons_self, rfl⟩
  obtain ⟨d, hd, rfl⟩ := (isText_of_readFrom h).exists_mem hc hmark
  exact hd

theorem read_eq_none_of_notMem {c : Char} (hc : .literal c ∈ p) (h : c ∉ cs) :
    p.read cs = none :=
  Option.eq_none_iff_forall_ne_some.mpr fun _ hread => h (mem_of_readFrom hc hread)

section Separated

variable {i : Item} {c d : Char}

theorem starts_literal_iff : Starts d (.literal c :: p) ↔ d = c := by
  simp [Starts, Item.Starts, Item.IsOptional]

theorem isSeparated_literal (h : p.IsSeparated) : IsSeparated (.literal c :: p) :=
  ⟨fun _ _ => rfl, h⟩

/-- An item that does not take the mark along may stand in front of it. -/
theorem isSeparated_mark (hc : i.goesOn c = false) (h : p.IsSeparated) :
    IsSeparated (i :: .literal c :: p) := by
  refine ⟨fun d hd => ?_, isSeparated_literal h⟩
  rw [starts_literal_iff.mp hd]
  exact hc

theorem isSeparated_singleton (i : Item) : IsSeparated [i] := ⟨fun _ h => h.elim, trivial⟩

theorem isSeparated_second_fraction : IsSeparated [.second, .fraction] := by
  refine ⟨fun c hc => ?_, isSeparated_singleton _⟩
  rcases hc with hc | ⟨-, hc⟩
  · rw [show c = '.' from hc]
    rfl
  · exact hc.elim

end Separated

/-- Behind a text that fits the pattern no mark is left to read. -/
theorem read_append_literal (h : p.read cs = some g) (c : Char) (items : Pattern) :
    read (p ++ .literal c :: items) cs = none := by
  have hmore := readFrom_append h parts_nil (.literal c :: items)
  rw [List.append_nil] at hmore
  rw [read, hmore]
  rfl

end Pattern

namespace Fields

/-- The fields are those of the date and the clock's face. -/
def Shows (f : Fields) (wall : DateTime) : Prop :=
  wall.date.year = f.year ∧ wall.date.month = f.month ∧ wall.date.day = f.day ∧
    wall.time.IsFace f.hour f.minute f.second f.nanos

theorem dateTime?_eq_some_iff {f : Fields} {wall : DateTime} :
    f.dateTime? = some wall ↔ f.Shows wall := by
  constructor
  · intro h
    unfold dateTime? at h
    split at h
    · next hdate htime =>
        cases h
        obtain ⟨hy, hm, hd⟩ := Date.ofYmd?_eq_some_iff.mp hdate
        exact ⟨hy, hm, hd, TimeOfDay.ofClock?_eq_some_iff.mp htime⟩
    · cases h
  · rintro ⟨hy, hm, hd, hface⟩
    have hdate : f.date? = some wall.date := Date.ofYmd?_eq_some_iff.mpr ⟨hy, hm, hd⟩
    have htime : f.time? = some wall.time := TimeOfDay.ofClock?_eq_some_iff.mpr hface
    rw [dateTime?, hdate, htime]

end Fields

end TripQuery
