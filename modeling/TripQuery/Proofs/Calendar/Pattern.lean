import TripQuery.Calendar.Reading
import TripQuery.Proofs.Text.Trimming

namespace TripQuery

/-!
# Patterns piece by piece

An item looks no further than it reads, so that a text which fits a pattern may stand in front of
another one, as long as that starts with nothing the last item could take. Items of dates and items
of times of day read each into their own fields.
-/

/-- What may follow a text without being taken for a part of it. -/
def Parts (tail : List Char) : Prop :=
  ∀ c ∈ tail.head?, c.isDigit = false ∧ isBlank c = false ∧ c ≠ '.'

theorem parts_nil : Parts [] := by
  intro c hc
  cases hc

theorem trimStart_append_of_parts {tail : List Char} (h : Parts tail) (cs : List Char) :
    trimStart (cs ++ tail) = trimStart cs ++ tail :=
  dropWhile_append_of_head (fun c hc => (h c hc).2.1) cs

/-- A reader that takes the same off a text when more follows it. -/
structure IsLocal {α : Type} (read : List Char → Option (α × List Char)) : Prop where
  append {cs tail rest : List Char} {a : α} : read cs = some (a, rest) → Parts tail →
    read (cs ++ tail) = some (a, rest ++ tail)

theorem IsLocal.map {α β : Type} {read : List Char → Option (α × List Char)} (h : IsLocal read)
    (g : α → β) : IsLocal fun cs => (read cs).map fun (a, rest) => (g a, rest) := by
  refine ⟨fun {cs tail rest b} hread htail => ?_⟩
  obtain ⟨⟨a, r⟩, ha, heq⟩ := Option.map_eq_some_iff.mp hread
  cases heq
  simp only [h.append ha htail, Option.map_some]

theorem isLocal_number? (most : Nat) : IsLocal (number? most) := by
  refine ⟨fun {cs tail rest n} h htail => ?_⟩
  have hhead : ∀ c ∈ (tail.take (most - cs.length)).head?, c.isDigit = false := by
    intro c hc
    refine (htail c ?_).1
    cases hk : most - cs.length with
    | zero => simp [hk] at hc
    | succ k =>
        rw [hk, List.head?_take] at hc
        simpa using hc
  have htake : ((cs ++ tail).take most).takeWhile Char.isDigit =
      (cs.take most).takeWhile Char.isDigit := by
    rw [List.take_append, takeWhile_append_of_head hhead]
  have hlength : ((cs.take most).takeWhile Char.isDigit).length ≤ cs.length :=
    Nat.le_trans (List.takeWhile_sublist _).length_le (List.length_take_le' _ _)
  unfold number? at h ⊢
  rw [htake]
  simp only at h ⊢
  split at h
  · cases h
  · next hne =>
      cases h
      rw [if_neg hne, List.drop_append_of_le_length hlength]

theorem number?_of_length_le {most : Nat} {cs : List Char} (h : cs.length ≤ most) :
    number? most cs = number? cs.length cs := by
  rw [number?, number?, List.take_of_length_le h, List.take_length]

theorem isLocal_shortNumber? : IsLocal shortNumber? := by
  refine ⟨fun {cs tail rest n} h htail => ?_⟩
  rw [shortNumber?, trimStart_append_of_parts htail]
  exact (isLocal_number? 2).append h htail

/-- The digits after a sign are as many as there are. -/
theorem isLocal_signed : IsLocal fun cs => number? cs.length cs := by
  refine ⟨fun {cs tail rest n} h htail => ?_⟩
  have hle : cs.length ≤ (cs ++ tail).length := by simp
  have hmore : number? (cs ++ tail).length cs = some (n, rest) :=
    (number?_of_length_le hle).trans h
  exact (isLocal_number? _).append hmore htail

theorem isLocal_year? : IsLocal year? := by
  refine ⟨fun {cs tail rest y} h htail => ?_⟩
  unfold year? at h ⊢
  rw [trimStart_append_of_parts htail]
  split at h
  · next digits hsign =>
      rw [hsign]
      exact (isLocal_signed.map fun n : Nat => -(n : Int)).append h htail
  · next digits hsign =>
      rw [hsign]
      exact (isLocal_signed.map fun n : Nat => (n : Int)).append h htail
  · next hminus hplus =>
      have hunsigned := ((isLocal_number? 4).map fun n : Nat => (n : Int)).append h htail
      cases hcs : trimStart cs with
      | nil =>
          rw [hcs] at h
          cases h
      | cons c digits =>
          rw [hcs] at hminus hplus hunsigned
          rw [List.cons_append]
          split
          · next heq =>
              cases heq
              exact (hminus digits rfl).elim
          · next heq =>
              cases heq
              exact (hplus digits rfl).elim
          · exact hunsigned

theorem isLocal_nanos? : IsLocal nanos? := by
  refine ⟨fun {cs tail rest n} h htail => ?_⟩
  obtain ⟨⟨m, r⟩, hm, heq⟩ := Option.map_eq_some_iff.mp h
  cases heq
  have hlength : (cs ++ tail).length - (r ++ tail).length = cs.length - r.length := by
    simp only [List.length_append]
    omega
  rw [nanos?, (isLocal_number? 9).append hm htail, Option.map_some]
  simp only [hlength, dropWhile_append_of_head fun c hc => (htail c hc).1]

theorem isLocal_fraction? : IsLocal fraction? := by
  refine ⟨fun {cs tail rest n} h htail => ?_⟩
  unfold fraction? at h
  split at h
  · exact isLocal_nanos?.append h htail
  · next hpoint =>
      cases h
      unfold fraction?
      split
      · next digits heq =>
          cases cs with
          | nil =>
              rw [List.nil_append] at heq
              exact absurd rfl (htail '.' (by rw [heq]; rfl)).2.2
          | cons c cs =>
              cases heq
              exact (hpoint cs rfl).elim
      · rfl

theorem isLocal_meridiem? : IsLocal meridiem? := by
  refine ⟨fun {cs tail rest n} h htail => ?_⟩
  unfold meridiem? at h
  split at h
  · next a m cs =>
      rw [List.cons_append, List.cons_append, meridiem?]
      by_cases hm : m.toLower = 'm'
      · rw [if_pos hm] at h ⊢
        by_cases ha : a.toLower = 'a'
        · rw [if_pos ha] at h ⊢
          cases h
          rfl
        · rw [if_neg ha] at h ⊢
          by_cases hp : a.toLower = 'p'
          · rw [if_pos hp] at h ⊢
            cases h
            rfl
          · rw [if_neg hp] at h
            cases h
      · rw [if_neg hm] at h
        cases h
  · cases h

theorem isLocal_halfDayHour? : IsLocal halfDayHour? := by
  refine ⟨fun {cs tail rest n} h htail => ?_⟩
  obtain ⟨⟨m, r⟩, hm, hhour⟩ := Option.bind_eq_some_iff.mp h
  rw [halfDayHour?, isLocal_shortNumber?.append hm htail, Option.bind_some]
  by_cases hrange : 1 ≤ m ∧ m ≤ 12
  · simp only [if_pos hrange, Option.some.injEq, Prod.mk.injEq] at hhour ⊢
    obtain ⟨rfl, rfl⟩ := hhour
    exact ⟨rfl, rfl⟩
  · simp only [if_neg hrange, reduceCtorEq] at hhour

namespace Item

theorem isLocal_read (f : Fields) (i : Item) : IsLocal fun cs => i.read f cs := by
  cases i with
  | year => exact isLocal_year?.map fun y => { f with year := y }
  | month => exact isLocal_shortNumber?.map fun n => { f with month := n }
  | day => exact isLocal_shortNumber?.map fun n => { f with day := n }
  | hour => exact isLocal_shortNumber?.map fun n => { f with hour := n }
  | halfDayHour => exact isLocal_halfDayHour?.map fun n => { f with hour := n }
  | minute => exact isLocal_shortNumber?.map fun n => { f with minute := n }
  | second => exact isLocal_shortNumber?.map fun n => { f with second := n }
  | fraction => exact isLocal_fraction?.map fun n => { f with nanos := n }
  | meridiem => exact isLocal_meridiem?.map fun n => { f with hour := f.hour + n }
  | space =>
      refine ⟨fun {cs tail rest g} h htail => ?_⟩
      cases h
      simp only [read, trimStart_append_of_parts htail]
  | literal c =>
      refine ⟨fun {cs tail rest g} h htail => ?_⟩
      cases cs with
      | nil => cases h
      | cons d cs =>
          change (if c = d then some (f, cs) else none) = some (g, rest) at h
          change (if c = d then some (f, cs ++ tail) else none) = some (g, rest ++ tail)
          split at h
          · next hc =>
              cases h
              rw [if_pos hc]
          · cases h

def setsDate : Item → Bool
  | year | month | day => true
  | _ => false

def setsTime : Item → Bool
  | year | month | day | space | literal _ => false
  | _ => true

end Item

namespace Fields

/-- The time of day of the one, on the date of the other. -/
def withDate (f d : Fields) : Fields := { f with year := d.year, month := d.month, day := d.day }

@[simp] theorem date?_withDate (f d : Fields) : (f.withDate d).date? = d.date? := rfl

@[simp] theorem time?_withDate (f d : Fields) : (f.withDate d).time? = f.time? := rfl

end Fields

namespace Item

/-- Items of a time of day leave the date alone, and make nothing of it. -/
theorem read_withDate {i : Item} (h : i.setsDate = false) (f d : Fields) (cs : List Char) :
    i.read (f.withDate d) cs = (i.read f cs).map fun (g, rest) => (g.withDate d, rest) := by
  cases i with
  | year => cases h
  | month => cases h
  | day => cases h
  | literal c =>
      cases cs with
      | nil => rfl
      | cons e cs =>
          simp only [read]
          split <;> rfl
  | _ =>
      simp only [read, Option.map_map]
      rfl

/-- The fields as the item leaves them, when `y` is the year or `n` the number that it has read. -/
def update (f : Fields) (y : Int) (n : Nat) : Item → Fields
  | year => { f with year := y }
  | month => { f with month := n }
  | day => { f with day := n }
  | hour | halfDayHour => { f with hour := n }
  | minute => { f with minute := n }
  | second => { f with second := n }
  | fraction => { f with nanos := n }
  | meridiem => { f with hour := f.hour + n }
  | space | literal _ => f

theorem exists_update_of_read {i : Item} {f g : Fields} {cs rest : List Char}
    (h : i.read f cs = some (g, rest)) : ∃ y n, g = i.update f y n := by
  cases i with
  | year =>
      obtain ⟨⟨y, r⟩, -, heq⟩ := Option.map_eq_some_iff.mp h
      cases heq
      exact ⟨y, 0, rfl⟩
  | space =>
      cases h
      exact ⟨0, 0, rfl⟩
  | literal c =>
      cases cs with
      | nil => cases h
      | cons e cs =>
          simp only [read] at h
          split at h
          · cases h
            exact ⟨0, 0, rfl⟩
          · cases h
  | _ =>
      obtain ⟨⟨n, r⟩, -, heq⟩ := Option.map_eq_some_iff.mp h
      cases heq
      exact ⟨0, n, rfl⟩

theorem nanos_update {i : Item} (h : i ≠ .fraction) (f : Fields) (y : Int) (n : Nat) :
    (i.update f y n).nanos = f.nanos := by
  cases i with
  | fraction => exact absurd rfl h
  | _ => rfl

theorem withDate_update {i : Item} (h : i.setsTime = false) (f d : Fields) (y : Int) (n : Nat) :
    (i.update f y n).withDate d = f.withDate d := by
  cases i with
  | year | month | day | space => rfl
  | literal c => rfl
  | _ => cases h

end Item

namespace Pattern

@[simp] theorem readFrom_literal_self (f : Fields) (c : Char) (rest : List Char) (p : Pattern) :
    readFrom f (c :: rest) (.literal c :: p) = readFrom f rest p := by
  simp [readFrom_cons, Item.read]

theorem readFrom_literal_of_ne {c d : Char} (h : c ≠ d) (f : Fields) (rest : List Char)
    (p : Pattern) : readFrom f (d :: rest) (.literal c :: p) = none := by
  simp [readFrom_cons, Item.read, h]

theorem exists_cons_of_readFrom_literal {f g : Fields} {cs : List Char} {c : Char} {p : Pattern}
    (h : readFrom f cs (.literal c :: p) = some g) : ∃ rest, cs = c :: rest := by
  cases cs with
  | nil => cases h
  | cons d rest =>
      by_cases hc : c = d
      · exact ⟨rest, by rw [hc]⟩
      · rw [readFrom_literal_of_ne hc] at h
        cases h

theorem readFrom_withDate {p : Pattern} (h : ∀ i ∈ p, i.setsDate = false) (f d : Fields)
    (cs : List Char) : readFrom (f.withDate d) cs p = (readFrom f cs p).map (·.withDate d) := by
  induction p generalizing f cs with
  | nil =>
      rw [readFrom_nil, readFrom_nil]
      split <;> rfl
  | cons i p ih =>
      rw [readFrom_cons, readFrom_cons, Item.read_withDate (h i List.mem_cons_self)]
      cases i.read f cs with
      | none => rfl
      | some x => exact ih (fun j hj => h j (List.mem_cons_of_mem i hj)) x.1 x.2

/-- What no item changes, a pattern leaves as it was. -/
theorem readFrom_keeps {α : Type} {φ : Fields → α} {p : Pattern}
    (h : ∀ i ∈ p, ∀ f y n, φ (i.update f y n) = φ f) {f g : Fields} {cs : List Char}
    (hread : readFrom f cs p = some g) : φ g = φ f := by
  induction p generalizing f cs with
  | nil =>
      rw [readFrom_nil] at hread
      split at hread
      · cases hread
        rfl
      · cases hread
  | cons i p ih =>
      rw [readFrom_cons] at hread
      obtain ⟨⟨f', rest⟩, hi, hrest⟩ := Option.bind_eq_some_iff.mp hread
      obtain ⟨y, n, rfl⟩ := Item.exists_update_of_read hi
      rw [ih (fun j hj => h j (List.mem_cons_of_mem i hj)) hrest]
      exact h i List.mem_cons_self f y n

theorem nanos_of_readFrom {p : Pattern} (h : Item.fraction ∉ p) {f g : Fields} {cs : List Char}
    (hread : readFrom f cs p = some g) : g.nanos = f.nanos := by
  refine readFrom_keeps (fun i hi => ?_) hread
  exact Item.nanos_update fun heq => h (heq ▸ hi)

theorem withDate_of_readFrom {p : Pattern} (h : ∀ i ∈ p, i.setsTime = false) {f g : Fields}
    {cs : List Char} (hread : readFrom f cs p = some g) : f.withDate g = g := by
  refine (readFrom_keeps (φ := (·.withDate g)) (fun i hi f => ?_) hread).symm
  exact Item.withDate_update (h i hi) f g

/-- A pattern with more items behind it goes on where the text that fits it ends. -/
theorem readFrom_append {p : Pattern} {f g : Fields} {cs tail : List Char}
    (h : readFrom f cs p = some g) (htail : Parts tail) (items : Pattern) :
    readFrom f (cs ++ tail) (p ++ items) = readFrom g tail items := by
  induction p generalizing f cs with
  | nil =>
      rw [readFrom_nil] at h
      split at h
      · next hcs =>
          cases h
          rw [hcs]
          rfl
      · cases h
  | cons i p ih =>
      rw [readFrom_cons] at h
      obtain ⟨⟨f', rest⟩, hi, hrest⟩ := Option.bind_eq_some_iff.mp h
      have hmore : i.read f (cs ++ tail) = some (f', rest ++ tail) :=
        (i.isLocal_read f).append hi htail
      rw [List.cons_append, readFrom_cons, hmore, Option.bind_some]
      exact ih hrest

end Pattern

end TripQuery
