namespace TripQuery

/-!
# Reading off the front

Readers take what they expect off the front of a text and leave the rest.
-/

def oneOf? (allowed : List Char) : List Char → Option (Char × List Char)
  | c :: cs => if c ∈ allowed then some (c, cs) else none
  | [] => none

def expect? (mark : Char) : List Char → Option (List Char)
  | c :: cs => if c = mark then some cs else none
  | [] => none

@[simp] theorem expect?_cons_self (mark : Char) (cs : List Char) :
    expect? mark (mark :: cs) = some cs := by
  simp [expect?]

theorem expect?_eq_some_iff {mark : Char} {cs rest : List Char} :
    expect? mark cs = some rest ↔ cs = mark :: rest := by
  cases cs with
  | nil => simp [expect?]
  | cons c cs => simp [expect?]

theorem oneOf?_eq_some_iff {allowed : List Char} {c : Char} {cs rest : List Char} :
    oneOf? allowed cs = some (c, rest) ↔ cs = c :: rest ∧ c ∈ allowed := by
  cases cs with
  | nil => simp [oneOf?]
  | cons d cs =>
      simp only [oneOf?, Option.ite_none_right_eq_some, Option.some.injEq, Prod.mk.injEq,
        List.cons.injEq]
      constructor
      · rintro ⟨hd, rfl, rfl⟩
        exact ⟨⟨rfl, rfl⟩, hd⟩
      · rintro ⟨⟨rfl, rfl⟩, hd⟩
        exact ⟨hd, rfl, rfl⟩

def hexDigit? (c : Char) : Option Nat :=
  if '0' ≤ c ∧ c ≤ '9' then some (c.toNat - '0'.toNat)
  else if 'a' ≤ c ∧ c ≤ 'f' then some (c.toNat - 'a'.toNat + 10)
  else if 'A' ≤ c ∧ c ≤ 'F' then some (c.toNat - 'A'.toNat + 10)
  else none

end TripQuery
