import TripQuery.Calendar.Reading

namespace TripQuery

/-!
# The order of trial

Patterns are tried on a text one after the other, and the first that fits decides. The order does
not matter exactly when all that fit find the same.
-/

section Agreement

variable {α β : Type} {find : α → Option β} {l l' : List α}

/-- No two members of the list find different things. -/
def Agree (find : α → Option β) (l : List α) : Prop :=
  ∀ a ∈ l, ∀ b ∈ l, ∀ x y, find a = some x → find b = some y → x = y

theorem agree_of_findSome? {r : Option β} (h : ∀ a ∈ l, ∀ x, find a = some x → r = some x) :
    Agree find l := by
  intro a ha b hb x y hx hy
  have hr := h a ha x hx
  rw [h b hb y hy] at hr
  exact (Option.some.inj hr).symm

theorem Agree.perm (h : Agree find l) (hperm : l'.Perm l) : Agree find l' :=
  fun a ha b hb => h a (hperm.mem_iff.mp ha) b (hperm.mem_iff.mp hb)

theorem Agree.tail {a : α} (h : Agree find (a :: l)) : Agree find l :=
  fun b hb c hc => h b (List.mem_cons_of_mem a hb) c (List.mem_cons_of_mem a hc)

theorem Agree.findSome?_eq (h : Agree find l) (hperm : l'.Perm l) :
    l'.findSome? find = l.findSome? find := by
  induction hperm with
  | nil => rfl
  | cons a hperm ih => rw [List.findSome?_cons, List.findSome?_cons, ih h.tail]
  | swap a b l =>
      -- The first of the two decides in either order, unless only one of them finds something.
      rw [List.findSome?_cons, List.findSome?_cons, List.findSome?_cons, List.findSome?_cons]
      cases ha : find a with
      | none => rfl
      | some x =>
          cases hb : find b with
          | none => rfl
          | some y =>
              have hxy : x = y := h a (by simp) b (by simp) x y ha hb
              rw [hxy]
  | trans hfirst hsecond ihfirst ihsecond =>
      rw [ihfirst (h.perm hsecond), ihsecond h]

theorem agree_iff_findSome?_perm :
    Agree find l ↔ ∀ l' : List α, l'.Perm l → l'.findSome? find = l.findSome? find := by
  constructor
  · intro h l' hperm
    exact h.findSome?_eq hperm
  · intro h
    apply agree_of_findSome? (r := l.findSome? find)
    intro a ha x hx
    obtain ⟨before, after, rfl⟩ := List.append_of_mem ha
    rw [← h (a :: (before ++ after)) List.perm_middle.symm, List.findSome?_cons, hx]

end Agreement

theorem found_inj {α : Type} {cause : TemporalCause} {text : String} {x y : Option α} :
    found cause text x = found cause text y ↔ x = y := by
  cases x <;> cases y <;> simp

/-- Reads a time of day with these patterns, tried in their order. -/
def TimeOfDay.readIn (ps : List Pattern) (s : String) : Except TemporalFault TimeOfDay :=
  found .unrecognizedTime (trimmed s) (ps.findSome? (fit? (trim s.toList)))

/-- Reads a date with these patterns, tried in their order, unless it is one in eight digits. -/
def Date.readIn (ps : List Pattern) (s : String) : Except TemporalFault Date :=
  let cs := trim s.toList
  if isCompact cs then found .noSuchDate (trimmed s) (ofCompact? cs)
  else found .unrecognizedDate (trimmed s) (ps.findSome? (fit? cs))

theorem Date.readIn_patterns (s : String) : readIn patterns s = read s := rfl

end TripQuery
