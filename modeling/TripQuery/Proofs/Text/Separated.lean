import TripQuery.Text.Cut

namespace TripQuery

/-!
# Separated texts

Pieces that hold no separator are what a text splits into when it is made by writing them down with
a separator between them.
-/

variable {α : Type}

theorem splitOnP_intercalate {p : α → Bool} {mark : α} (hmark : p mark = true)
    (pieces : List (List α)) (hne : pieces ≠ [])
    (hp : ∀ piece ∈ pieces, ∀ a ∈ piece, p a = false) :
    ([mark].intercalate pieces).splitOnP p = pieces := by
  induction pieces with
  | nil => exact absurd rfl hne
  | cons piece pieces ih =>
      have hpiece : ∀ a ∈ piece, p a = false := hp piece (by simp)
      cases pieces with
      | nil =>
          rw [List.intercalate_singleton]
          exact List.splitOnP_eq_singleton hpiece
      | cons next pieces =>
          have hrest := ih (List.cons_ne_nil _ _) fun x hx => hp x (List.mem_cons_of_mem _ hx)
          rw [List.intercalate_cons_cons, List.append_assoc, List.singleton_append,
            List.splitOnP_append_cons_of_forall_mem hpiece mark hmark, hrest]

theorem eq_false_of_mem_splitOnP {p : α → Bool} {l piece : List α} (h : piece ∈ l.splitOnP p)
    {a : α} (ha : a ∈ piece) : p a = false := by
  induction l generalizing piece with
  | nil =>
      rw [List.splitOnP_nil, List.mem_singleton] at h
      rw [h] at ha
      cases ha
  | cons b l ih =>
      rw [List.splitOnP_cons_eq_if_modifyHead] at h
      by_cases hb : p b = true
      · rw [if_pos hb, List.mem_cons] at h
        rcases h with rfl | h
        · cases ha
        · exact ih h ha
      · rw [if_neg hb] at h
        obtain ⟨first, rest, hsplit⟩ := List.exists_cons_of_ne_nil (List.splitOnP_ne_nil p l)
        rw [hsplit, List.modifyHead_cons, List.mem_cons] at h
        rcases h with rfl | h
        · rcases List.mem_cons.mp ha with rfl | ha
          · exact eq_false_of_ne_true hb
          · exact ih (by rw [hsplit]; simp) ha
        · exact ih (by rw [hsplit]; simp [h]) ha

theorem toList_intercalate_map {β : Type} (f : β → String) (bs : List β) :
    (",".intercalate (bs.map f)).toList = [','].intercalate (bs.map fun b => (f b).toList) := by
  have hcomma : ",".toList = [','] := rfl
  rw [String.toList_intercalate, List.map_map, hcomma]
  rfl

end TripQuery
