namespace TripQuery

/-!
# Cutting a list in two

A list is cut at the first place where a mark stands; the mark belongs to neither part.
-/

variable {α : Type} [DecidableEq α]

/-- The parts in front of and behind the first mark, if there is one. -/
def cutAt? (mark : α) : List α → Option (List α × List α)
  | [] => none
  | a :: l =>
      if a = mark then some ([], l)
      else (cutAt? mark l).map fun (front, back) => (a :: front, back)

@[simp] theorem cutAt?_nil (mark : α) : cutAt? mark [] = none := rfl

/-- A mark that does not occur in front is where the list is cut. -/
theorem cutAt?_append {mark : α} {front : List α} (h : mark ∉ front) (back : List α) :
    cutAt? mark (front ++ mark :: back) = some (front, back) := by
  induction front with
  | nil => simp [cutAt?]
  | cons a front ih =>
      rw [List.mem_cons, not_or] at h
      simp [cutAt?, ih h.2, Ne.symm h.1]

/-- The parts put the list together again, and the front one is free of the mark. -/
theorem eq_append_of_cutAt? {mark : α} {l front back : List α}
    (h : cutAt? mark l = some (front, back)) : l = front ++ mark :: back ∧ mark ∉ front := by
  induction l generalizing front with
  | nil => cases h
  | cons a l ih =>
      rw [cutAt?] at h
      split at h
      · next ha =>
          cases h
          simp [ha]
      · next ha =>
          obtain ⟨⟨f, b⟩, hf, hfb⟩ := Option.map_eq_some_iff.mp h
          cases hfb
          obtain ⟨rfl, hmem⟩ := ih hf
          exact ⟨rfl, by simp [Ne.symm ha, hmem]⟩

end TripQuery
