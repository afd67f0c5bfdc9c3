import TripQuery.Proofs.Text.Trimming

namespace TripQuery

/-!
# Texts with blanks around them

Trimming forgets the blanks around a text. If the text is split at marks that are no blanks, these
blanks end up around the first and the last piece, where trimming the pieces forgets them as well.
-/

/-- Two texts are the same but for the blanks around them. -/
def SameTrimmed (s t : String) : Prop := trim s.toList = trim t.toList

theorem SameTrimmed.trimmed_eq {s t : String} (h : SameTrimmed s t) : trimmed s = trimmed t :=
  congrArg String.ofList h

theorem SameTrimmed.isBlankText_eq {s t : String} (h : SameTrimmed s t) :
    isBlankText s = isBlankText t := by
  have htrim : trim s.toList = trim t.toList := h
  rw [Bool.eq_iff_iff, isBlankText_iff, isBlankText_iff, htrim]

theorem trimStart_append (cs rest : List Char) :
    trimStart (cs ++ rest) =
      if trimStart cs = [] then trimStart rest else trimStart cs ++ rest := by
  have happend : trimStart (cs ++ rest) =
      if (trimStart cs).isEmpty then trimStart rest else trimStart cs ++ rest :=
    List.dropWhile_append
  rw [happend]
  cases trimStart cs <;> rfl

theorem trimEnd_append (cs rest : List Char) :
    trimEnd (cs ++ rest) = if trimEnd rest = [] then trimEnd cs else cs ++ trimEnd rest := by
  simp only [trimEnd_eq_reverse, List.reverse_append, trimStart_append, List.reverse_eq_nil_iff]
  split
  · rfl
  · rw [List.reverse_append, List.reverse_reverse]

theorem trimEnd_eq_nil_iff {cs : List Char} : trimEnd cs = [] ↔ cs.all isBlank = true := by
  rw [trimEnd_eq_reverse, List.reverse_eq_nil_iff, trimStart_eq_nil_iff, List.all_reverse]

theorem trimEnd_cons_congr {cs ds : List Char} (h : trimEnd cs = trimEnd ds) (c : Char) :
    trimEnd (c :: cs) = trimEnd (c :: ds) := by
  rw [← List.singleton_append, trimEnd_append, h, ← trimEnd_append, List.singleton_append]

theorem trim_blank_append {before : List Char} (h : before.all isBlank = true) (cs : List Char) :
    trim (before ++ cs) = trim cs := by
  rw [trim, trimStart_append, if_pos (trimStart_eq_nil_iff.mpr h), trim]

theorem trim_append_blank {after : List Char} (h : after.all isBlank = true) (cs : List Char) :
    trim (cs ++ after) = trim cs := by
  by_cases hcs : cs.all isBlank = true
  · rw [trim_blank_append hcs, trim_eq_nil_iff.mpr h, trim_eq_nil_iff.mpr hcs]
  · rw [trim, trimStart_append, if_neg (mt trimStart_eq_nil_iff.mp hcs), trimEnd_append,
      if_pos (trimEnd_eq_nil_iff.mpr h), trim]

theorem exists_eq_append_blank (cs : List Char) :
    ∃ after, after.all isBlank = true ∧ cs = trimEnd cs ++ after := by
  obtain ⟨before, hblank, hrev⟩ := exists_eq_blank_append cs.reverse
  refine ⟨before.reverse, by rwa [List.all_reverse], ?_⟩
  rw [trimEnd_eq_reverse, ← List.reverse_append, ← hrev, List.reverse_reverse]

/-- A text is what trimming leaves of it, with blanks around. -/
theorem exists_eq_append_trim (cs : List Char) :
    ∃ before after, before.all isBlank = true ∧ after.all isBlank = true ∧
      cs = before ++ (trim cs ++ after) := by
  obtain ⟨before, hbefore, hstart⟩ := exists_eq_blank_append cs
  obtain ⟨after, hafter, hend⟩ := exists_eq_append_blank (trimStart cs)
  refine ⟨before, after, hbefore, hafter, ?_⟩
  rw [trim, ← hend]
  exact hstart

theorem trim_trimEnd (cs : List Char) : trim (trimEnd cs) = trim cs := by
  obtain ⟨after, hafter, hend⟩ := exists_eq_append_blank cs
  rw [← trim_append_blank hafter, ← hend]

section Splitting

variable {p : Char → Bool} (hp : ∀ c, isBlank c = true → p c = false)

include hp

theorem map_trim_splitOnP_blank_append {before : List Char} (h : before.all isBlank = true)
    (cs : List Char) : ((before ++ cs).splitOnP p).map trim = (cs.splitOnP p).map trim := by
  induction before with
  | nil => rfl
  | cons c before ih =>
      rw [List.all_cons, Bool.and_eq_true] at h
      obtain ⟨first, rest, hsplit⟩ :=
        List.exists_cons_of_ne_nil (List.splitOnP_ne_nil p (before ++ cs))
      rw [← ih h.2, List.cons_append, List.splitOnP_cons_eq_if_modifyHead, hp c h.1,
        if_neg Bool.false_ne_true, hsplit, List.modifyHead_cons, List.map_cons, List.map_cons,
        trim_blank_cons h.1]

/-- The pieces are trimmed at their ends only. In the induction more stands in front of the first
piece, and what is trimmed at the front would not be known to stay so. -/
theorem map_trimEnd_splitOnP_append_blank {after : List Char} (h : after.all isBlank = true)
    (cs : List Char) :
    ((cs ++ after).splitOnP p).map trimEnd = (cs.splitOnP p).map trimEnd := by
  induction cs with
  | nil =>
      have hafter : ∀ c ∈ after, p c = false := fun c hc => hp c (List.all_eq_true.mp h c hc)
      rw [List.nil_append, List.splitOnP_eq_singleton hafter, List.splitOnP_nil, List.map_singleton,
        List.map_singleton, trimEnd_eq_nil_iff.mpr h, trimEnd_nil]
  | cons c cs ih =>
      rw [List.cons_append, List.splitOnP_cons_eq_if_modifyHead,
        List.splitOnP_cons_eq_if_modifyHead]
      split
      · rw [List.map_cons, List.map_cons, ih]
      · obtain ⟨first, rest, hsplit⟩ := List.exists_cons_of_ne_nil (List.splitOnP_ne_nil p cs)
        obtain ⟨first', rest', hsplit'⟩ :=
          List.exists_cons_of_ne_nil (List.splitOnP_ne_nil p (cs ++ after))
        rw [hsplit, hsplit', List.map_cons, List.map_cons, List.cons.injEq] at ih
        rw [hsplit, hsplit', List.modifyHead_cons, List.modifyHead_cons, List.map_cons,
          List.map_cons, ih.2, trimEnd_cons_congr ih.1]

/-- The pieces of a text, but for blanks around them, are those of what trimming leaves of it. -/
theorem map_trim_splitOnP_trim (cs : List Char) :
    ((trim cs).splitOnP p).map trim = (cs.splitOnP p).map trim := by
  obtain ⟨before, after, hbefore, hafter, hcs⟩ := exists_eq_append_trim cs
  have hends (pieces : List (List Char)) : pieces.map trim = (pieces.map trimEnd).map trim := by
    rw [List.map_map]
    exact List.map_congr_left fun piece _ => (trim_trimEnd piece).symm
  calc
    ((trim cs).splitOnP p).map trim = ((trim cs ++ after).splitOnP p).map trim := by
      rw [hends, hends (List.splitOnP p _), map_trimEnd_splitOnP_append_blank hp hafter]
    _ = (cs.splitOnP p).map trim := by
      rw [← map_trim_splitOnP_blank_append hp hbefore, ← hcs]

end Splitting

end TripQuery
