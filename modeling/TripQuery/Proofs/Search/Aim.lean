import Mathlib.Data.List.Basic
import TripQuery.Search.Resolution
import TripQuery.Proofs.Sequencing

namespace TripQuery

/-!
# Criterion and weights

How many of the three weights are given decides what becomes of the criterion: without any it holds
as it is, and with all of them it is the triangle. A criterion and weights that were resolved agree,
and they are resolved to themselves.
-/

/-- A criterion and the weights that go with it. -/
def Criterion.Fits (c : Criterion) : Option Weights → Prop
  | none => c ≠ .triangle
  | some w => c = .triangle ∧ w.check = .ok w

namespace Query

variable {q : Query} {n : Nat} {c : Criterion} {ws : Option Weights}

/-- The weights given for search `n`, of safety, slope and time in this order. -/
def givenWeights (q : Query) (n : Nat) : List Float :=
  [q.pick .triangleSafetyFactor n, q.pick .triangleSlopeFactor n,
    q.pick .triangleTimeFactor n].filterMap id

theorem givenWeights_cases (q : Query) (n : Nat) :
    q.givenWeights n = [] ∨ (q.givenWeights n ≠ [] ∧ (q.givenWeights n).length < 3) ∨
      ∃ a b t, q.givenWeights n = [a, b, t] := by
  have hlength : (q.givenWeights n).length ≤ 3 := List.length_filterMap_le _ _
  by_cases hnil : q.givenWeights n = []
  · exact Or.inl hnil
  · by_cases hfew : (q.givenWeights n).length < 3
    · exact Or.inr (Or.inl ⟨hnil, hfew⟩)
    · exact Or.inr (Or.inr (List.length_eq_three.mp (by omega)))

theorem aim_of_nil (h : q.givenWeights n = []) :
    q.aim n =
      if q.pick .optimize n = some .triangle then .error .triangleWithoutWeights
      else .ok ((q.pick .optimize n).getD .standard, none) := by
  simp only [givenWeights, List.filterMap_eq_nil_iff, List.mem_cons, List.not_mem_nil, or_false,
    forall_eq_or_imp, forall_eq, id] at h
  obtain ⟨hsafety, hslope, htime⟩ := h
  simp only [aim, hsafety, hslope, htime]

theorem aim_of_few (hsome : q.givenWeights n ≠ []) (hfew : (q.givenWeights n).length < 3) :
    q.aim n = .error .weightsIncomplete := by
  unfold givenWeights at hsome hfew
  unfold aim
  cases hsafety : q.pick .triangleSafetyFactor n <;>
    cases hslope : q.pick .triangleSlopeFactor n <;>
      cases htime : q.pick .triangleTimeFactor n <;>
        simp [hsafety, hslope, htime] at hsome hfew ⊢

theorem picks_of_three {a b t : Float} (h : q.givenWeights n = [a, b, t]) :
    q.pick .triangleSafetyFactor n = some a ∧ q.pick .triangleSlopeFactor n = some b ∧
      q.pick .triangleTimeFactor n = some t := by
  unfold givenWeights at h
  cases hsafety : q.pick .triangleSafetyFactor n <;>
    cases hslope : q.pick .triangleSlopeFactor n <;>
      cases htime : q.pick .triangleTimeFactor n <;>
        simp [hsafety, hslope, htime] at h
  obtain ⟨rfl, rfl, rfl⟩ := h
  exact ⟨rfl, rfl, rfl⟩

theorem aim_of_three {a b t : Float} (h : q.givenWeights n = [a, b, t]) :
    q.aim n =
      if q.pick .optimize n = none ∨ q.pick .optimize n = some .triangle then
        match (Weights.mk a b t).check with
        | .ok w => .ok (.triangle, some w)
        | .error sum => .error (.weightsNotAffine sum)
      else .error .weightsWithoutTriangle := by
  obtain ⟨hsafety, hslope, htime⟩ := picks_of_three h
  unfold aim
  generalize q.pick .triangleSafetyFactor n = safety at hsafety ⊢
  generalize q.pick .triangleSlopeFactor n = slope at hslope ⊢
  generalize q.pick .triangleTimeFactor n = time at htime ⊢
  subst hsafety hslope htime
  rfl

/-- Either no weights are given, or all of them are and become those of the search. -/
theorem cases_of_aim (h : q.aim n = .ok (c, ws)) :
    (ws = none ∧ c ≠ .triangle) ∨
      ∃ w, ws = some w ∧ q.givenWeights n = [w.safety, w.slope, w.time] ∧
        c = .triangle ∧ w.check = .ok w := by
  rcases q.givenWeights_cases n with hnil | ⟨hsome, hfew⟩ | ⟨a, b, t, hthree⟩
  · rw [aim_of_nil hnil] at h
    split at h
    · cases h
    · next hc =>
        cases h
        refine Or.inl ⟨rfl, fun htriangle => ?_⟩
        cases hpick : q.pick .optimize n with
        | none =>
            rw [hpick] at htriangle
            cases htriangle
        | some d =>
            rw [hpick] at htriangle hc
            exact hc (congrArg some htriangle)
  · rw [aim_of_few hsome hfew] at h
    cases h
  · rw [aim_of_three hthree] at h
    split at h
    · split at h
      · next w hw =>
          cases h
          obtain ⟨rfl, -⟩ := Weights.check_eq_ok_iff.mp hw
          exact Or.inr ⟨_, rfl, hthree, rfl, hw⟩
      · cases h
    · cases h

theorem fits_of_aim (h : q.aim n = .ok (c, ws)) : c.Fits ws := by
  rcases cases_of_aim h with ⟨rfl, hc⟩ | ⟨w, rfl, -, hfits⟩
  · exact hc
  · exact hfits

theorem givenWeights_of_aim {w : Weights} (h : q.aim n = .ok (c, some w)) :
    q.givenWeights n = [w.safety, w.slope, w.time] := by
  rcases cases_of_aim h with ⟨hnone, -⟩ | ⟨v, hsome, hgiven, -⟩
  · cases hnone
  · cases hsome
    exact hgiven

/-- What fits together and is given again is resolved to itself. -/
theorem aim_of_fits (h : c.Fits ws) (hc : q.pick .optimize n = some c)
    (hsafety : q.pick .triangleSafetyFactor n = ws.map Weights.safety)
    (hslope : q.pick .triangleSlopeFactor n = ws.map Weights.slope)
    (htime : q.pick .triangleTimeFactor n = ws.map Weights.time) : q.aim n = .ok (c, ws) := by
  cases ws with
  | none =>
      have hgiven : q.givenWeights n = [] := by
        simp [givenWeights, hsafety, hslope, htime]
      have hne : some c ≠ some .triangle := fun heq => h (Option.some.inj heq)
      rw [aim_of_nil hgiven, hc, if_neg hne, Option.getD_some]
  | some w =>
      obtain ⟨rfl, hcheck⟩ := h
      have hgiven : q.givenWeights n = [w.safety, w.slope, w.time] := by
        simp [givenWeights, hsafety, hslope, htime]
      rw [aim_of_three hgiven, if_pos (Or.inr hc), hcheck]

end Query

end TripQuery
