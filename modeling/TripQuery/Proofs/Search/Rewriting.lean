import TripQuery.Proofs.Search.Aim
import TripQuery.Proofs.Search.Assembly

namespace TripQuery

/-!
# Criteria in other words

The criterion of few transfers is another way to ask for the quickest journey at a higher penalty,
and weights alone are another way to ask for the triangle. A query in the other words makes the same
search, with the same notes, and fails in the same way.
-/

namespace Query

variable {q : Query} {now : Instant} {n : Nat} {c : Criterion}

/-- All three weights are given for search `n`. -/
def GivesWeights (q : Query) (n : Nat) : Prop :=
  ∀ p ∈ [Indexed.triangleSafetyFactor, .triangleSlopeFactor, .triangleTimeFactor],
    q.pick p n ≠ none

theorem givesWeights_iff : q.GivesWeights n ↔ ∃ a b t, q.givenWeights n = [a, b, t] := by
  simp only [GivesWeights, List.mem_cons, List.not_mem_nil, or_false, forall_eq_or_imp, forall_eq]
  constructor
  · rintro ⟨hsafety, hslope, htime⟩
    obtain ⟨a, ha⟩ := Option.ne_none_iff_exists'.mp hsafety
    obtain ⟨b, hb⟩ := Option.ne_none_iff_exists'.mp hslope
    obtain ⟨t, ht⟩ := Option.ne_none_iff_exists'.mp htime
    exact ⟨a, b, t, by simp [givenWeights, ha, hb, ht]⟩
  · rintro ⟨a, b, t, h⟩
    obtain ⟨ha, hb, ht⟩ := picks_of_three h
    simp [ha, hb, ht]

/-- Weights beside a criterion that has no use for them. -/
def unusedWeights : List Float → Except SearchFault Unit
  | [] => .ok ()
  | [_, _, _] => .error .weightsWithoutTriangle
  | _ => .error .weightsIncomplete

theorem unusedWeights_of_few {ws : List Float} (hsome : ws ≠ []) (hfew : ws.length < 3) :
    unusedWeights ws = .error .weightsIncomplete := by
  match ws with
  | [] => exact absurd rfl hsome
  | [_] => rfl
  | [_, _] => rfl
  | _ :: _ :: _ :: ws =>
      simp only [List.length_cons] at hfew
      omega

theorem aim_of_ne_triangle (hc : q.pick .optimize n = some c) (hne : c ≠ .triangle) :
    q.aim n = (unusedWeights (q.givenWeights n)).map fun _ => (c, none) := by
  rcases q.givenWeights_cases n with hnil | ⟨hsome, hfew⟩ | ⟨a, b, t, hthree⟩
  · rw [aim_of_nil hnil, hnil, hc]
    simp [hne, unusedWeights, Except.map]
  · rw [aim_of_few hsome hfew, unusedWeights_of_few hsome hfew]
    rfl
  · rw [aim_of_three hthree, hthree, hc]
    simp [hne, unusedWeights, Except.map]

theorem pick_of_aim_transfers {ws : Option Weights} (h : q.aim n = .ok (.transfers, ws)) :
    q.pick .optimize n = some .transfers := by
  rcases q.givenWeights_cases n with hnil | ⟨hsome, hfew⟩ | ⟨a, b, t, hthree⟩
  · rw [aim_of_nil hnil] at h
    split at h
    · cases h
    · cases hc : q.pick .optimize n with
      | none => rw [hc] at h; cases h
      | some c => rw [hc] at h; cases h; rfl
  · rw [aim_of_few hsome hfew] at h
    cases h
  · rw [aim_of_three hthree] at h
    split at h
    · split at h <;> cases h
    · cases h

section Optimize

variable (q) (n) (vs : List Criterion)

theorem pick_set_optimize {p : Indexed} (hp : .optimize ≠ p) :
    (q.set .optimize vs).pick p n = q.pick p n :=
  pick_set_of_ne (p := .optimize) q vs hp n

@[simp] theorem givenWeights_set_optimize :
    (q.set .optimize vs).givenWeights n = q.givenWeights n := by
  simp [givenWeights, pick_set_optimize]

@[simp] theorem instant_set_optimize :
    (q.set .optimize vs).instant now n = q.instant now n := by
  simp [instant, pick_set_optimize]

end Optimize

/-- Only the aim is made of the criterion. -/
theorem search_set_optimize {vs : List Criterion}
    (haim : (q.set .optimize vs).aim n = q.aim n) :
    (q.set .optimize vs).search now n = q.search now n := by
  refine search_congr (q.instant_set_optimize n vs) (assemble_congr haim ?_ ?_ ?_ ?_)
  · rw [pick_set_optimize _ _ _ (by decide)]
  · rw [pick_set_optimize _ _ _ (by decide)]
  · rw [pick_set_optimize _ _ _ (by decide)]
  · funext i aim preferred unpreferred banned
    simp [draft, pick_set_optimize]

/-- The query that asks for the quickest journey, with a penalty of its own. -/
def withPenalty (q : Query) (penalty : UInt32) : Query :=
  (q.set .optimize [.quick]).set .transferPenalty [penalty]

section Penalty

variable (q) (n) (penalty : UInt32)

theorem pick_withPenalty {p : Indexed} (hoptimize : .optimize ≠ p)
    (hpenalty : .transferPenalty ≠ p) : (q.withPenalty penalty).pick p n = q.pick p n := by
  rw [withPenalty, pick_set_of_ne _ _ hpenalty, pick_set_of_ne _ _ hoptimize]

@[simp] theorem pick_optimize_withPenalty :
    (q.withPenalty penalty).pick .optimize n = some .quick := by
  rw [withPenalty, pick_set_of_ne _ _ (by decide), pick_set_self, pick_singleton]

@[simp] theorem pick_transferPenalty_withPenalty :
    (q.withPenalty penalty).pick .transferPenalty n = some penalty := by
  rw [withPenalty, pick_set_self, pick_singleton]

@[simp] theorem givenWeights_withPenalty :
    (q.withPenalty penalty).givenWeights n = q.givenWeights n := by
  simp [givenWeights, pick_withPenalty]

theorem instant_withPenalty : (q.withPenalty penalty).instant now n = q.instant now n := by
  simp [instant, pick_withPenalty]

/-- The penalty is raised either way, beforehand or as the search is drafted. -/
theorem draft_withPenalty (i : Instant) :
    (q.withPenalty (addSaturating ((q.pick .transferPenalty n).getD 0) legacyPenalty)).draft n i
        (.quick, none) =
      q.draft n i (.transfers, none) := by
  have hplaces (penalty : UInt32) : (q.withPenalty penalty).passedPlaces = q.passedPlaces := rfl
  have hordered (penalty : UInt32) : (q.withPenalty penalty).placesOrdered = q.placesOrdered := rfl
  have hbatch (penalty : UInt32) : (q.withPenalty penalty).batch = q.batch := rfl
  funext preferred unpreferred banned
  simp only [draft, pick_withPenalty, pick_transferPenalty_withPenalty, hplaces, hordered, hbatch,
    ne_eq, reduceCtorEq, not_false_eq_true, if_true, if_false, Option.getD_some]

end Penalty

theorem search_of_transfers (hc : q.pick .optimize n = some .transfers) (now : Instant) :
    q.search now n =
      (q.withPenalty
        (addSaturating ((q.pick .transferPenalty n).getD 0) legacyPenalty)).search now n := by
  have htransfers := aim_of_ne_triangle hc Criterion.noConfusion
  have hquick (penalty : UInt32) :
      (q.withPenalty penalty).aim n =
        (unusedWeights (q.givenWeights n)).map fun _ => (.quick, none) := by
    have haim := aim_of_ne_triangle (q.pick_optimize_withPenalty n penalty) Criterion.noConfusion
    rwa [givenWeights_withPenalty] at haim
  refine search_congr (q.instant_withPenalty n _).symm
    (assemble_congr_of_aim htransfers (hquick _) ?_ ?_ ?_ fun _ i => (q.draft_withPenalty n i).symm)
  · rw [pick_withPenalty _ _ _ (by decide) (by decide)]
  · rw [pick_withPenalty _ _ _ (by decide) (by decide)]
  · rw [pick_withPenalty _ _ _ (by decide) (by decide)]

theorem search_of_weights (hc : q.pick .optimize n = none) (hweights : q.GivesWeights n)
    (now : Instant) : q.search now n = (q.set .optimize [.triangle]).search now n := by
  obtain ⟨a, b, t, hthree⟩ := givesWeights_iff.mp hweights
  have hgiven : (q.set .optimize [.triangle]).givenWeights n = [a, b, t] := by
    rw [givenWeights_set_optimize, hthree]
  have hpick : (q.set .optimize [.triangle]).pick .optimize n = some .triangle := by
    rw [pick_set_self, pick_singleton]
  refine (search_set_optimize ?_).symm
  rw [aim_of_three hgiven, aim_of_three hthree, if_pos (Or.inr hpick), if_pos (Or.inl hc)]

theorem transferPenalty_of_search (hc : q.pick .optimize n ≠ some .transfers) {s : Search}
    (hs : (q.search now n).outcome = .ok s) :
    s.transferPenalty = (q.pick .transferPenalty n).getD 0 := by
  obtain ⟨i, -, hassemble⟩ := search_eq_ok_iff.mp hs
  obtain ⟨⟨c, ws⟩, preferred, unpreferred, banned, haim, -, -, -, rfl, -⟩ :=
    assemble_eq_ok_iff.mp hassemble
  refine if_neg ?_
  rintro rfl
  exact hc (pick_of_aim_transfers haim)

/-- The criterion of few transfers makes the search that the quickest journey makes with a penalty
1800 higher, up to the largest there is. Weights without a criterion make the search that they make
with the triangle. With any other criterion, and with none, the penalty is the one given. -/
theorem search_in_other_words (q : Query) (now : Instant) (n : Nat) :
    let penalty := (q.pick .transferPenalty n).getD 0
    (q.pick .optimize n = some .transfers →
      q.search now n =
        ((q.set .optimize [.quick]).set .transferPenalty
          [UInt32.ofNat (min (penalty.toNat + 1800) 4294967295)]).search now n) ∧
    (q.pick .optimize n = none → q.GivesWeights n →
      q.search now n = (q.set .optimize [.triangle]).search now n) ∧
    (q.pick .optimize n ≠ some .transfers →
      ∀ s, (q.search now n).outcome = .ok s → s.transferPenalty = penalty) :=
  ⟨fun hc => search_of_transfers hc now, fun hc hweights => search_of_weights hc hweights now,
    fun hc _ => transferPenalty_of_search hc⟩

set_option maxRecDepth 2048 in
/-- A penalty near the largest there is, and weights with a penalty of their own. -/
theorem largest_penalty_in_other_words :
    ∃ (few weighed : Query) (s t : Search),
      few.pick .optimize 3 = some .transfers ∧ few.pick .transferPenalty 3 = some 4294966000 ∧
        (few.search .quarterToNine 3).outcome = .ok s ∧ s.transferPenalty = 4294967295 ∧
          (((few.set .optimize [.quick]).set .transferPenalty [4294967295]).search
            .quarterToNine 3).outcome = .ok s ∧
      weighed.pick .optimize 3 = none ∧ weighed.GivesWeights 3 ∧
        (weighed.search .quarterToNine 3).outcome = .ok t ∧ t.transferPenalty = 7 ∧
          ((weighed.set .optimize [.triangle]).search .quarterToNine 3).outcome = .ok t := by
  let few := (empty.set .optimize [.safe, .transfers]).set .transferPenalty [0, 4294966000]
  let weighed := (((empty.set .triangleSafetyFactor [0.1]).set .triangleSlopeFactor [0.2]).set
    .triangleTimeFactor [0.7]).set .transferPenalty [7]
  let s := { Search.standard .quarterToNine with transferPenalty := 4294967295 }
  let t := weighed.draft 3 .quarterToNine (.triangle, some ⟨0.1, 0.2, 0.7⟩) [] [] []
  have hs : (few.search .quarterToNine 3).outcome = .ok s := rfl
  have ht : (weighed.search .quarterToNine 3).outcome = .ok t := rfl
  have hweights : weighed.GivesWeights 3 := givesWeights_iff.mpr ⟨0.1, 0.2, 0.7, rfl⟩
  have hfew := (search_in_other_words few .quarterToNine 3).1 rfl
  obtain ⟨-, htriangle, hpenalty⟩ := search_in_other_words weighed .quarterToNine 3
  have hnone : weighed.pick .optimize 3 = none := rfl
  have hother : weighed.pick .optimize 3 ≠ some .transfers := by simp [hnone]
  refine ⟨few, weighed, s, t, rfl, rfl, hs, rfl, ?_, hnone, hweights, ht, hpenalty hother t ht, ?_⟩
  · exact (congrArg Recorded.outcome hfew).symm.trans hs
  · exact (congrArg Recorded.outcome (htriangle hnone hweights)).symm.trans ht

end Query

end TripQuery
