import TripQuery.Proofs.Calendar.Reading
import TripQuery.Proofs.ModeText
import TripQuery.Proofs.Query.Decoding
import TripQuery.Proofs.RouteText
import TripQuery.Proofs.Search.Aim
import TripQuery.Proofs.Search.Assembly

namespace TripQuery

/-!
# What resolved searches have in common

Resolving replaces what is only accepted in queries: the criterion of few transfers, the one empty
place, a triangle that is implied by its weights. A resolved search has none of it, and its modes
and routes have texts that can be read.
-/

/-- What holds of every search that a decoded query resolves to, at the offset of its clock. -/
structure Search.IsResolved (s : Search) (offset : Offset) : Prop where
  offset : s.instant.offset = offset
  criterion : s.criterion ≠ .transfers
  fits : s.criterion.Fits s.weights
  modes : s.modes.members ≠ []
  places : s.places ≠ [""]
  preferred : ∀ r ∈ s.preferred, r.IsListed
  unpreferred : ∀ r ∈ s.unpreferred, r.IsListed
  banned : ∀ r ∈ s.banned, r.IsListed
  ordersTransit : s.ordersTransit = false

namespace Query

variable {pairs : List (String × String)} {q : Query} {now i : Instant} {n : Nat} {s : Search}

theorem members_ne_nil_of_decode (h : (decode pairs).outcome = .ok q) (n : Nat) :
    ((q.pick .mode n).getD ModeSet.standard).members ≠ [] := by
  cases hpick : q.pick .mode n with
  | none => exact ModeSet.members_standard_ne_nil
  | some modes =>
      obtain ⟨text, -, hread⟩ :=
        exists_of_mem_forall₂ (values_of_decode h .mode) (mem_of_pick hpick)
      exact ModeSet.members_ne_nil_of_read hread

theorem isListed_of_routes {text : Option String} {rs : List Route} (h : routes text = .ok rs) :
    ∀ r ∈ rs, r.IsListed := by
  cases text with
  | none =>
      cases h
      simp
  | some s => exact Route.isListed_of_readList (mapError_eq_ok_iff.mp h)

theorem passedPlaces_ne (q : Query) : q.passedPlaces ≠ [""] := by
  unfold passedPlaces
  split
  · simp
  · assumption

theorem instant_eq_ok (h : (q.instant now n).outcome = .ok i) :
    (∃ time, Instant.read now.offset time = .ok i) ∨
      ∃ date time, Instant.combine date time now = .ok i := by
  unfold instant at h
  split at h
  · next time _ _ =>
      rw [Recorded.outcome_bind, Recorded.outcome_note] at h
      cases hread : Instant.read now.offset time with
      | ok j =>
          simp only [hread] at h
          cases h
          exact Or.inl ⟨time, hread⟩
      | error e =>
          simp only [hread] at h
          exact Or.inr ⟨_, _, h⟩
  · exact Or.inr ⟨_, _, h⟩

theorem offset_of_instant (h : (q.instant now n).outcome = .ok i) : i.offset = now.offset := by
  rcases instant_eq_ok h with ⟨time, hread⟩ | ⟨date, time, hcombine⟩
  · exact Instant.offset_of_read hread
  · exact (Instant.combine_eq_ok hcombine).1

/-- With a clock whose leap seconds end minutes, so do those of the instants resolved. -/
theorem isRegular_of_instant (h : (q.instant now n).outcome = .ok i)
    (hoffset : now.offset.seconds % 60 = 0) (hnow : now.wall.time.IsRegular) :
    i.wall.time.IsRegular := by
  rcases instant_eq_ok h with ⟨time, hread⟩ | ⟨date, time, hcombine⟩
  · exact Instant.isRegular_of_read hread hoffset
  · exact Instant.isRegular_of_combine hcombine hnow

theorem instant_of_search (h : (q.search now n).outcome = .ok s) :
    (q.instant now n).outcome = .ok s.instant := by
  obtain ⟨i, hi, hs⟩ := search_eq_ok_iff.mp h
  obtain ⟨aim, preferred, unpreferred, banned, -, -, -, -, rfl, -⟩ := assemble_eq_ok_iff.mp hs
  exact hi

theorem isResolved_of_search (hq : (decode pairs).outcome = .ok q)
    (hs : (q.search now n).outcome = .ok s) : s.IsResolved now.offset := by
  obtain ⟨i, hi, hs⟩ := search_eq_ok_iff.mp hs
  obtain ⟨⟨c, ws⟩, preferred, unpreferred, banned, haim, hpreferred, hunpreferred, hbanned, rfl,
    htransit⟩ := assemble_eq_ok_iff.mp hs
  have hfits := fits_of_aim haim
  refine ⟨offset_of_instant hi, ?_, ?_, members_ne_nil_of_decode hq n, q.passedPlaces_ne,
    isListed_of_routes hpreferred, isListed_of_routes hunpreferred, isListed_of_routes hbanned,
    htransit⟩
  · change (if c = .transfers then Criterion.quick else c) ≠ .transfers
    split
    · exact Criterion.noConfusion
    · assumption
  · change Criterion.Fits (if c = .transfers then .quick else c) ws
    split
    · next hc =>
        subst hc
        cases ws with
        | none => exact Criterion.noConfusion
        | some w => cases hfits.1
    · exact hfits

end Query

end TripQuery
