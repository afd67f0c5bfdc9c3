import TripQuery.Proofs.Search.Assembly

namespace TripQuery

/-!
# Searches of one query

The searches of a query are made side by side, each of its own values. What the lists hold at other
places bears on no search, and a query cut down to the values of one search makes that search alone.
-/

/-- A list that differs only where nothing is picked picks the same. -/
theorem pick_congr {α : Type} {vs ws : List α} {n : Nat} (hlength : ws.length = vs.length)
    (hother : ∀ i, ws[i]? ≠ vs[i]? → i ≠ min n (vs.length - 1)) : pick ws n = pick vs n := by
  rw [pick, pick, hlength]
  apply Classical.byContradiction
  intro hne
  exact hother _ hne rfl

namespace Query

variable {q r : Query} {n m : Nat}

/-- The query that keeps of each parameter the value for search `n`. -/
def only (q : Query) (n : Nat) : Query where
  values p := (q.pick p n).toList
  places := q.places
  placesOrdered := q.placesOrdered
  batch := q.batch

theorem sameAt_only (q : Query) (n m : Nat) : (q.only n).SameAt m q n where
  pick p := pick_toList (q.pick p n) m
  places := rfl
  placesOrdered := rfl
  batch := rfl

/-- Two queries that share what holds for all searches, and whose lists differ only where search
`n` does not look. -/
structure DiffersBeside (q : Query) (n : Nat) (r : Query) : Prop where
  length : ∀ p, (r.values p).length = (q.values p).length
  beside : ∀ p i, (r.values p)[i]? ≠ (q.values p)[i]? → i ≠ min n ((q.values p).length - 1)
  places : r.places = q.places
  placesOrdered : r.placesOrdered = q.placesOrdered
  batch : r.batch = q.batch

theorem DiffersBeside.sameAt (h : q.DiffersBeside n r) : r.SameAt n q n where
  pick p := pick_congr (h.length p) (h.beside p)
  places := h.places
  placesOrdered := h.placesOrdered
  batch := h.batch

/-- Of two searches for the same place, what is noted is the same too. -/
theorem SameAt.search (h : q.SameAt n r n) (now : Instant) : q.search now n = r.search now n :=
  search_congr (h.instant now) h.assemble

/-- A search has the outcome of any search that is given the same values, wherever they stand in
their lists: that of the query with its own values only, and that of any query with other values
for other searches. -/
theorem search_depends_on_own_values (h : q.SameAt n r m) (now : Instant) :
    (q.search now n).outcome = (r.search now m).outcome ∧
      (q.search now n).outcome = ((q.only n).search now 0).outcome ∧
        ∀ others, q.DiffersBeside n others → others.search now n = q.search now n :=
  ⟨h.outcome_search now, ((q.sameAt_only n 0).outcome_search now).symm,
    fun _ hothers => hothers.sameAt.search now⟩

set_option maxRecDepth 2048 in
/-- A search past the end of every list has its twin in the first of a query whose second fails. -/
theorem search_past_the_end_depends_on_own_values :
    ∃ (q r : Query) (s : Search), q.SameAt 9 r 0 ∧
      (q.search .quarterToNine 9).outcome = .ok s ∧ s.transferPenalty = 1900 ∧
        (r.search .quarterToNine 0).outcome = .ok s ∧
          ((q.only 9).search .quarterToNine 0).outcome = .ok s ∧
            (r.search .quarterToNine 1).outcome = .error .triangleWithoutWeights := by
  let q := ((empty.set .optimize [.safe, .transfers]).set .arriveBy [false, true]).set
    .transferPenalty [100]
  let r := ((empty.set .optimize [.transfers, .triangle]).set .arriveBy [true]).set
    .transferPenalty [100, 7, 8]
  let s := { Search.standard .quarterToNine with arriveBy := true, transferPenalty := 1900 }
  have hsame : q.SameAt 9 r 0 := ⟨fun p => by cases p <;> rfl, rfl, rfl, rfl⟩
  have hassemble : q.assemble 9 .quarterToNine = .ok s := rfl
  have hs : (q.search .quarterToNine 9).outcome = .ok s :=
    search_eq_ok_iff.mpr ⟨.quarterToNine, rfl, hassemble⟩
  have hfault : (r.search .quarterToNine 1).outcome = .error .triangleWithoutWeights := rfl
  obtain ⟨hother, honly, -⟩ := search_depends_on_own_values hsame .quarterToNine
  rw [hs] at hother honly
  exact ⟨q, r, s, hsame, hs, rfl, hother.symm, honly.symm, hfault⟩

end Query

end TripQuery
