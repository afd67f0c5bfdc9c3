import Mathlib.Data.List.Basic
import TripQuery.Proofs.Journal
import TripQuery.Proofs.Search.Counting

namespace TripQuery

/-!
# What searches note

A search notes that its time is tried as a timestamp, where it is, and what it has become, once it
is resolved. The searches of a query do so in order, and none is begun after the first that fails.
-/

namespace Query

/-- A time is tried as a timestamp when there is no date beside it. -/
def timestampNotes (q : Query) (n : Nat) : List Event :=
  match nonBlank (q.pick .date n), nonBlank (q.pick .time n) with
  | none, some time => [.readingTimestamp time]
  | _, _ => []

/-- The notes of the first searches of a query, when these were found. -/
def foundNotes (q : Query) (found : List Search) : List Event :=
  found.zipIdx.flatMap fun (s, n) =>
    q.timestampNotes n ++ [.resolvedSearch n s.criterion s.modes s.instant]

variable {q : Query} {now : Instant} {n k : Nat} {s : Search} {found : List Search}
variable {fault : SearchFault}

theorem events_instant (q : Query) (now : Instant) (n : Nat) :
    (q.instant now n).events = q.timestampNotes n := by
  rw [instant, timestampNotes]
  cases nonBlank (q.pick .date n) with
  | some date => rfl
  | none =>
      cases nonBlank (q.pick .time n) with
      | none => rfl
      | some time =>
          simp only [Recorded.bind_of_ok (Recorded.outcome_note _), Recorded.events_note]
          cases Instant.read now.offset time <;> rfl

theorem events_search_of_ok (h : (q.search now n).outcome = .ok s) :
    (q.search now n).events =
      q.timestampNotes n ++ [.resolvedSearch n s.criterion s.modes s.instant] := by
  obtain ⟨i, hi, hs⟩ := search_eq_ok_iff.mp h
  have hinstant := Recorded.outcome_mapFault_of_ok hi SearchFault.temporal
  have hassemble : (Recorded.ofExcept (ω := Event) (q.assemble n i)).outcome = .ok s := hs
  rw [search, Recorded.bind_of_ok hinstant, Recorded.bind_of_ok hassemble,
    Recorded.bind_of_ok (Recorded.outcome_note _), Recorded.events_mapFault, events_instant]
  rfl

/-- What fails a search, fails it before it is noted as resolved. -/
theorem events_search_of_error (h : (q.search now n).outcome = .error fault) :
    (q.search now n).events = q.timestampNotes n := by
  rw [search]
  cases hi : (q.instant now n).outcome with
  | error cause =>
      have hinstant := Recorded.outcome_mapFault_of_error hi SearchFault.temporal
      rw [Recorded.bind_of_error hinstant, Recorded.events_mapFault, events_instant]
  | ok i =>
      have hinstant := Recorded.outcome_mapFault_of_ok hi SearchFault.temporal
      have hassemble : (Recorded.ofExcept (ω := Event) (q.assemble n i)).outcome =
          .error fault := by
        cases hs : q.assemble n i with
        | error e =>
            rw [search, Recorded.bind_of_ok hinstant, hs] at h
            exact h
        | ok s =>
            have hok : (q.search now n).outcome = .ok s := search_eq_ok_iff.mpr ⟨i, hi, hs⟩
            rw [h] at hok
            cases hok
      rw [Recorded.bind_of_ok hinstant, Recorded.bind_of_error hassemble,
        Recorded.events_mapFault, events_instant, Recorded.events_ofExcept, List.append_nil]

theorem flatMap_events_search
    (hfound : ∀ n (h : n < found.length), (q.search now n).outcome = .ok found[n]) :
    ((List.range found.length).flatMap fun n => (q.search now n).events) = q.foundNotes found := by
  have hrange : found.zipIdx.map Prod.snd = List.range found.length := by
    rw [List.zipIdx_map_snd, List.range_eq_range']
  rw [← hrange, List.flatMap_map, foundNotes]
  refine List.flatMap_congr fun ⟨s, n⟩ hmem => ?_
  obtain ⟨hn, hs⟩ := List.mem_zipIdx' hmem
  have hget := hfound n hn
  rw [← hs] at hget
  exact events_search_of_ok hget

theorem events_searches_of_ok (h : (q.searches now).outcome = .ok found) :
    (q.searches now).events = q.foundNotes found := by
  obtain ⟨hlength, hfound⟩ := searches_eq_ok_iff.mp h
  rw [searches, ← hlength, ← flatMap_events_search hfound]
  exact Recorded.events_mapM_of_ok fun n hn => ⟨_, hfound n (List.mem_range.mp hn)⟩

/-- The searches in front of the first that fails were found, and the rest leaves no notes. -/
theorem events_searches_of_error (h : (q.searches now).outcome = .error fault) :
    ∃ found : List Search, found.length < q.count ∧
      (∀ n (h : n < found.length), (q.search now n).outcome = .ok found[n]) ∧
        (q.search now found.length).outcome = .error fault ∧
          (q.searches now).events = q.foundNotes found ++ q.timestampNotes found.length := by
  obtain ⟨k, hk, hfault, hbefore⟩ := searches_eq_error_iff.mp h
  obtain ⟨found, hall⟩ := exists_mapM_range_iff.mpr hbefore
  obtain ⟨rfl, hfound⟩ := mapM_range_eq_ok_iff.mp hall
  refine ⟨found, hk, hfound, hfault, ?_⟩
  rw [searches, Recorded.events_mapM_range_of_error hk hbefore hfault,
    flatMap_events_search hfound, events_search_of_error hfault]

end Query

end TripQuery
