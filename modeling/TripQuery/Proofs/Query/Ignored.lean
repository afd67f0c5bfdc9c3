import TripQuery.Proofs.Journal
import TripQuery.Proofs.Query.Decoding

namespace TripQuery

/-!
# What decoding notes

Decoding notes the pairs under unknown names, in order, up to the pair that it cannot read.
-/

/-- The notes of the pairs under unknown names, in order. -/
def ignoredNotes : List (String × String) → List Event
  | [] => []
  | (name, _) :: pairs =>
      if name ∈ Param.all.map Param.name then ignoredNotes pairs
      else .ignoredParameter name :: ignoredNotes pairs

@[simp] theorem ignoredNotes_nil : ignoredNotes [] = [] := rfl

theorem ignoredNotes_cons_known (p : Param) (text : String) (pairs : List (String × String)) :
    ignoredNotes ((p.name, text) :: pairs) = ignoredNotes pairs :=
  if_pos (List.mem_map_of_mem p.mem_all)

theorem ignoredNotes_cons_unknown {name : String} (h : Param.ofName? name = none) (text : String)
    (pairs : List (String × String)) :
    ignoredNotes ((name, text) :: pairs) = .ignoredParameter name :: ignoredNotes pairs := by
  refine if_neg fun hmem => ?_
  obtain ⟨p, -, hp⟩ := List.mem_map.mp hmem
  exact Param.name_ne_of_ofName? h p hp.symm

namespace Query

variable {pairs before : List (String × String)}

theorem flatMap_events_readPair (pairs : List (String × String)) :
    (pairs.flatMap fun pair => (readPair pair).events) = ignoredNotes pairs := by
  induction pairs with
  | nil => rfl
  | cons pair pairs ih =>
      obtain ⟨name, text⟩ := pair
      rw [List.flatMap_cons, ih]
      cases hname : Param.ofName? name with
      | none =>
          rw [readPair_unknown hname, ignoredNotes_cons_unknown hname, List.singleton_append]
      | some p =>
          have hp := Param.name_of_ofName? hname
          subst hp
          rw [readPair_name, ignoredNotes_cons_known, List.nil_append]

theorem events_decode (pairs : List (String × String)) :
    (decode pairs).events = (pairs.mapM readPair).events := by
  rw [decode, Recorded.events_bind]
  cases (pairs.mapM readPair).outcome <;> simp

theorem events_decode_of_ok {q : Query} (h : (decode pairs).outcome = .ok q) :
    (decode pairs).events = ignoredNotes pairs := by
  have hread := exists_outcome_readPair_forall_iff.mpr (exists_decode_iff.mp ⟨q, h⟩)
  rw [events_decode, Recorded.events_mapM_of_ok hread, flatMap_events_readPair]

/-- The pair that cannot be read stands under a known name, and leaves no note itself. -/
theorem events_decode_of_error {p : Param} {text : String} {cause : ValueCause}
    (hbefore : ∀ (r : Param) (t : String), (r.name, t) ∈ before → ∃ v, r.kind.Denotes t v)
    (htext : p.kind.read text = .error cause) (after : List (String × String)) :
    (decode (before ++ (p.name, text) :: after)).events = ignoredNotes before := by
  have hpair : (readPair (p.name, text)).outcome = .error ⟨p.name, text, cause⟩ :=
    outcome_readPair_eq_error_iff.mpr ⟨p, rfl, rfl, rfl, htext⟩
  rw [events_decode,
    Recorded.events_mapM_of_error (exists_outcome_readPair_forall_iff.mpr hbefore) hpair,
    flatMap_events_readPair, readPair_name, List.append_nil]

end Query

end TripQuery
