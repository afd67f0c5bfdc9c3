import TripQuery.Proofs.Calendar.Reading
import TripQuery.Proofs.Query.Respelling
import TripQuery.Proofs.RouteText
import TripQuery.Proofs.Search.Assembly

namespace TripQuery

/-!
# Searches in another spelling

Every reader of a text trims it first. So a search is the same in every spelling of its query, and
if there is none, the fault has the same cause.
-/

section Options

variable {α β : Type} {R : α → β → Prop}

theorem rel_getElem? {as : List α} {bs : List β} (h : List.Forall₂ R as bs) (i : Nat) :
    Option.Rel R as[i]? bs[i]? := by
  induction h generalizing i with
  | nil => exact .none
  | cons hab _ ih =>
      cases i with
      | zero => exact .some hab
      | succ i => exact ih i

theorem rel_pick {as : List α} {bs : List β} (h : List.Forall₂ R as bs) (n : Nat) :
    Option.Rel R (pick as n) (pick bs n) := by
  rw [pick, pick, h.length_eq]
  exact rel_getElem? h _

theorem eq_of_rel {R : α → α → Prop} (hR : ∀ {a b}, R a b → a = b) {a b : Option α}
    (h : Option.Rel R a b) : a = b := by
  cases h with
  | none => rfl
  | some hab => rw [hR hab]

end Options

theorem rel_nonBlank {a b : Option String} (h : Option.Rel SameTrimmed a b) :
    Option.Rel SameTrimmed (nonBlank a) (nonBlank b) := by
  cases h with
  | none => exact .none
  | some hst =>
      simp only [nonBlank, Option.filter, hst.isBlankText_eq]
      split
      · exact .some hst
      · exact .none

theorem Query.routes_congr {a b : Option String} (h : Option.Rel SameTrimmed a b) :
    routes a = routes b := by
  cases h with
  | none => rfl
  | some hst => rw [routes, routes, Route.readList_congr hst]

namespace Query.Alike

variable {q r : Query}

theorem rel (h : q.Alike r) (p : Indexed) (n : Nat) :
    Option.Rel (Param.indexed p).Alike (q.pick p n) (r.pick p n) :=
  rel_pick (h.values p) n

theorem pick_eq (h : q.Alike r) {p : Indexed} (hp : p.isReadLate = false) (n : Nat) :
    q.pick p n = r.pick p n := by
  have hkind : (Param.indexed p).isVerbatim = true ∨ p.kind ≠ .text := by
    revert hp
    cases p <;> decide
  exact eq_of_rel (fun hvw => Param.eq_of_alike (p := .indexed p) hkind hvw) (h.rel p n)

theorem assemble (h : q.Alike r) (n : Nat) : q.assemble n = r.assemble n :=
  assemble_congr_of_pick (fun _ hp => h.pick_eq hp n) (routes_congr (h.rel .preferredRoutes n))
    (routes_congr (h.rel .unpreferredRoutes n)) (routes_congr (h.rel .bannedRoutes n)) h.places
    h.placesOrdered h.batch

theorem instant (h : q.Alike r) (now : Instant) (n : Nat) :
    (q.instant now n).outcome.mapError TemporalFault.cause =
      (r.instant now n).outcome.mapError TemporalFault.cause := by
  have hdate : Option.Rel SameTrimmed (nonBlank (q.pick .date n)) (nonBlank (r.pick .date n)) :=
    rel_nonBlank (h.rel .date n)
  have htime : Option.Rel SameTrimmed (nonBlank (q.pick .time n)) (nonBlank (r.pick .time n)) :=
    rel_nonBlank (h.rel .time n)
  unfold Query.instant
  generalize nonBlank (q.pick .date n) = date at hdate ⊢
  generalize nonBlank (r.pick .date n) = date' at hdate ⊢
  generalize nonBlank (q.pick .time n) = time at htime ⊢
  generalize nonBlank (r.pick .time n) = time' at htime ⊢
  cases hdate with
  | some hd => exact Instant.combine_congr (.some hd) htime now
  | none =>
      cases htime with
      | none => rfl
      | @some s t ht =>
          simp only [Recorded.outcome_bind, Recorded.outcome_note, Instant.read_congr ht]
          cases Instant.read now.offset t with
          | ok i => rfl
          | error e => exact Instant.combine_congr .none (.some ht) now

theorem search (h : q.Alike r) (now : Instant) (n : Nat) :
    (∃ s, (q.search now n).outcome = .ok s ∧ (r.search now n).outcome = .ok s) ∨
      ∃ e f, (q.search now n).outcome = .error e ∧ (r.search now n).outcome = .error f ∧
        e.kind = f.kind := by
  have hinstant := h.instant now n
  rw [outcome_search, outcome_search, ← h.assemble]
  cases hq : (q.instant now n).outcome with
  | ok i =>
      rw [hq, eq_comm] at hinstant
      rw [mapError_eq_ok_iff.mp hinstant]
      cases hs : q.assemble n i with
      | ok s => exact Or.inl ⟨s, hs, hs⟩
      | error e => exact Or.inr ⟨e, e, hs, hs, rfl⟩
  | error e =>
      rw [hq, eq_comm] at hinstant
      obtain ⟨f, hr, -⟩ := mapError_eq_error_iff.mp hinstant
      rw [hr]
      exact Or.inr ⟨.temporal e, .temporal f, rfl, rfl, rfl⟩

end Query.Alike

namespace Query

variable {pairs others : List (String × String)}

/-- A query in another spelling is decoded when the first one is, and then its searches are the same
searches, or fail for the same kind of fault. -/
theorem search_of_respelled (h : List.Forall₂ Respelled pairs others) :
    ((∃ q, (decode pairs).outcome = .ok q) ↔ ∃ r, (decode others).outcome = .ok r) ∧
      ∀ q r, (decode pairs).outcome = .ok q → (decode others).outcome = .ok r →
        ∀ (now : Instant) (n : Nat),
          (∃ s, (q.search now n).outcome = .ok s ∧ (r.search now n).outcome = .ok s) ∨
            ∃ e f, (q.search now n).outcome = .error e ∧ (r.search now n).outcome = .error f ∧
              e.kind = f.kind := by
  refine ⟨exists_decode_of_respelled h, ?_⟩
  intro q r hq hr now n
  exact (alike_of_respelled h hq hr).search now n

theorem shouted_search_of_respelled :
    ∃ pairs others q r s, List.Forall₂ Respelled pairs others ∧ pairs ≠ others ∧
      (decode pairs).outcome = .ok q ∧ (decode others).outcome = .ok r ∧
        (q.search .quarterToNine 0).outcome = .ok s ∧
          (r.search .quarterToNine 0).outcome = .ok s := by
  let pairs := [("time", "9:00"), ("optimize", "safe"), ("bannedRoutes", "A_1,B_2")]
  let others := [("time", "\u00a09:00\t"), ("optimize", " SAFE"),
    ("bannedRoutes", " A_1,B_2\u3000")]
  let q := ofSettings [.indexed .time "9:00", .indexed .optimize .safe,
    .indexed .bannedRoutes "A_1,B_2"]
  let r := ofSettings [.indexed .time "\u00a09:00\t", .indexed .optimize .safe,
    .indexed .bannedRoutes " A_1,B_2\u3000"]
  have htime : (Param.indexed .time).Respells "9:00" "\u00a09:00\t" :=
    ⟨"9:00", Or.inl rfl, ['\u00a0'], ['\t'], by decide, by decide, by decide⟩
  have hoptimize : (Param.indexed .optimize).Respells "safe" " SAFE" :=
    ⟨"SAFE", Or.inr ⟨rfl, by decide⟩, [' '], [], by decide, by decide, by decide⟩
  have hbanned : (Param.indexed .bannedRoutes).Respells "A_1,B_2" " A_1,B_2\u3000" :=
    ⟨"A_1,B_2", Or.inl rfl, [' '], ['\u3000'], by decide, by decide, by decide⟩
  have h : List.Forall₂ Respelled pairs others :=
    .cons (respelled_of_name htime)
      (.cons (respelled_of_name hoptimize) (.cons (respelled_of_name hbanned) .nil))
  have hq : (decode pairs).outcome = .ok q := rfl
  have hr : (decode others).outcome = .ok r := rfl
  obtain ⟨s, hs, hs'⟩ | ⟨e, -, he, -⟩ := (search_of_respelled h).2 q r hq hr .quarterToNine 0
  · exact ⟨pairs, others, q, r, s, h, by decide, hq, hr, hs, hs'⟩
  · cases he

end Query

end TripQuery
