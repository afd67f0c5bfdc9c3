import TripQuery.Proofs.Search.Precedence
import TripQuery.Proofs.Search.Rewriting

namespace TripQuery

/-!
# Parameters that are passed through

Thirteen parameters go each into a field of their own, as they are given or else by the standard.
They bear on nothing else: not on whether there is a search, nor on the fault when there is none,
nor on any other field. Only the penalty on transfers is raised for the criterion of few transfers.
-/

/-- A field of a search that one parameter goes into. -/
inductive Passed
  | router
  | origin
  | destination
  | arriveBy
  | wheelchair
  | maxWalkDistance
  | walkSpeed
  | minTransferTime
  | maxTransfers
  | numItineraries
  | showStops
  | transferPenalty
  | batch
  deriving DecidableEq

namespace Passed

@[reducible] def Value : Passed → Type
  | router | origin | destination => Option String
  | arriveBy | wheelchair | showStops | batch => Bool
  | maxWalkDistance | walkSpeed => Float
  | minTransferTime | maxTransfers | numItineraries | transferPenalty => UInt32

def field (s : Search) : (p : Passed) → p.Value
  | router => s.router
  | origin => s.origin
  | destination => s.destination
  | arriveBy => s.arriveBy
  | wheelchair => s.wheelchair
  | maxWalkDistance => s.maxWalkDistance
  | walkSpeed => s.walkSpeed
  | minTransferTime => s.minTransferTime
  | maxTransfers => s.maxTransfers
  | numItineraries => s.numItineraries
  | showStops => s.showStops
  | transferPenalty => s.transferPenalty
  | batch => s.batch

/-- What a query gives for the field in search `n`, if anything. -/
def given (q : Query) (n : Nat) : (p : Passed) → Option p.Value
  | router => (q.pick .routerId n).map some
  | origin => (q.pick .fromPlace n).map some
  | destination => (q.pick .toPlace n).map some
  | arriveBy => q.pick .arriveBy n
  | wheelchair => q.pick .wheelchair n
  | maxWalkDistance => q.pick .maxWalkDistance n
  | walkSpeed => q.pick .walkSpeed n
  | minTransferTime => q.pick .minTransferTime n
  | maxTransfers => q.pick .maxTransfers n
  | numItineraries => q.pick .numItineraries n
  | showStops => q.pick .showIntermediateStops n
  | transferPenalty => q.pick .transferPenalty n
  | batch => q.batch

/-- The parameters with a value for each search that are passed through. -/
def parameters : List Indexed :=
  [.routerId, .fromPlace, .toPlace, .arriveBy, .wheelchair, .maxWalkDistance, .walkSpeed,
    .minTransferTime, .maxTransfers, .numItineraries, .showIntermediateStops, .transferPenalty]

/-- What becomes of a value under a criterion. -/
def settled (c : Criterion) : (p : Passed) → p.Value → p.Value
  | transferPenalty, v => if c = .transfers then addSaturating v legacyPenalty else v
  | _, v => v

theorem settled_of_ne {p : Passed} (h : p ≠ transferPenalty) (c : Criterion) (v : p.Value) :
    p.settled c v = v := by
  cases p <;> first | rfl | exact absurd rfl h

theorem field_draft (p : Passed) (q : Query) (n : Nat) (i : Instant)
    (aim : Criterion × Option Weights) (preferred unpreferred banned : List Route) :
    p.field (q.draft n i aim preferred unpreferred banned) =
      p.settled aim.1 ((p.given q n).getD (p.field (Search.standard i))) := by
  have hlabel (v : Option String) : (v.map some).getD none = v := by
    cases v <;> rfl
  cases p with
  | router => exact (hlabel _).symm
  | origin => exact (hlabel _).symm
  | destination => exact (hlabel _).symm
  | _ => rfl

end Passed

/-- Two queries differ only in parameters that are passed through. -/
structure Query.SameBesidePassed (q r : Query) : Prop where
  values : ∀ p, p ∉ Passed.parameters → q.values p = r.values p
  places : q.places = r.places
  placesOrdered : q.placesOrdered = r.placesOrdered

/-- Two searches agree on the fields that no parameter is passed through to. -/
structure Search.SameBesidePassed (s t : Search) : Prop where
  places : s.places = t.places
  placesOrdered : s.placesOrdered = t.placesOrdered
  instant : s.instant = t.instant
  criterion : s.criterion = t.criterion
  weights : s.weights = t.weights
  modes : s.modes = t.modes
  preferred : s.preferred = t.preferred
  unpreferred : s.unpreferred = t.unpreferred
  banned : s.banned = t.banned

/-- Every field is one of these or is passed through to. -/
theorem Search.SameBesidePassed.eq {s t : Search} (h : s.SameBesidePassed t)
    (hpassed : ∀ p : Passed, p.field s = p.field t) : s = t := by
  cases s
  cases t
  rw [Search.mk.injEq]
  exact ⟨hpassed .router, hpassed .origin, hpassed .destination, h.places, h.placesOrdered,
    h.instant, hpassed .arriveBy, hpassed .wheelchair, hpassed .maxWalkDistance,
    hpassed .walkSpeed, h.criterion, h.weights, h.modes, hpassed .transferPenalty,
    hpassed .minTransferTime, hpassed .maxTransfers, h.preferred, h.unpreferred, h.banned,
    hpassed .numItineraries, hpassed .showStops, hpassed .batch⟩

namespace Query

variable {q r : Query} {now : Instant} {n : Nat}

theorem SameBesidePassed.pick (h : q.SameBesidePassed r) {p : Indexed}
    (hp : p ∉ Passed.parameters) : q.pick p n = r.pick p n := by
  rw [Query.pick, Query.pick, h.values p hp]

theorem SameBesidePassed.instant (h : q.SameBesidePassed r) :
    q.instant now n = r.instant now n := by
  simp (disch := decide) only [Query.instant, h.pick]

theorem SameBesidePassed.aim (h : q.SameBesidePassed r) : q.aim n = r.aim n := by
  simp (disch := decide) only [Query.aim, h.pick]

theorem SameBesidePassed.ordersTransit (h : q.SameBesidePassed r) :
    q.ordersTransit n = r.ordersTransit n := by
  simp (disch := decide) only [Query.ordersTransit, passedPlaces, h.pick, h.places,
    h.placesOrdered]

theorem SameBesidePassed.faultAt? (h : q.SameBesidePassed r) :
    q.faultAt? now n = r.faultAt? now n := by
  funext stage
  cases stage with
  | instant => rw [Query.faultAt?, Query.faultAt?, h.instant]
  | aim => rw [Query.faultAt?, Query.faultAt?, h.aim]
  | preferred => rw [Query.faultAt?, Query.faultAt?, h.pick (by decide)]
  | unpreferred => rw [Query.faultAt?, Query.faultAt?, h.pick (by decide)]
  | banned => rw [Query.faultAt?, Query.faultAt?, h.pick (by decide)]
  | places => rw [Query.faultAt?, Query.faultAt?, h.ordersTransit]

theorem SameBesidePassed.fault?_search (h : q.SameBesidePassed r) :
    fault? (q.search now n).outcome = fault? (r.search now n).outcome := by
  rw [Query.fault?_search, Query.fault?_search, h.faultAt?]

theorem SameBesidePassed.draft (h : q.SameBesidePassed r) (n : Nat) (i : Instant)
    (aim : Criterion × Option Weights) (preferred unpreferred banned : List Route) :
    (q.draft n i aim preferred unpreferred banned).SameBesidePassed
      (r.draft n i aim preferred unpreferred banned) where
  places := by simp only [Query.draft, passedPlaces, h.places]
  placesOrdered := by simp only [Query.draft, h.placesOrdered]
  instant := rfl
  criterion := rfl
  weights := rfl
  modes := by simp (disch := decide) only [Query.draft, h.pick]
  preferred := rfl
  unpreferred := rfl
  banned := rfl

/-- Both searches are drafted from the same instant, aim and routes. -/
theorem SameBesidePassed.exists_drafts (h : q.SameBesidePassed r) {s : Search}
    (hs : (q.search now n).outcome = .ok s) :
    ∃ i aim preferred unpreferred banned, q.aim n = .ok aim ∧
      s = q.draft n i aim preferred unpreferred banned ∧
        (r.search now n).outcome = .ok (r.draft n i aim preferred unpreferred banned) := by
  obtain ⟨i, hi, hassemble⟩ := search_eq_ok_iff.mp hs
  obtain ⟨aim, preferred, unpreferred, banned, haim, hpreferred, hunpreferred, hbanned, rfl,
    htransit⟩ := assemble_eq_ok_iff.mp hassemble
  rw [ordersTransit_draft, h.ordersTransit] at htransit
  rw [h.pick (by decide)] at hpreferred hunpreferred hbanned
  rw [h.instant] at hi
  refine ⟨i, aim, preferred, unpreferred, banned, haim, rfl, ?_⟩
  rw [h.aim] at haim
  exact search_eq_ok_iff.mpr ⟨i, hi, assemble_eq_ok_iff.mpr
    ⟨aim, preferred, unpreferred, banned, haim, hpreferred, hunpreferred, hbanned, rfl, htransit⟩⟩

theorem aim_transfers_iff {c : Criterion} {ws : Option Weights} (h : q.aim n = .ok (c, ws)) :
    c = .transfers ↔ q.pick .optimize n = some .transfers := by
  constructor
  · rintro rfl
    exact pick_of_aim_transfers h
  · intro hc
    rw [aim_of_ne_triangle hc Criterion.noConfusion, map_eq_ok_iff] at h
    obtain ⟨-, -, heq⟩ := h
    cases heq
    rfl

/-- Parameters that are passed through bear on their own fields only. Two queries that differ in
nothing else fail with the same fault or both make a search, and the searches differ at most in the
fields for which something else is given. Each of these fields holds what is given for it, or else
the standard, and the penalty on transfers is raised from there for the criterion of few transfers.
-/
theorem passed_touch_own_fields (h : q.SameBesidePassed r) (now : Instant) (n : Nat) :
    (∀ f, (q.search now n).outcome = .error f ↔ (r.search now n).outcome = .error f) ∧
    ∀ s, (q.search now n).outcome = .ok s → ∃ t, (r.search now n).outcome = .ok t ∧
      s.SameBesidePassed t ∧
      (∀ p : Passed, p.given q n = p.given r n → p.field s = p.field t) ∧
      ((∀ p : Passed, p.given q n = p.given r n) → s = t) ∧
      (∀ p : Passed, p ≠ .transferPenalty →
        p.field s = (p.given q n).getD (p.field (Search.standard s.instant))) ∧
      s.transferPenalty =
        let penalty := (q.pick .transferPenalty n).getD (Search.standard s.instant).transferPenalty
        if q.pick .optimize n = some .transfers then
          UInt32.ofNat (min (penalty.toNat + 1800) 4294967295)
        else penalty := by
  constructor
  · intro f
    rw [← fault?_eq_some_iff, ← fault?_eq_some_iff, h.fault?_search]
  · intro s hs
    obtain ⟨i, aim, preferred, unpreferred, banned, haim, rfl, ht⟩ := h.exists_drafts hs
    have hsame := h.draft n i aim preferred unpreferred banned
    have hfield (p : Passed) (hgiven : p.given q n = p.given r n) :
        p.field (q.draft n i aim preferred unpreferred banned) =
          p.field (r.draft n i aim preferred unpreferred banned) := by
      rw [Passed.field_draft, Passed.field_draft, hgiven]
    refine ⟨_, ht, hsame, hfield, fun hgiven => hsame.eq fun p => hfield p (hgiven p),
      fun p hp => ?_, ?_⟩
    · rw [Passed.field_draft, Passed.settled_of_ne hp]
      rfl
    · simp only [← aim_transfers_iff haim]
      exact Passed.field_draft .transferPenalty q n i aim preferred unpreferred banned

set_option maxRecDepth 2048 in
/-- Two queries for few transfers with penalties of their own; one of them asks for more besides. -/
theorem penalties_touch_own_fields :
    ∃ (q r : Query) (s t : Search), q.SameBesidePassed r ∧
      (q.search .quarterToNine 3).outcome = .ok s ∧ s.transferPenalty = 1900 ∧
        s.wheelchair = false ∧ s.router = none ∧
          (r.search .quarterToNine 3).outcome = .ok t ∧ t.transferPenalty = 4294967295 ∧
            t.wheelchair = true ∧ t.router = some "x" ∧ s.SameBesidePassed t := by
  let q := (empty.set .optimize [.transfers]).set .transferPenalty [0, 100]
  let r := (((empty.set .optimize [.transfers]).set .transferPenalty [4294966000]).set .wheelchair
    [false, true]).set .routerId ["", "x"]
  let s := q.draft 3 .quarterToNine (.transfers, none) [] [] []
  let t := r.draft 3 .quarterToNine (.transfers, none) [] [] []
  have h : q.SameBesidePassed r :=
    ⟨fun p hp => by cases p <;> first | rfl | exact absurd (by decide) hp, rfl, rfl⟩
  have hs : (q.search .quarterToNine 3).outcome = .ok s := rfl
  have ht : (r.search .quarterToNine 3).outcome = .ok t := rfl
  obtain ⟨t', ht', hsame, -⟩ := (passed_touch_own_fields h .quarterToNine 3).2 s hs
  rw [ht, Except.ok.injEq] at ht'
  rw [← ht'] at hsame
  exact ⟨q, r, s, t, h, hs, rfl, rfl, rfl, ht, rfl, rfl, rfl, hsame⟩

/-- Without a penalty given, the one of a search for few transfers is not the standard one. -/
theorem penalty_raised_from_standard :
    let q := empty.set .optimize [.transfers]
    ∃ s, (q.search .quarterToNine 0).outcome = .ok s ∧ q.pick .transferPenalty 0 = none ∧
      s.transferPenalty = 1800 ∧ (Search.standard s.instant).transferPenalty = 0 :=
  ⟨{ Search.standard .quarterToNine with transferPenalty := 1800 }, rfl, rfl, rfl, rfl⟩

end Query

end TripQuery
