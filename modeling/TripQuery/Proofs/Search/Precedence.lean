import TripQuery.Proofs.Calendar.Combination
import TripQuery.Proofs.Calendar.OwnOffset
import TripQuery.Proofs.RouteText
import TripQuery.Proofs.Search.Aim
import TripQuery.Proofs.Search.Assembly

namespace TripQuery

/-!
# Which fault is reported

Six things can be wrong with a search. Each of them is described by itself, without regard to the
others, and the fault that is reported is that of the first in a fixed order.
-/

/-- What can be wrong, in the order in which it is looked for. -/
inductive Stage
  | instant
  | aim
  | preferred
  | unpreferred
  | banned
  | places
  deriving DecidableEq

namespace Stage

def all : List Stage := [instant, aim, preferred, unpreferred, banned, places]

theorem mem_all (stage : Stage) : stage ∈ all := by
  cases stage <;> decide

end Stage

/-- What is wrong with the weights given, in view of the criterion. -/
inductive WeightsFault (criterion : Option Criterion) : List Float → SearchFault → Prop
  | incomplete {ws : List Float} (hsome : ws ≠ []) (hfew : ws.length < 3) :
      WeightsFault criterion ws .weightsIncomplete
  | otherCriterion {c : Criterion} (hc : criterion = some c) (hne : c ≠ .triangle)
      (a b t : Float) : WeightsFault criterion [a, b, t] .weightsWithoutTriangle
  | notAffine (hc : criterion = none ∨ criterion = some .triangle) (a b t : Float)
      (hsum : Weights.tolerance < (a + b + t - 1.0).abs) :
      WeightsFault criterion [a, b, t] (.weightsNotAffine (a + b + t))
  | missing (hc : criterion = some .triangle) : WeightsFault criterion [] .triangleWithoutWeights

/-- What is wrong with a list of routes: the first of its pieces that is no route. -/
def RoutesFault (text : Option String) (f : SearchFault) : Prop :=
  ∃ s before bad after, text = some s ∧ Route.pieces s.toList = before ++ bad :: after ∧
    (∀ piece ∈ before, ∃ r, Route.ofPiece piece = .ok r) ∧ Route.ofChars? (trim bad) = none ∧
      f = .route ⟨String.ofList (trim bad)⟩

namespace Query

def OrdersTransit (q : Query) (n : Nat) : Prop :=
  q.places ≠ [] ∧ q.places ≠ [""] ∧ q.placesOrdered = some true ∧
    ∃ m, ((q.pick .mode n).getD ModeSet.standard).has m = true ∧ m.isTransit = true

/-- What is wrong with the date and the time of search `n`, where blank ones are missing. A time
without a date is at fault only if it is no timestamp either. -/
def InstantFault (q : Query) (now : Instant) (n : Nat) (e : TemporalFault) : Prop :=
  Instant.PartsFault now (nonBlank (q.pick .date n)) (nonBlank (q.pick .time n)) e ∧
    (nonBlank (q.pick .date n) = none → ∀ t, nonBlank (q.pick .time n) = some t →
      ¬ ∃ i, Instant.IsTimestamp now.offset (trim t.toList) i)

/-- What is wrong with search `n` at one stage. -/
def FaultAt (q : Query) (now : Instant) (n : Nat) : Stage → SearchFault → Prop
  | .instant, f => ∃ e, q.InstantFault now n e ∧ f = .temporal e
  | .aim, f => WeightsFault (q.pick .optimize n) (q.givenWeights n) f
  | .preferred, f => RoutesFault (q.pick .preferredRoutes n) f
  | .unpreferred, f => RoutesFault (q.pick .unpreferredRoutes n) f
  | .banned, f => RoutesFault (q.pick .bannedRoutes n) f
  | .places, f => q.OrdersTransit n ∧ f = .orderedTransit

end Query

/-- The fault of a step, if it has failed. -/
def fault? {ε α : Type} : Except ε α → Option ε
  | .error e => some e
  | .ok _ => none

section Steps

variable {ε α β : Type}

theorem fault?_eq_some_iff {x : Except ε α} {e : ε} : fault? x = some e ↔ x = .error e := by
  cases x <;> simp [fault?]

theorem fault?_eq_none_iff {x : Except ε α} : fault? x = none ↔ ∃ a, x = .ok a := by
  cases x <;> simp [fault?]

/-- When the rest fails in the same way whatever came before, its fault stands in second place. -/
theorem fault?_bind {x : Except ε α} {f : α → Except ε β} {rest : Option ε}
    (h : ∀ a, fault? (f a) = rest) : fault? (x >>= f) = (fault? x).or rest := by
  cases x with
  | error e => rfl
  | ok a => exact h a

theorem findSome?_cons_or (g : α → Option β) (a : α) (l : List α) :
    (a :: l).findSome? g = (g a).or (l.findSome? g) := by
  rw [List.findSome?_cons]
  cases g a <;> rfl

end Steps

section WeightsFaults

variable {criterion : Option Criterion} {f : SearchFault}

theorem weightsFault_nil_iff :
    WeightsFault criterion [] f ↔
      criterion = some .triangle ∧ f = .triangleWithoutWeights := by
  constructor
  · intro h
    cases h with
    | incomplete hsome => exact absurd rfl hsome
    | missing hc => exact ⟨hc, rfl⟩
  · rintro ⟨hc, rfl⟩
    exact .missing hc

theorem weightsFault_few_iff {ws : List Float} (hsome : ws ≠ []) (hfew : ws.length < 3) :
    WeightsFault criterion ws f ↔ f = .weightsIncomplete := by
  constructor
  · intro h
    cases h with
    | incomplete => rfl
    | otherCriterion => simp at hfew
    | notAffine => simp at hfew
    | missing => exact absurd rfl hsome
  · rintro rfl
    exact .incomplete hsome hfew

theorem weightsFault_three_iff {a b t : Float} :
    WeightsFault criterion [a, b, t] f ↔
      (∃ c, criterion = some c ∧ c ≠ .triangle) ∧ f = .weightsWithoutTriangle ∨
      (criterion = none ∨ criterion = some .triangle) ∧
        Weights.tolerance < (a + b + t - 1.0).abs ∧ f = .weightsNotAffine (a + b + t) := by
  constructor
  · intro h
    cases h with
    | incomplete _ hfew => simp at hfew
    | otherCriterion hc hne => exact Or.inl ⟨⟨_, hc, hne⟩, rfl⟩
    | notAffine hc _ _ _ hsum => exact Or.inr ⟨hc, hsum, rfl⟩
  · rintro (⟨⟨c, hc, hne⟩, rfl⟩ | ⟨hc, hsum, rfl⟩)
    · exact .otherCriterion hc hne a b t
    · exact .notAffine hc a b t hsum

theorem other_criterion_iff :
    (∃ c, criterion = some c ∧ c ≠ .triangle) ↔
      ¬ (criterion = none ∨ criterion = some .triangle) := by
  cases criterion with
  | none => simp
  | some c => simp

end WeightsFaults

namespace Query

variable {q : Query} {now : Instant} {n : Nat} {f : SearchFault}

/-- A date, a time without one, and nothing at all are each at fault in their own way. -/
theorem outcome_instant_eq_error_iff {e : TemporalFault} :
    (q.instant now n).outcome = .error e ↔ q.InstantFault now n e := by
  unfold InstantFault
  rw [← Instant.combine_eq_error_iff]
  cases hdate : nonBlank (q.pick .date n) with
  | some date =>
      rw [instant_of_date hdate]
      simp
  | none =>
      cases htime : nonBlank (q.pick .time n) with
      | none =>
          rw [instant, hdate, htime]
          simp
      | some time =>
          rw [outcome_instant_of_time hdate htime]
          cases hread : Instant.read now.offset time with
          | ok i =>
              have htimestamp := Instant.read_eq_ok_iff_isTimestamp.mp hread
              constructor
              · rintro ⟨⟩
              · rintro ⟨-, hnot⟩
                exact absurd ⟨i, htimestamp⟩ (hnot rfl time rfl)
          | error e' =>
              refine ⟨fun h => ⟨h, ?_⟩, fun h => h.1⟩
              rintro - _ ⟨⟩ ⟨i, hi⟩
              rw [Instant.read_eq_ok_iff_isTimestamp.mpr hi] at hread
              cases hread

theorem aim_eq_error_iff :
    q.aim n = .error f ↔ WeightsFault (q.pick .optimize n) (q.givenWeights n) f := by
  rcases q.givenWeights_cases n with hnil | ⟨hsome, hfew⟩ | ⟨a, b, t, hthree⟩
  · rw [aim_of_nil hnil, hnil, weightsFault_nil_iff]
    by_cases hc : q.pick .optimize n = some .triangle
    · simp [hc, eq_comm]
    · simp [hc]
  · rw [aim_of_few hsome hfew, weightsFault_few_iff hsome hfew, Except.error.injEq]
    exact eq_comm
  · rw [aim_of_three hthree, hthree, weightsFault_three_iff, other_criterion_iff]
    have hsum : (Weights.mk a b t).sum = a + b + t := rfl
    by_cases hc : q.pick .optimize n = none ∨ q.pick .optimize n = some .triangle
    · rw [if_pos hc, Weights.check, hsum]
      by_cases htol : Weights.tolerance < (a + b + t - 1.0).abs
      · simp [hc, htol, eq_comm (b := f)]
      · simp [hc, htol]
    · rw [if_neg hc]
      simp [hc, eq_comm (b := f)]

theorem routes_eq_error_iff {text : Option String} :
    routes text = .error f ↔ RoutesFault text f := by
  cases text with
  | none => simp [routes, RoutesFault]
  | some s =>
      have hread : routes (some s) = .error f ↔
          ∃ e, Route.readList s = .error e ∧ .route e = f := mapError_eq_error_iff
      rw [hread]
      constructor
      · rintro ⟨e, he, rfl⟩
        obtain ⟨before, bad, after, hpieces, hbefore, hbad⟩ := mapM_eq_error_iff.mp he
        obtain ⟨hnone, rfl⟩ := Route.ofPiece_eq_error_iff.mp hbad
        exact ⟨s, before, bad, after, rfl, hpieces, hbefore, hnone, rfl⟩
      · rintro ⟨_, before, bad, after, ⟨⟩, hpieces, hbefore, hnone, rfl⟩
        refine ⟨_, mapM_eq_error_iff.mpr ⟨before, bad, after, hpieces, hbefore, ?_⟩, rfl⟩
        exact Route.ofPiece_eq_error_iff.mpr ⟨hnone, rfl⟩

def ordersTransit (q : Query) (n : Nat) : Bool :=
  !q.passedPlaces.isEmpty && q.placesOrdered.getD false &&
    ((q.pick .mode n).getD ModeSet.standard).isTransit

theorem ordersTransit_iff : q.ordersTransit n = true ↔ q.OrdersTransit n := by
  have hplaces : q.passedPlaces.isEmpty = false ↔ q.places ≠ [] ∧ q.places ≠ [""] := by
    unfold passedPlaces
    by_cases h : q.places = [""]
    · simp [h]
    · simp [h]
  have hordered : q.placesOrdered.getD false = true ↔ q.placesOrdered = some true := by
    cases q.placesOrdered <;> simp
  simp only [ordersTransit, Bool.and_eq_true, Bool.not_eq_true', hplaces, hordered,
    ModeSet.isTransit_iff, OrdersTransit, and_assoc]

/-- Neither the instant nor the aim nor the routes bear on the order of the places. -/
theorem ordersTransit_draft (q : Query) (n : Nat) (i : Instant) (aim : Criterion × Option Weights)
    (preferred unpreferred banned : List Route) :
    (q.draft n i aim preferred unpreferred banned).ordersTransit = q.ordersTransit n := rfl

def faultAt? (q : Query) (now : Instant) (n : Nat) : Stage → Option SearchFault
  | .instant => fault? ((q.instant now n).outcome.mapError .temporal)
  | .aim => fault? (q.aim n)
  | .preferred => fault? (routes (q.pick .preferredRoutes n))
  | .unpreferred => fault? (routes (q.pick .unpreferredRoutes n))
  | .banned => fault? (routes (q.pick .bannedRoutes n))
  | .places => if q.ordersTransit n then some .orderedTransit else none

theorem faultAt?_eq_some_iff {stage : Stage} :
    q.faultAt? now n stage = some f ↔ q.FaultAt now n stage f := by
  cases stage with
  | instant =>
      simp only [faultAt?, FaultAt, fault?_eq_some_iff, mapError_eq_error_iff,
        outcome_instant_eq_error_iff, eq_comm (a := f)]
  | aim => exact fault?_eq_some_iff.trans aim_eq_error_iff
  | preferred => exact fault?_eq_some_iff.trans routes_eq_error_iff
  | unpreferred => exact fault?_eq_some_iff.trans routes_eq_error_iff
  | banned => exact fault?_eq_some_iff.trans routes_eq_error_iff
  | places => simp [faultAt?, FaultAt, ordersTransit_iff, eq_comm (a := f)]

theorem faultAt?_eq_none_iff {stage : Stage} :
    q.faultAt? now n stage = none ↔ ∀ f, ¬ q.FaultAt now n stage f := by
  simp only [Option.eq_none_iff_forall_ne_some, ne_eq, faultAt?_eq_some_iff]

theorem fault?_assemble (q : Query) (now : Instant) (n : Nat) (i : Instant) :
    fault? (q.assemble n i) =
      [Stage.aim, .preferred, .unpreferred, .banned, .places].findSome? (q.faultAt? now n) := by
  have hplaces (aim : Criterion × Option Weights) (preferred unpreferred banned : List Route) :
      fault? (if (q.draft n i aim preferred unpreferred banned).ordersTransit then
        throw SearchFault.orderedTransit
        else pure (q.draft n i aim preferred unpreferred banned)) =
          q.faultAt? now n .places := by
    rw [ordersTransit_draft, faultAt?]
    cases q.ordersTransit n <;> rfl
  simp only [findSome?_cons_or, List.findSome?_nil, Option.or_none]
  apply fault?_bind
  intro aim
  apply fault?_bind
  intro preferred
  apply fault?_bind
  intro unpreferred
  apply fault?_bind
  intro banned
  exact hplaces aim preferred unpreferred banned

theorem fault?_search :
    fault? (q.search now n).outcome = Stage.all.findSome? (q.faultAt? now n) := by
  rw [outcome_search, Stage.all, findSome?_cons_or]
  apply fault?_bind
  intro i
  exact fault?_assemble q now n i

/-- A search succeeds when nothing is wrong with it at any stage, and else it fails with the fault
of the first stage that has one. -/
theorem search_outcome_by_stage (q : Query) (now : Instant) (n : Nat) :
    ((∃ s, (q.search now n).outcome = .ok s) ↔ ∀ stage f, ¬ q.FaultAt now n stage f) ∧
      ∀ f, (q.search now n).outcome = .error f ↔
        ∃ before stage after, Stage.all = before ++ stage :: after ∧
          q.FaultAt now n stage f ∧ ∀ earlier ∈ before, ∀ g, ¬ q.FaultAt now n earlier g := by
  constructor
  · rw [← fault?_eq_none_iff, fault?_search, List.findSome?_eq_none_iff]
    simp only [Stage.mem_all, true_imp_iff, faultAt?_eq_none_iff]
  · intro f
    rw [← fault?_eq_some_iff, fault?_search, List.findSome?_eq_some_iff]
    simp only [faultAt?_eq_some_iff, faultAt?_eq_none_iff]

end Query

end TripQuery
