import TripQuery.Proofs.Search.Balance
import TripQuery.Proofs.Search.Resolved
import TripQuery.Proofs.Wire.Nulls

namespace TripQuery

/-!
# What a search engine may rely on

Whatever a client sends, a search that is resolved from it is of a form that an engine can work
with: its numbers are finite, its weights sum to one, its routes have both parts.
-/

/-- Both parts are there, the first underscore divides them, and the text can stand in a list. -/
structure Route.IsClean (r : Route) : Prop where
  agency : r.agency ≠ ""
  mark : '_' ∉ r.agency.toList
  name : r.name ≠ ""
  comma : ',' ∉ r.agency.toList ∧ ',' ∉ r.name.toList
  front : ∀ c ∈ r.agency.toList.head?, isBlank c = false
  back : ∀ c ∈ r.name.toList.getLast?, isBlank c = false

theorem Route.IsListed.isClean {r : Route} (h : r.IsListed) : r.IsClean := by
  obtain ⟨hread, hcomma⟩ := h
  obtain ⟨-, hmark, hagency, hname⟩ := trim_of_ofPiece hread
  have htrimmed : IsTrimmed r.text.toList := by
    rw [toList_text_of_ofPiece hread]
    exact isTrimmed_trim _
  rw [toList_text] at hcomma htrimmed
  obtain ⟨hfront, hback⟩ := htrimmed
  rw [List.mem_append, not_or] at hcomma
  refine ⟨?_, hmark, ?_, ⟨hcomma.1, fun hmem => hcomma.2 (List.mem_cons_of_mem _ hmem)⟩, ?_, ?_⟩
  · exact fun heq => hagency (by rw [heq]; rfl)
  · exact fun heq => hname (by rw [heq]; rfl)
  · intro c hc
    apply hfront
    rw [List.head?_append_of_ne_nil _ hagency]
    exact hc
  · intro c hc
    apply hback
    rw [List.getLast?_append_of_ne_nil _ (List.cons_ne_nil _ _),
      List.getLast?_cons_of_ne_nil hname]
    exact hc

theorem Criterion.Fits.isSome_iff {c : Criterion} {ws : Option Weights} (h : c.Fits ws) :
    ws.isSome = true ↔ c = .triangle := by
  cases ws with
  | none => exact iff_of_false Bool.false_ne_true h
  | some w => exact iff_of_true rfl h.1

theorem Search.ordersTransit_eq_true_iff {s : Search} :
    s.ordersTransit = true ↔ s.places ≠ [] ∧ s.placesOrdered = true ∧
      ∃ m ∈ s.modes.members, m.isTransit = true := by
  simp [ordersTransit, ModeSet.isTransit, and_assoc]

/-- What holds of a search whatever it was resolved from, at the offset of the clock. -/
structure Search.IsReliable (s : Search) (offset : Offset) : Prop where
  criterion : s.criterion ≠ .transfers
  triangle : s.weights.isSome = true ↔ s.criterion = .triangle
  weights : ∀ w, s.weights = some w → w.IsBalanced
  distance : s.maxWalkDistance.isFinite = true
  speed : s.walkSpeed.isFinite = true
  modes : s.modes.members ≠ []
  places : s.places ≠ [""]
  order : ¬ (s.places ≠ [] ∧ s.placesOrdered = true ∧ ∃ m ∈ s.modes.members, m.isTransit = true)
  offset : s.instant.offset = offset
  routes : ∀ r ∈ s.preferred ++ s.unpreferred ++ s.banned, r.IsClean
  nulls : ∀ path, s.answer.document.NullAt path ↔
    path = ["router_id"] ∧ s.router = none ∨ path = ["from"] ∧ s.origin = none ∨
      path = ["to"] ∧ s.destination = none ∨ path = ["triangle"] ∧ s.weights = none

namespace Query

variable {pairs : List (String × String)} {q : Query} {now i : Instant} {n : Nat} {s : Search}

theorem denotes_of_pick (hq : (decode pairs).outcome = .ok q) {p : Indexed} {v : p.Value}
    (h : q.pick p n = some v) : ∃ text, p.kind.Denotes text v := by
  obtain ⟨text, -, hv⟩ := exists_of_mem_forall₂ (values_of_decode hq p) (mem_of_pick h)
  exact ⟨text, hv⟩

theorem isFinite_getD {v : Option Float} {standard : Float} (hstandard : standard.isFinite = true)
    (hv : ∀ x, v = some x → x.isFinite = true) : (v.getD standard).isFinite = true := by
  cases v with
  | none => exact hstandard
  | some x => exact hv x rfl

theorem isBalanced_of_aim (hq : (decode pairs).outcome = .ok q) {c : Criterion} {w : Weights}
    (h : q.aim n = .ok (c, some w)) : w.IsBalanced := by
  obtain ⟨hsafety, hslope, htime⟩ := picks_of_three (givenWeights_of_aim h)
  obtain ⟨-, -, hsafety⟩ := denotes_of_pick hq hsafety
  obtain ⟨-, -, hslope⟩ := denotes_of_pick hq hslope
  obtain ⟨-, -, htime⟩ := denotes_of_pick hq htime
  exact Weights.isBalanced_of_check hsafety hslope htime (fits_of_aim h).2

/-- Every search that is resolved from a query that was read is one to rely on. -/
theorem search_isReliable (hq : (decode pairs).outcome = .ok q)
    (hs : (q.search now n).outcome = .ok s) : s.IsReliable now.offset := by
  have hresolved := isResolved_of_search hq hs
  obtain ⟨i, hi, hassemble⟩ := search_eq_ok_iff.mp hs
  obtain ⟨⟨c, ws⟩, preferred, unpreferred, banned, haim, -, -, -, rfl, -⟩ :=
    assemble_eq_ok_iff.mp hassemble
  have hweights : ∀ w, ws = some w → w.IsBalanced := by
    rintro w rfl
    exact isBalanced_of_aim hq haim
  have hdistance : ((q.pick .maxWalkDistance n).getD Search.standardWalkDistance).isFinite = true :=
    isFinite_getD (by decide +kernel) fun x hx => (denotes_of_pick hq hx).elim fun _ h => h.2
  have hspeed : ((q.pick .walkSpeed n).getD Search.standardWalkSpeed).isFinite = true :=
    isFinite_getD (by decide +kernel) fun x hx => (denotes_of_pick hq hx).elim fun _ h => h.2
  have hroutes : ∀ r ∈ preferred ++ unpreferred ++ banned, r.IsClean := by
    intro r hr
    rcases List.mem_append.mp hr with hr | hr
    · rcases List.mem_append.mp hr with hr | hr
      · exact (hresolved.preferred r hr).isClean
      · exact (hresolved.unpreferred r hr).isClean
    · exact (hresolved.banned r hr).isClean
  exact
    { criterion := hresolved.criterion
      triangle := hresolved.fits.isSome_iff
      weights := hweights
      distance := hdistance
      speed := hspeed
      modes := hresolved.modes
      places := hresolved.places
      order := fun h => by
        rw [← Search.ordersTransit_eq_true_iff, hresolved.ordersTransit] at h
        cases h
      offset := hresolved.offset
      routes := hroutes
      nulls := fun path => Search.nullAt_document_iff hdistance hspeed fun w hw =>
        ⟨(hweights w hw).safety, (hweights w hw).slope, (hweights w hw).time⟩ }

/-- The weights imply the triangle, and one route is banned. -/
theorem triangle_search_isReliable :
    ∃ (pairs : List (String × String)) (q : Query) (s : Search),
      (decode pairs).outcome = .ok q ∧ (q.search .quarterToNine 0).outcome = .ok s ∧
        s.weights = some ⟨0.1, 0.2, 0.7⟩ ∧ s.banned = [⟨"A", "1"⟩] ∧ s.IsReliable .utc := by
  let pairs := [("triangleSafetyFactor", "0.1"), ("triangleSlopeFactor", " 0.2"),
    ("triangleTimeFactor", "7e-1"), ("bannedRoutes", " A_1 , ")]
  let q := ofSettings [.indexed .triangleSafetyFactor 0.1, .indexed .triangleSlopeFactor 0.2,
    .indexed .triangleTimeFactor 0.7, .indexed .bannedRoutes " A_1 , "]
  let s := q.draft 0 .quarterToNine (.triangle, some ⟨0.1, 0.2, 0.7⟩) [] [] [⟨"A", "1"⟩]
  have hq : (decode pairs).outcome = .ok q := rfl
  have hs : (q.search .quarterToNine 0).outcome = .ok s := rfl
  exact ⟨pairs, q, s, hq, hs, rfl, rfl, search_isReliable hq hs⟩

end Query

end TripQuery
