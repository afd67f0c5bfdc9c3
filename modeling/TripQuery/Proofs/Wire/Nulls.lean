import TripQuery.Search.Answer

namespace TripQuery

/-!
# Nulls in answers

A document may hold nulls, each at a path of field names. An answer holds one for each text and
for the weights that a search goes without, and none elsewhere as long as its numbers are finite.
-/

namespace Document

/-- There is a null behind the field names of the path; lists are looked through. -/
inductive NullAt : Document → List String → Prop
  | null : NullAt .null []
  | item {items : List Document} {d : Document} {path : List String} (hmem : d ∈ items)
      (h : NullAt d path) : NullAt (.list items) path
  | field {fields : List (String × Document)} {name : String} {d : Document}
      {path : List String} (hmem : (name, d) ∈ fields) (h : NullAt d path) :
      NullAt (.record fields) (name :: path)

variable {path : List String}

@[simp] theorem nullAt_null : null.NullAt path ↔ path = [] := by
  constructor
  · rintro ⟨⟩
    rfl
  · rintro rfl
    exact .null

@[simp] theorem not_nullAt_flag (b : Bool) : ¬ (flag b).NullAt path := by
  rintro ⟨⟩

@[simp] theorem not_nullAt_number (n : Nat) : ¬ (number n).NullAt path := by
  rintro ⟨⟩

@[simp] theorem not_nullAt_real (x : Float) : ¬ (real x).NullAt path := by
  rintro ⟨⟩

@[simp] theorem not_nullAt_text (s : String) : ¬ (text s).NullAt path := by
  rintro ⟨⟩

@[simp] theorem not_nullAt_record_nil : ¬ (record []).NullAt path := by
  rintro (_ | _ | ⟨hmem, -⟩)
  cases hmem

@[simp] theorem nullAt_record_cons {name : String} {d : Document}
    {fields : List (String × Document)} :
    (record ((name, d) :: fields)).NullAt path ↔
      (∃ rest, path = name :: rest ∧ d.NullAt rest) ∨ (record fields).NullAt path := by
  constructor
  · rintro (_ | _ | ⟨hmem, h⟩)
    rcases List.mem_cons.mp hmem with heq | hmem
    · cases heq
      exact Or.inl ⟨_, rfl, h⟩
    · exact Or.inr (.field hmem h)
  · rintro (⟨rest, rfl, h⟩ | h)
    · exact .field List.mem_cons_self h
    · cases h with
      | field hmem h => exact .field (List.mem_cons_of_mem _ hmem) h

@[simp] theorem nullAt_ofText? {s : Option String} :
    (ofText? s).NullAt path ↔ path = [] ∧ s = none := by
  cases s <;> simp [ofText?]

theorem not_nullAt_ofFloat {x : Float} (h : x.isFinite = true) : ¬ (ofFloat x).NullAt path := by
  rw [ofFloat, if_pos h]
  exact not_nullAt_real x

end Document

open Document

variable {path : List String}

@[simp] theorem Answer.not_nullAt_texts (ss : List String) : ¬ (Answer.texts ss).NullAt path := by
  rintro (_ | ⟨hmem, h⟩)
  obtain ⟨s, -, rfl⟩ := List.mem_map.mp hmem
  cases h

theorem Weights.not_nullAt_document {w : Weights} (hsafety : w.safety.isFinite = true)
    (hslope : w.slope.isFinite = true) (htime : w.time.isFinite = true) :
    ¬ w.document.NullAt path := by
  simp [Weights.document, not_nullAt_ofFloat hsafety, not_nullAt_ofFloat hslope,
    not_nullAt_ofFloat htime]

/-- Nulls stand only for what a search goes without: its router, its ends, its weights. -/
theorem Search.nullAt_document_iff {s : Search} (hdistance : s.maxWalkDistance.isFinite = true)
    (hspeed : s.walkSpeed.isFinite = true)
    (hweights : ∀ w, s.weights = some w →
      w.safety.isFinite = true ∧ w.slope.isFinite = true ∧ w.time.isFinite = true) :
    s.answer.document.NullAt path ↔
      path = ["router_id"] ∧ s.router = none ∨ path = ["from"] ∧ s.origin = none ∨
        path = ["to"] ∧ s.destination = none ∨ path = ["triangle"] ∧ s.weights = none := by
  have hnull : ∀ (name : String) (p : Prop),
      (∃ rest, path = name :: rest ∧ rest = [] ∧ p) ↔ path = [name] ∧ p := by
    intro name p
    constructor
    · rintro ⟨rest, rfl, rfl, hp⟩
      exact ⟨rfl, hp⟩
    · rintro ⟨rfl, hp⟩
      exact ⟨[], rfl, rfl, hp⟩
  cases hw : s.weights with
  | none =>
      simp [Answer.document, Search.answer, Answer.count, hw, hnull, not_nullAt_ofFloat hdistance,
        not_nullAt_ofFloat hspeed]
  | some w =>
      obtain ⟨hsafety, hslope, htime⟩ := hweights w hw
      simp [Answer.document, Search.answer, Answer.count, hw, hnull, not_nullAt_ofFloat hdistance,
        not_nullAt_ofFloat hspeed, Weights.not_nullAt_document hsafety hslope htime]

end TripQuery
