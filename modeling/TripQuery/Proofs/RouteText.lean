import TripQuery.Route
import TripQuery.Proofs.Sequencing
import TripQuery.Proofs.Text.Respelling
import TripQuery.Proofs.Text.Separated

namespace TripQuery

/-!
# Routes and their texts

A route keeps the text it was read from, but for the blanks around it. So the texts of the routes
in a list, with commas between them, are a list that reads back as the same routes.
-/

namespace Route

theorem trim_of_ofPiece {piece : List Char} {r : Route} (h : ofPiece piece = .ok r) :
    trim piece = r.agency.toList ++ '_' :: r.name.toList ∧ '_' ∉ r.agency.toList ∧
      r.agency.toList ≠ [] ∧ r.name.toList ≠ [] := by
  unfold ofPiece ofChars? at h
  cases hcut : cutAt? '_' (trim piece) with
  | none => simp [hcut] at h
  | some parts =>
      obtain ⟨agency, name⟩ := parts
      obtain ⟨hjoin, hmark⟩ := eq_append_of_cutAt? hcut
      rw [hcut] at h
      by_cases hempty : agency = [] ∨ name = []
      · simp [hempty] at h
      · simp only [if_neg hempty, Except.ok.injEq] at h
        rw [not_or] at hempty
        rw [← h, String.toList_ofList, String.toList_ofList]
        exact ⟨hjoin, hmark, hempty⟩

theorem toList_text (r : Route) : r.text.toList = r.agency.toList ++ '_' :: r.name.toList := by
  simp [text]

/-- The text of a route that was read is what trimming leaves of its piece. -/
theorem toList_text_of_ofPiece {piece : List Char} {r : Route} (h : ofPiece piece = .ok r) :
    r.text.toList = trim piece := by
  rw [toList_text, (trim_of_ofPiece h).1]

theorem ofPiece_eq_error_iff {piece : List Char} {e : MalformedRoute} :
    ofPiece piece = .error e ↔
      ofChars? (trim piece) = none ∧ e = ⟨String.ofList (trim piece)⟩ := by
  unfold ofPiece
  cases ofChars? (trim piece) with
  | none => simp [eq_comm]
  | some r => simp

theorem ofPiece_congr {a b : List Char} (h : trim a = trim b) : ofPiece a = ofPiece b := by
  rw [ofPiece, ofPiece, h]

/-- The text of a route that was read, and that holds no comma. -/
def IsListed (r : Route) : Prop := ofPiece r.text.toList = .ok r ∧ ',' ∉ r.text.toList

theorem isListed_of_ofPiece {piece : List Char} {r : Route} (h : ofPiece piece = .ok r)
    (hcomma : ',' ∉ piece) : r.IsListed := by
  have htext := toList_text_of_ofPiece h
  constructor
  · rw [htext, ofPiece_congr (trim_trim piece)]
    exact h
  · rw [htext]
    exact fun hmem => hcomma (mem_of_mem_trim hmem)

theorem IsListed.not_blank {r : Route} (h : r.IsListed) :
    r.text.toList.all isBlank = false := by
  apply eq_false_of_ne_true
  intro hall
  have hread := h.1
  have htrim : trim r.text.toList = trim [] := trim_eq_nil_iff.mpr hall
  have hnil : ofPiece [] = .error ⟨""⟩ := rfl
  rw [ofPiece_congr htrim, hnil] at hread
  cases hread

theorem comma_notMem_of_mem_pieces {cs piece : List Char} (h : piece ∈ pieces cs) :
    ',' ∉ piece := by
  intro hcomma
  have hsplit := (List.mem_filter.mp h).1
  have hmark := eq_false_of_mem_splitOnP hsplit hcomma
  simp at hmark

theorem isListed_of_readList {s : String} {rs : List Route} (h : readList s = .ok rs) :
    ∀ r ∈ rs, r.IsListed := by
  intro r hr
  obtain ⟨piece, hpiece, hread⟩ := (mem_iff_of_mapM_eq_ok h).mp hr
  exact isListed_of_ofPiece hread (comma_notMem_of_mem_pieces hpiece)

theorem map_trim_pieces (cs : List Char) :
    (pieces cs).map trim =
      ((cs.splitOnP (· == ',')).map trim).filter fun piece => !piece.isEmpty := by
  have hblank (piece : List Char) : (!(trim piece).isEmpty) = !piece.all isBlank := by
    rw [Bool.not_inj_iff, Bool.eq_iff_iff, List.isEmpty_iff, trim_eq_nil_iff]
  rw [List.filter_map, pieces]
  congr 2
  funext piece
  exact (hblank piece).symm

theorem readList_eq_mapM_trim (s : String) :
    readList s = ((pieces s.toList).map trim).mapM ofPiece := by
  have htrim : ofPiece ∘ trim = ofPiece := funext fun piece => ofPiece_congr (trim_trim piece)
  rw [List.mapM_map, htrim, readList]

/-- The blanks around a list of routes have no bearing on what is read. -/
theorem readList_congr {s t : String} (h : SameTrimmed s t) : readList s = readList t := by
  have htrim : trim s.toList = trim t.toList := h
  have hcomma : ∀ c, isBlank c = true → (c == ',') = false := by
    intro c hc
    rw [beq_eq_false_iff_ne]
    rintro rfl
    cases hc
  have hpieces : (pieces s.toList).map trim = (pieces t.toList).map trim := by
    rw [map_trim_pieces, map_trim_pieces, ← map_trim_splitOnP_trim hcomma, htrim,
      map_trim_splitOnP_trim hcomma]
  rw [readList_eq_mapM_trim, hpieces, ← readList_eq_mapM_trim]

/-- A blank text lists nothing. -/
theorem readList_of_blank {s : String} (h : isBlankText s = true) : readList s = .ok [] :=
  readList_congr (t := "") (trim_eq_nil_iff.mpr h)

/-- A text of pieces without commas is split into these pieces, and the blank ones are dropped. -/
theorem pieces_intercalate {ps : List String} (h : ∀ p ∈ ps, ',' ∉ p.toList) :
    pieces (",".intercalate ps).toList =
      (ps.map String.toList).filter fun piece => !piece.all isBlank := by
  have hjoin := toList_intercalate_map id ps
  rw [List.map_id] at hjoin
  rw [hjoin, pieces]
  by_cases hne : ps = []
  · rw [hne]
    rfl
  · have hcomma : (',' == ',') = true := rfl
    have hsplit := splitOnP_intercalate (p := (· == ',')) hcomma (ps.map String.toList)
      (by simpa using hne) (by
        intro piece hpiece c hc
        obtain ⟨p, hp, rfl⟩ := List.mem_map.mp hpiece
        rw [beq_eq_false_iff_ne]
        rintro rfl
        exact h p hp hc)
    exact congrArg _ hsplit

/-- A list of texts of routes reads back, with any blank pieces among them. -/
theorem readList_intercalate {rs : List Route} (h : ∀ r ∈ rs, r.IsListed) {ps : List String}
    (hps : ps.filter (fun p => !isBlankText p) = rs.map text) :
    readList (",".intercalate ps) = .ok rs := by
  have hcomma : ∀ p ∈ ps, ',' ∉ p.toList := by
    intro p hp hmem
    cases hblank : isBlankText p with
    | true =>
        have hcommaBlank : isBlank ',' = true := List.all_eq_true.mp hblank ',' hmem
        cases hcommaBlank
    | false =>
        have hlisted : p ∈ rs.map text := by
          rw [← hps]
          exact List.mem_filter.mpr ⟨hp, by rw [hblank]; rfl⟩
        obtain ⟨r, hr, rfl⟩ := List.mem_map.mp hlisted
        exact (h r hr).2 hmem
  have hpieces : (ps.map String.toList).filter (fun piece => !piece.all isBlank) =
      rs.map fun r => r.text.toList := by
    have hlists := congrArg (List.map String.toList) hps
    rw [List.map_map] at hlists
    rw [List.filter_map]
    exact hlists
  rw [readList, pieces_intercalate hcomma, hpieces, mapM_eq_ok_iff, List.map_map,
    List.map_inj_left]
  intro r hr
  exact (h r hr).1

/-- A list of texts of routes reads back. -/
theorem readList_texts {rs : List Route} (h : ∀ r ∈ rs, r.IsListed) :
    readList (",".intercalate (rs.map text)) = .ok rs := by
  apply readList_intercalate h
  rw [List.filter_eq_self]
  intro p hp
  obtain ⟨r, hr, rfl⟩ := List.mem_map.mp hp
  rw [isBlankText, (h r hr).not_blank]
  rfl

end Route

end TripQuery
