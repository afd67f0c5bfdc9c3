import Mathlib.Data.List.Forall2
import TripQuery.Proofs.RouteText

namespace TripQuery

/-!
# Lists of routes

A list of routes is read piece by piece. It holds a route for each piece that is not blank, in the
order of the pieces, and a piece that names no route is the fault of the whole list. Two lists with
a comma between them are read one after the other.
-/

namespace Route

/-- The piece names the route, with blanks around it: the agency stands in front of the first
underscore, and the name behind it. -/
def IsNamed (piece : List Char) (r : Route) : Prop :=
  trim piece = r.agency.toList ++ '_' :: r.name.toList ∧ '_' ∉ r.agency.toList ∧
    r.agency.toList ≠ [] ∧ r.name.toList ≠ []

variable {piece : List Char} {r t : Route} {s : String} {rs ts : List Route} {e : MalformedRoute}

theorem ofPiece_eq_ok_iff : ofPiece piece = .ok r ↔ IsNamed piece r := by
  constructor
  · exact trim_of_ofPiece
  · rintro ⟨htrim, hmark, hagency, hname⟩
    have hparts : ¬ (r.agency.toList = [] ∨ r.name.toList = []) := not_or.mpr ⟨hagency, hname⟩
    have hchars : ofChars? (trim piece) = some r := by
      rw [ofChars?, htrim, cutAt?_append hmark]
      simp only [if_neg hparts, String.ofList_toList]
    rw [ofPiece, hchars]

theorem ofPiece_eq_error_iff_not_named :
    ofPiece piece = .error e ↔
      (¬ ∃ r, IsNamed piece r) ∧ e.text = String.ofList (trim piece) := by
  have hnamed : (∃ r, IsNamed piece r) ↔ ofChars? (trim piece) ≠ none := by
    simp only [← ofPiece_eq_ok_iff, ofPiece]
    cases ofChars? (trim piece) <;> simp
  obtain ⟨text⟩ := e
  rw [ofPiece_eq_error_iff, hnamed, not_ne_iff, MalformedRoute.mk.injEq]

theorem readList_eq_ok_iff :
    readList s = .ok rs ↔ List.Forall₂ IsNamed (pieces s.toList) rs := by
  rw [readList, mapM_eq_ok_iff, ← List.forall₂_eq_eq_eq, List.forall₂_map_left_iff,
    List.forall₂_map_right_iff]
  simp only [ofPiece_eq_ok_iff]

theorem readList_eq_error_iff :
    readList s = .error e ↔
      ∃ before piece after, pieces s.toList = before ++ piece :: after ∧
        (∀ x ∈ before, ∃ r, IsNamed x r) ∧ (¬ ∃ r, IsNamed piece r) ∧
          e.text = String.ofList (trim piece) := by
  simp only [readList, mapM_eq_error_iff, ofPiece_eq_ok_iff, ofPiece_eq_error_iff_not_named]

theorem exists_readList_iff :
    (∃ rs, readList s = .ok rs) ↔ ∀ piece ∈ pieces s.toList, ∃ r, IsNamed piece r := by
  simp only [readList, exists_mapM_eq_ok_iff, ofPiece_eq_ok_iff]

theorem pieces_append (a b : List Char) : pieces (a ++ ',' :: b) = pieces a ++ pieces b := by
  rw [pieces, List.splitOnP_append_cons a b (by rfl), List.filter_append, pieces, pieces]

theorem readList_append (a b : String) :
    readList (a ++ "," ++ b) = do return (← readList a) ++ (← readList b) := by
  have hchars : (a ++ "," ++ b).toList = a.toList ++ ',' :: b.toList := by simp
  rw [readList, hchars, pieces_append, List.mapM_append]
  rfl

theorem read_text_of_read (h : read s = .ok r) : read r.text = .ok r := by
  have htext := toList_text_of_ofPiece h
  rw [read, htext, ofPiece_congr (trim_trim _)]
  exact h

/-- Routes that were read are told apart by their texts. -/
theorem eq_of_text_eq {other : String} (hr : read s = .ok r) (ht : read other = .ok t)
    (h : r.text = t.text) : r = t := by
  have hread := read_text_of_read hr
  rw [h, read_text_of_read ht] at hread
  exact (Except.ok.inj hread).symm

/-- What is read of two lists with a comma between them is what is read of the one and then of the
other. The texts of routes that were read are a list of them, with any blank pieces among them, and
no two routes that can be read share a text. A list is read when each of its pieces that is not
blank names a route, and then it is these routes in order; else the first piece that names none is
reported. -/
theorem readList_by_pieces (s : String) :
    (∀ other, readList (s ++ "," ++ other) =
      do return (← readList s) ++ (← readList other)) ∧
    (∀ rs, readList s = .ok rs →
      readList (",".intercalate (rs.map text)) = .ok rs ∧
        ∀ ps : List String, ps.filter (fun p => !isBlankText p) = rs.map text →
          readList (",".intercalate ps) = .ok rs) ∧
    (∀ other r t, read s = .ok r → read other = .ok t → r.text = t.text → r = t) ∧
    let listed := (s.toList.splitOn ',').filter fun piece => !piece.all isBlank
    ((∃ rs, readList s = .ok rs) ↔ ∀ piece ∈ listed, ∃ r, IsNamed piece r) ∧
    (∀ rs, readList s = .ok rs ↔ List.Forall₂ IsNamed listed rs) ∧
    ∀ e, readList s = .error e ↔
      ∃ before piece after, listed = before ++ piece :: after ∧
        (∀ x ∈ before, ∃ r, IsNamed x r) ∧ (¬ ∃ r, IsNamed piece r) ∧
          e.text = String.ofList (trim piece) := by
  refine ⟨readList_append s, fun rs hrs => ?_, fun other r t => eq_of_text_eq,
    exists_readList_iff, fun rs => readList_eq_ok_iff, fun e => readList_eq_error_iff⟩
  have hlisted := isListed_of_readList hrs
  exact ⟨readList_texts hlisted, fun ps hps => readList_intercalate hlisted hps⟩

/-- The first underscore divides, blanks go, and what stands twice is kept twice. -/
example : readList " a_1_x ,\u3000,b_ 2,,b_ 2" = .ok [⟨"a", "1_x"⟩, ⟨"b", " 2"⟩, ⟨"b", " 2"⟩] := by
  decide +kernel

end Route

end TripQuery
