import TripQuery.Mode
import TripQuery.Proofs.Sequencing
import TripQuery.Proofs.Text.Respelling
import TripQuery.Proofs.Text.Separated
import TripQuery.Proofs.Text.UpperCase

namespace TripQuery

/-!
# Sets of modes and their texts

The text of a set of modes, its members' names between commas, reads back as the same set. Only
the empty set has no text that can be read. What is read is the same in upper case.
-/

namespace ModeName

/-- A mode is named as it is displayed, and the aliases have texts of their own. -/
def text : ModeName → String
  | single m => m.name
  | transit => "TRANSIT"
  | trainish => "TRAINISH"
  | busish => "BUSISH"

/-- The vocabulary holds the text of each name, and nothing else. -/
theorem mem_vocabulary_iff {text : String} {n : ModeName} :
    (text, n) ∈ vocabulary ↔ text = n.text := by
  constructor
  · intro h
    have hall : ∀ entry ∈ vocabulary, entry.1 = entry.2.text := by decide
    exact hall _ h
  · rintro rfl
    cases n with
    | single m => cases m <;> decide
    | transit => decide
    | trainish => decide
    | busish => decide

theorem ofWord?_text (n : ModeName) : ofWord? n.text.toList = some n := by
  have hall : ∀ entry ∈ vocabulary, ofWord? entry.1.toList = some entry.2 := by decide +kernel
  exact hall (n.text, n) (mem_vocabulary_iff.mpr rfl)

end ModeName

namespace Mode

theorem isSeparator_eq_false_of_mem_name (m : Mode) :
    ∀ c ∈ m.name.toList, ModeSet.isSeparator c = false := by
  have hall : (m.name.toList.all fun c => !ModeSet.isSeparator c) = true := by
    cases m <;> rfl
  intro c hc
  simpa using List.all_eq_true.mp hall c hc

theorem name_ne_nil (m : Mode) : m.name.toList ≠ [] := by
  cases m <;> decide

theorem readWord_name (m : Mode) : ModeSet.readWord m.name.toList = .ok (.single m) := by
  have hword : ModeName.ofWord? m.name.toList = some (.single m) :=
    ModeName.ofWord?_text (.single m)
  rw [ModeSet.readWord, hword]

end Mode

namespace ModeSet

theorem isSeparator_comma : isSeparator ',' = true := rfl

theorem words_names {ms : List Mode} (hne : ms ≠ []) :
    words (",".intercalate (ms.map Mode.name)).toList = ms.map fun m => m.name.toList := by
  have hsplit := splitOnP_intercalate isSeparator_comma
    (ms.map fun m => m.name.toList) (by simpa using hne) (by
      intro piece hpiece
      obtain ⟨m, -, rfl⟩ := List.mem_map.mp hpiece
      exact m.isSeparator_eq_false_of_mem_name)
  rw [toList_intercalate_map, words, hsplit, List.filter_eq_self]
  intro word hword
  obtain ⟨m, -, rfl⟩ := List.mem_map.mp hword
  simpa using m.name_ne_nil

theorem ofNames_single (s : ModeSet) : ofNames (s.members.map .single) = s := by
  ext m
  rw [has_ofNames, Bool.eq_iff_iff, List.any_map, List.any_eq_true, ← mem_members]
  simp [ModeName.modes]

theorem readWords_names (ms : List Mode) :
    (ms.map fun m => m.name.toList).mapM readWord = .ok (ms.map .single) := by
  rw [mapM_eq_ok_iff, List.map_map, List.map_map, List.map_inj_left]
  intro m _
  exact m.readWord_name

theorem exists_mem_modes (n : ModeName) : ∃ m, m ∈ n.modes := by
  cases n with
  | single m => exact ⟨m, List.mem_singleton_self m⟩
  | transit => exact ⟨.bus, by decide⟩
  | trainish => exact ⟨.tram, by decide⟩
  | busish => exact ⟨.bus, by decide⟩

/-- No name stands for no mode. -/
theorem bits_ofNames_eq_zero_iff {ns : List ModeName} : (ofNames ns).bits = 0 ↔ ns = [] := by
  constructor
  · intro h
    cases ns with
    | nil => rfl
    | cons n ns =>
        obtain ⟨m, hm⟩ := exists_mem_modes n
        have hhas : (ofNames (n :: ns)).has m = true := by simp [hm]
        rw [has_eq_getLsbD, h] at hhas
        simp at hhas
  · rintro rfl
    rfl

theorem read_eq_bind (s : String) :
    read s = (words s.toList).mapM readWord >>= fun names =>
      if names = [] then .error .noneGiven else .ok (ofNames names) := by
  rw [read]
  congr 1
  funext names
  by_cases h : names = []
  · rw [if_pos h, h]
    rfl
  · rw [if_neg h]
    simp only [mt bits_ofNames_eq_zero_iff.mp h, if_false]
    rfl

theorem read_eq_ok_iff {text : String} {s : ModeSet} :
    read text = .ok s ↔
      ∃ names, (words text.toList).mapM readWord = .ok names ∧ names ≠ [] ∧ s = ofNames names := by
  rw [read_eq_bind, exceptBind_eq_ok_iff]
  refine exists_congr fun names => and_congr_right fun _ => ?_
  by_cases h : names = []
  · simp [h]
  · simp [h, eq_comm]

/-- What is read off a set's text is the set. -/
theorem read_text {s : ModeSet} (hne : s.members ≠ []) : read s.text = .ok s := by
  rw [read_eq_ok_iff]
  refine ⟨s.members.map .single, ?_, by simpa using hne, (ofNames_single s).symm⟩
  rw [text, words_names hne]
  exact readWords_names s.members

theorem members_ne_nil_of_read {text : String} {s : ModeSet} (h : read text = .ok s) :
    s.members ≠ [] := by
  obtain ⟨names, -, hne, rfl⟩ := read_eq_ok_iff.mp h
  obtain ⟨n, ns, rfl⟩ := List.exists_cons_of_ne_nil hne
  obtain ⟨m, hm⟩ := exists_mem_modes n
  apply List.ne_nil_of_mem (a := m)
  rw [mem_members]
  simp [hm]

theorem isSeparator_toUpper (c : Char) : isSeparator c.toUpper = isSeparator c := by
  refine apply_toUpper (fun a ha => ?_) c
  rw [isSeparator, isBlank_eq_false_of_isAlpha ha, Bool.or_false, Bool.or_eq_false_iff,
    beq_eq_false_iff_ne, beq_eq_false_iff_ne]
  constructor
  · rintro rfl
    cases ha
  · rintro rfl
    cases ha

theorem words_map_toUpper (cs : List Char) :
    words (cs.map Char.toUpper) = (words cs).map (List.map Char.toUpper) := by
  rw [words, splitOnP_map isSeparator_toUpper, List.filter_map, words]
  congr 2
  funext word
  cases word <;> rfl

theorem ofWord?_map_toUpper (word : List Char) :
    ModeName.ofWord? (word.map Char.toUpper) = ModeName.ofWord? word := by
  have hidem : Char.toUpper ∘ Char.toUpper = Char.toUpper :=
    funext Char.toUpper_toUpper_eq_toUpper
  rw [ModeName.ofWord?, List.map_map, hidem, ModeName.ofWord?]

theorem toOption_readWord (word : List Char) :
    (readWord word).toOption = ModeName.ofWord? word := by
  rw [readWord]
  cases ModeName.ofWord? word <;> rfl

theorem toOption_read (s : String) :
    (read s).toOption =
      ((words (s.toList.map Char.toUpper)).mapM ModeName.ofWord?).bind fun names =>
        if names.isEmpty then none else some (ofNames names) := by
  have hwords : (words (s.toList.map Char.toUpper)).mapM ModeName.ofWord? =
      ((words s.toList).mapM readWord).toOption := by
    rw [words_map_toUpper, List.mapM_map, toOption_mapM]
    congr 1
    funext word
    exact (ofWord?_map_toUpper word).trans (toOption_readWord word).symm
  rw [hwords, read_eq_bind]
  cases (words s.toList).mapM readWord with
  | error e => rfl
  | ok names => cases names <;> rfl

/-- Which letters are in upper case has no bearing on the modes read. -/
theorem read_congr {s t : String} {modes : ModeSet}
    (h : s.toList.map Char.toUpper = t.toList.map Char.toUpper) :
    read s = .ok modes ↔ read t = .ok modes := by
  rw [← toOption_eq_some_iff, toOption_read, h, ← toOption_read, toOption_eq_some_iff]

theorem members_standard_ne_nil : standard.members ≠ [] := by decide

end ModeSet

end TripQuery
