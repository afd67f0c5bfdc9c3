import TripQuery.Proofs.ModeText

namespace TripQuery

/-!
# The words of a set of modes

A set of modes is read word by word. Each word asks for one mode by its name or for several by an
alias, in any case, and the set holds what some word asks for. So the words count, and neither their
order nor their number nor what stands between them does.
-/

namespace ModeName

variable {word : List Char} {n : ModeName} {m : Mode}

theorem ofWord?_eq_some_iff : ofWord? word = some n ↔ word.map Char.toUpper = n.text.toList := by
  constructor
  · intro h
    obtain ⟨⟨text, n'⟩, hfind, rfl⟩ := Option.map_eq_some_iff.mp h
    have htext : text.toList = word.map Char.toUpper := by simpa using List.find?_some hfind
    rw [← htext, mem_vocabulary_iff.mp (List.mem_of_find?_eq_some hfind)]
  · intro h
    rw [← ModeSet.ofWord?_map_toUpper, h, ofWord?_text]

/-- The alias of transit stands for the modes of transit, which are listed without it. -/
theorem mem_modes_transit : m ∈ transit.modes ↔ m.isTransit = true := by
  cases m <;> decide

end ModeName

namespace ModeSet

def aliases : List String := ["TRANSIT", "TRAINISH", "BUSISH"]

theorem mem_aliases {text : String} :
    text ∈ aliases ↔ text = "TRANSIT" ∨ text = "TRAINISH" ∨ text = "BUSISH" := by
  simp [aliases]

/-- The word is the name of a mode or an alias, in any case. -/
def IsKnown (word : List Char) : Prop :=
  (∃ m : Mode, word.map Char.toUpper = m.name.toList) ∨
    ∃ text ∈ aliases, word.map Char.toUpper = text.toList

/-- The word is the name of the mode or an alias for it, in any case. -/
def AsksFor (word : List Char) (m : Mode) : Prop :=
  word.map Char.toUpper = m.name.toList ∨
    (word.map Char.toUpper = "TRANSIT".toList ∧ m.isTransit = true) ∨
    (word.map Char.toUpper = "TRAINISH".toList ∧ m ∈ [Mode.tram, .subway, .rail]) ∨
    word.map Char.toUpper = "BUSISH".toList ∧ m ∈ [Mode.bus, .cableCar]

variable {word : List Char} {m : Mode} {s other : String} {a b modes : ModeSet}

theorem isKnown_iff : IsKnown word ↔ ∃ n, ModeName.ofWord? word = some n := by
  simp only [ModeName.ofWord?_eq_some_iff]
  constructor
  · rintro (⟨m, h⟩ | ⟨text, htext, h⟩)
    · exact ⟨.single m, h⟩
    · rcases mem_aliases.mp htext with rfl | rfl | rfl
      · exact ⟨.transit, h⟩
      · exact ⟨.trainish, h⟩
      · exact ⟨.busish, h⟩
  · rintro ⟨n, h⟩
    cases n with
    | single m => exact Or.inl ⟨m, h⟩
    | transit => exact Or.inr ⟨"TRANSIT", by decide, h⟩
    | trainish => exact Or.inr ⟨"TRAINISH", by decide, h⟩
    | busish => exact Or.inr ⟨"BUSISH", by decide, h⟩

theorem asksFor_iff : AsksFor word m ↔ ∃ n, ModeName.ofWord? word = some n ∧ m ∈ n.modes := by
  simp only [ModeName.ofWord?_eq_some_iff]
  constructor
  · rintro (h | ⟨h, hm⟩ | ⟨h, hm⟩ | ⟨h, hm⟩)
    · exact ⟨.single m, h, List.mem_singleton_self m⟩
    · exact ⟨.transit, h, ModeName.mem_modes_transit.mpr hm⟩
    · exact ⟨.trainish, h, hm⟩
    · exact ⟨.busish, h, hm⟩
  · rintro ⟨n, h, hm⟩
    cases n with
    | single x =>
        rw [ModeName.modes, List.mem_singleton] at hm
        rw [hm]
        exact Or.inl h
    | transit => exact Or.inr (Or.inl ⟨h, ModeName.mem_modes_transit.mp hm⟩)
    | trainish => exact Or.inr (Or.inr (Or.inl ⟨h, hm⟩))
    | busish => exact Or.inr (Or.inr (Or.inr ⟨h, hm⟩))

/-- A word asks for some mode of transit if it names one, or is an alias. -/
theorem exists_asksFor_transit_iff :
    (∃ m, AsksFor word m ∧ m.isTransit = true) ↔
      (∃ m : Mode, m.isTransit = true ∧ word.map Char.toUpper = m.name.toList) ∨
        ∃ text ∈ aliases, word.map Char.toUpper = text.toList := by
  constructor
  · rintro ⟨m, h | ⟨h, -⟩ | ⟨h, -⟩ | ⟨h, -⟩, hm⟩
    · exact Or.inl ⟨m, hm, h⟩
    · exact Or.inr ⟨"TRANSIT", by decide, h⟩
    · exact Or.inr ⟨"TRAINISH", by decide, h⟩
    · exact Or.inr ⟨"BUSISH", by decide, h⟩
  · rintro (⟨m, hm, h⟩ | ⟨text, htext, h⟩)
    · exact ⟨m, Or.inl h, hm⟩
    · rcases mem_aliases.mp htext with rfl | rfl | rfl
      · exact ⟨.bus, Or.inr (Or.inl ⟨h, rfl⟩), rfl⟩
      · exact ⟨.tram, Or.inr (Or.inr (Or.inl ⟨h, by decide⟩)), rfl⟩
      · exact ⟨.bus, Or.inr (Or.inr (Or.inr ⟨h, by decide⟩)), rfl⟩

theorem readWord_eq_ok_iff {n : ModeName} :
    readWord word = .ok n ↔ ModeName.ofWord? word = some n := by
  rw [← toOption_eq_some_iff, toOption_readWord]

theorem readWord_eq_error_iff {e : ModeFault} :
    readWord word = .error e ↔ ¬ IsKnown word ∧ e = .unknown (String.ofList word) := by
  rw [isKnown_iff, readWord]
  cases ModeName.ofWord? word <;> simp [eq_comm]

theorem exists_read_iff :
    (∃ modes, read s = .ok modes) ↔
      words s.toList ≠ [] ∧ ∀ word ∈ words s.toList, IsKnown word := by
  have hknown : (∃ names, (words s.toList).mapM readWord = .ok names) ↔
      ∀ word ∈ words s.toList, IsKnown word := by
    simp only [exists_mapM_eq_ok_iff, readWord_eq_ok_iff, isKnown_iff]
  have hempty {names : List ModeName} (h : (words s.toList).mapM readWord = .ok names) :
      names = [] ↔ words s.toList = [] := by
    have hlength := congrArg List.length (mapM_eq_ok_iff.mp h)
    rw [List.length_map, List.length_map] at hlength
    rw [← List.length_eq_zero_iff, ← hlength, List.length_eq_zero_iff]
  simp only [read_eq_ok_iff, ← hknown]
  constructor
  · rintro ⟨modes, names, hnames, hne, -⟩
    exact ⟨mt (hempty hnames).mpr hne, names, hnames⟩
  · rintro ⟨hne, names, hnames⟩
    exact ⟨ofNames names, names, hnames, mt (hempty hnames).mp hne, rfl⟩

theorem read_eq_error_iff {e : ModeFault} :
    read s = .error e ↔
      (words s.toList = [] ∧ e = .noneGiven) ∨
        ∃ before word after, words s.toList = before ++ word :: after ∧
          (∀ x ∈ before, IsKnown x) ∧ ¬ IsKnown word ∧ e = .unknown (String.ofList word) := by
  have hnone (names : List ModeName) :
      (if names = [] then .error .noneGiven else .ok (ofNames names) : Except ModeFault ModeSet) =
        .error e ↔ names = [] ∧ e = .noneGiven := by
    by_cases h : names = []
    · simp [h, eq_comm]
    · simp [h]
  have hempty : (∃ names, (words s.toList).mapM readWord = .ok names ∧ names = [] ∧
      e = .noneGiven) ↔ words s.toList = [] ∧ e = .noneGiven := by
    constructor
    · rintro ⟨names, hnames, rfl, he⟩
      exact ⟨List.map_eq_nil_iff.mp (mapM_eq_ok_iff.mp hnames), he⟩
    · rintro ⟨hwords, he⟩
      exact ⟨[], by rw [hwords]; rfl, rfl, he⟩
  rw [read_eq_bind, exceptBind_eq_error_iff, or_comm]
  simp only [hnone, hempty, mapM_eq_error_iff, readWord_eq_ok_iff, readWord_eq_error_iff,
    isKnown_iff]

/-- A mode is in the set exactly when some word asks for it. -/
theorem has_iff_of_read (h : read s = .ok modes) :
    modes.has m = true ↔ ∃ word ∈ words s.toList, AsksFor word m := by
  obtain ⟨names, hnames, -, rfl⟩ := read_eq_ok_iff.mp h
  simp only [has_ofNames, List.any_eq_true, decide_eq_true_eq, mem_iff_of_mapM_eq_ok hnames,
    readWord_eq_ok_iff, asksFor_iff]
  grind

theorem isTransit_iff_of_read (h : read s = .ok modes) :
    modes.isTransit = true ↔ ∃ word ∈ words s.toList,
      (∃ m : Mode, m.isTransit = true ∧ word.map Char.toUpper = m.name.toList) ∨
        ∃ text ∈ aliases, word.map Char.toUpper = text.toList := by
  simp only [isTransit_iff, has_iff_of_read h, ← exists_asksFor_transit_iff]
  grind

theorem isSeparator_iff {c : Char} :
    isSeparator c = true ↔ c = ',' ∨ c = '+' ∨ isBlank c = true := by
  simp [isSeparator, or_assoc]

theorem words_append {c : Char} (hc : isSeparator c = true) (front back : List Char) :
    words (front ++ c :: back) = words front ++ words back := by
  rw [words, List.splitOnP_append_cons front back hc, List.filter_append, words, words]

theorem read_append {c : Char} (hc : isSeparator c = true) (ha : read s = .ok a)
    (hb : read other = .ok b) :
    ∃ union, read (s ++ String.singleton c ++ other) = .ok union ∧
      ∀ m, union.has m = (a.has m || b.has m) := by
  obtain ⟨ns, hns, hne, rfl⟩ := read_eq_ok_iff.mp ha
  obtain ⟨ms, hms, -, rfl⟩ := read_eq_ok_iff.mp hb
  have hchars : (s ++ String.singleton c ++ other).toList = s.toList ++ c :: other.toList := by
    simp
  have hwords : (words (s ++ String.singleton c ++ other).toList).mapM readWord =
      .ok (ns ++ ms) := by
    rw [hchars, words_append hc, List.mapM_append, hns, hms]
    rfl
  refine ⟨ofNames (ns ++ ms), read_eq_ok_iff.mpr ⟨_, hwords, by simp [hne], rfl⟩, fun m => ?_⟩
  rw [has_ofNames, has_ofNames, has_ofNames, List.any_append]

/-- Texts of the same words, in any case, in any order and however often, are read as the same. -/
theorem read_of_same_words
    (h : ∀ capitals : List Char, capitals ∈ (words s.toList).map (List.map Char.toUpper) ↔
      capitals ∈ (words other.toList).map (List.map Char.toUpper))
    (hs : read s = .ok modes) : read other = .ok modes := by
  have hthere : ∀ word ∈ words s.toList,
      ∃ x ∈ words other.toList, x.map Char.toUpper = word.map Char.toUpper := fun word hword =>
    List.mem_map.mp ((h _).mp (List.mem_map_of_mem hword))
  have hback : ∀ x ∈ words other.toList,
      ∃ word ∈ words s.toList, word.map Char.toUpper = x.map Char.toUpper := fun x hx =>
    List.mem_map.mp ((h _).mpr (List.mem_map_of_mem hx))
  obtain ⟨hne, hknown⟩ := exists_read_iff.mp ⟨modes, hs⟩
  have hread : ∃ t, read other = .ok t := by
    refine exists_read_iff.mpr ⟨?_, fun x hx => ?_⟩
    · obtain ⟨word, hword⟩ := List.exists_mem_of_ne_nil _ hne
      obtain ⟨x, hx, -⟩ := hthere word hword
      exact List.ne_nil_of_mem hx
    · obtain ⟨word, hword, hcapitals⟩ := hback x hx
      simpa only [IsKnown, hcapitals] using hknown word hword
  obtain ⟨t, ht⟩ := hread
  have hsame : t = modes := by
    ext m
    rw [Bool.eq_iff_iff, has_iff_of_read ht, has_iff_of_read hs]
    constructor
    · rintro ⟨x, hx, hasks⟩
      obtain ⟨word, hword, hcapitals⟩ := hback x hx
      exact ⟨word, hword, by simpa only [AsksFor, hcapitals] using hasks⟩
    · rintro ⟨word, hword, hasks⟩
      obtain ⟨x, hx, hcapitals⟩ := hthere word hword
      exact ⟨x, hx, by simpa only [AsksFor, hcapitals] using hasks⟩
  rw [ht, hsame]

theorem nodup_members (s : ModeSet) : s.members.Nodup := by
  have hall : Mode.all.Nodup := by decide
  exact hall.filter _

theorem members_sublist (s : ModeSet) : s.members.Sublist Mode.all := List.filter_sublist

/-- Two texts with a separator between them are read as the union. A text is read as a set of modes
when it has words, each of them the name of a mode or an alias; else the first word that is neither
is reported, or that there is none. The set holds what some word asks for, whatever the order and
the number of the words and what stands between them. Its members are listed once and in order,
their names read back, and transit is among them when some word names a mode of transit or is an
alias. -/
theorem read_by_words (s : String) :
    (∀ other c a b, c = ',' ∨ c = '+' ∨ isBlank c = true → read s = .ok a → read other = .ok b →
      ∃ union, read (s ++ String.singleton c ++ other) = .ok union ∧
        ∀ m, union.has m = (a.has m || b.has m)) ∧
    let listed := fun t : String =>
      (t.toList.splitOnP fun c => c == ',' || c == '+' || isBlank c).filter (!·.isEmpty)
    let spells := fun (word : List Char) (text : String) => word.map Char.toUpper = text.toList
    ((∃ modes, read s = .ok modes) ↔ listed s ≠ [] ∧ ∀ word ∈ listed s, IsKnown word) ∧
    (∀ e, read s = .error e ↔
      (listed s = [] ∧ e = .noneGiven) ∨
        ∃ before word after, listed s = before ++ word :: after ∧
          (∀ x ∈ before, IsKnown x) ∧ ¬ IsKnown word ∧ e = .unknown (String.ofList word)) ∧
    ∀ modes, read s = .ok modes →
      (∀ m, modes.has m = true ↔ ∃ word ∈ listed s, AsksFor word m) ∧
      (∀ other,
        (∀ capitals, capitals ∈ (listed s).map (List.map Char.toUpper) ↔
          capitals ∈ (listed other).map (List.map Char.toUpper)) → read other = .ok modes) ∧
      (modes.members.Nodup ∧ modes.members.Sublist Mode.all ∧
        ∀ m, m ∈ modes.members ↔ modes.has m = true) ∧
      read modes.text = .ok modes ∧
      (modes.isTransit = true ↔
        ∃ word ∈ listed s, (∃ m : Mode, m.isTransit = true ∧ spells word m.name) ∨
          ∃ text ∈ aliases, spells word text) := by
  refine ⟨fun other c a b hc => read_append (isSeparator_iff.mpr hc), exists_read_iff,
    fun e => read_eq_error_iff, fun modes h => ?_⟩
  exact ⟨fun m => has_iff_of_read h, fun other hwords => read_of_same_words hwords h,
    ⟨nodup_members modes, members_sublist modes, fun m => mem_members⟩,
    read_text (members_ne_nil_of_read h), isTransit_iff_of_read h⟩

/-- Names and an alias, with each kind of separator among them. -/
example : (read "bus+Trainish,\u00a0 ,tram").toOption.map members =
    some [.tram, .subway, .rail, .bus] := by
  decide +kernel

end ModeSet

end TripQuery
