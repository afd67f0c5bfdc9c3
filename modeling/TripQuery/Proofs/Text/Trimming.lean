import TripQuery.Text.Blank

namespace TripQuery

/-!
# Trimmed texts

Trimming leaves a text that has no blank at either end, and such a text it leaves alone. Nothing is
left exactly of a text of blanks. A run of characters, blanks or others, is the same whatever comes
behind a text, unless that could go on with the run.
-/

theorem takeWhile_append_of_head {p : Char → Bool} {tail : List Char}
    (h : ∀ c ∈ tail.head?, p c = false) (cs : List Char) :
    (cs ++ tail).takeWhile p = cs.takeWhile p := by
  induction cs with
  | nil =>
      cases tail with
      | nil => rfl
      | cons c tail =>
          rw [List.nil_append, List.takeWhile_cons_of_neg (by simp [h c rfl]), List.takeWhile_nil]
  | cons a cs ih => rw [List.cons_append, List.takeWhile_cons, List.takeWhile_cons, ih]

theorem dropWhile_append_of_head {p : Char → Bool} {tail : List Char}
    (h : ∀ c ∈ tail.head?, p c = false) (cs : List Char) :
    (cs ++ tail).dropWhile p = cs.dropWhile p ++ tail := by
  induction cs with
  | nil =>
      cases tail with
      | nil => rfl
      | cons c tail => exact List.dropWhile_cons_of_neg (by simp [h c rfl])
  | cons a cs ih =>
      rw [List.cons_append, List.dropWhile_cons, List.dropWhile_cons, ih]
      split <;> rfl

/-- No blank stands at either end. -/
def IsTrimmed (cs : List Char) : Prop :=
  (∀ c ∈ cs.head?, isBlank c = false) ∧ ∀ c ∈ cs.getLast?, isBlank c = false

theorem isTrimmed_iff {cs : List Char} :
    IsTrimmed cs ↔ cs.head?.all (!isBlank ·) = true ∧ cs.getLast?.all (!isBlank ·) = true := by
  simp only [IsTrimmed, Option.all_eq_true, Option.mem_def, Bool.not_eq_true']

instance (cs : List Char) : Decidable (IsTrimmed cs) := decidable_of_iff' _ isTrimmed_iff

theorem head_trimStart (cs : List Char) {c : Char} (hc : c ∈ (trimStart cs).head?) :
    isBlank c = false := by
  induction cs with
  | nil => simp at hc
  | cons a cs ih =>
      rw [trimStart_cons] at hc
      by_cases ha : isBlank a = true
      · rw [if_pos ha] at hc
        exact ih hc
      · rw [if_neg ha, List.head?_cons, Option.mem_some_iff] at hc
        rw [← hc]
        exact eq_false_of_ne_true ha

theorem trimStart_eq_self {cs : List Char} (h : ∀ c ∈ cs.head?, isBlank c = false) :
    trimStart cs = cs := by
  cases cs with
  | nil => rfl
  | cons a cs =>
      have ha : isBlank a = false := h a (by simp)
      rw [trimStart_cons, ha, if_neg Bool.false_ne_true]

theorem trim_blank_cons {c : Char} (h : isBlank c = true) (cs : List Char) :
    trim (c :: cs) = trim cs := by
  rw [trim, trimStart_cons, if_pos h, trim]

theorem exists_eq_blank_append (cs : List Char) :
    ∃ before, before.all isBlank = true ∧ cs = before ++ trimStart cs :=
  ⟨cs.takeWhile isBlank, List.all_takeWhile, List.takeWhile_append_dropWhile.symm⟩

theorem trimStart_blank_append {blanks text : List Char} (h : blanks.all isBlank = true)
    (htext : ∀ c ∈ text.head?, isBlank c = false) : trimStart (blanks ++ text) = text := by
  have hblanks : trimStart (blanks ++ text) = trimStart text :=
    List.dropWhile_append_of_pos (List.all_eq_true.mp h)
  rw [hblanks, trimStart_eq_self htext]

theorem trimEnd_eq_reverse (cs : List Char) : trimEnd cs = (trimStart cs.reverse).reverse := rfl

theorem trimEnd_eq_self {cs : List Char} (h : ∀ c ∈ cs.getLast?, isBlank c = false) :
    trimEnd cs = cs := by
  have hrev : trimStart cs.reverse = cs.reverse := by
    apply trimStart_eq_self
    rwa [List.head?_reverse]
  rw [trimEnd_eq_reverse, hrev, List.reverse_reverse]

theorem trimEnd_isPrefix (cs : List Char) : trimEnd cs <+: cs := by
  have h : trimStart cs.reverse <:+ cs.reverse := List.dropWhile_suffix _
  have h' := List.reverse_prefix.mpr h
  rwa [List.reverse_reverse] at h'

theorem isTrimmed_trim (cs : List Char) : IsTrimmed (trim cs) := by
  constructor
  · intro c hc
    have hpre : trimEnd (trimStart cs) <+: trimStart cs := trimEnd_isPrefix _
    obtain ⟨rest, hrest⟩ := hpre
    apply head_trimStart cs
    rw [← hrest, List.head?_append]
    change c ∈ (trimEnd (trimStart cs)).head? at hc
    rw [Option.mem_def] at hc ⊢
    rw [hc]
    rfl
  · intro c hc
    change c ∈ (trimEnd (trimStart cs)).getLast? at hc
    rw [trimEnd_eq_reverse, List.getLast?_reverse] at hc
    exact head_trimStart _ hc

theorem isTrimmed_of_forall {cs : List Char} (h : ∀ c ∈ cs, isBlank c = false) : IsTrimmed cs :=
  ⟨fun c hc => h c (List.mem_of_mem_head? hc), fun c hc => h c (List.mem_of_getLast? hc)⟩

theorem IsTrimmed.trim_eq {cs : List Char} (h : IsTrimmed cs) : trim cs = cs := by
  rw [trim, trimStart_eq_self h.1, trimEnd_eq_self h.2]

@[simp] theorem trim_trim (cs : List Char) : trim (trim cs) = trim cs :=
  (isTrimmed_trim cs).trim_eq

theorem trimStart_eq_nil_iff {cs : List Char} : trimStart cs = [] ↔ cs.all isBlank = true := by
  induction cs with
  | nil => simp
  | cons a cs ih =>
      by_cases ha : isBlank a = true
      · simp [trimStart_cons, ha, ih]
      · simp [trimStart_cons, ha]

theorem trim_eq_nil_iff {cs : List Char} : trim cs = [] ↔ cs.all isBlank = true := by
  rw [← trimStart_eq_nil_iff]
  constructor
  · intro h
    rw [trim, trimEnd_eq_reverse, List.reverse_eq_nil_iff, trimStart_eq_nil_iff, List.all_reverse,
      List.all_eq_true] at h
    cases hs : trimStart cs with
    | nil => rfl
    | cons c rest =>
        have hc : isBlank c = false := head_trimStart cs (by rw [hs]; rfl)
        have hc' : isBlank c = true := h c (by rw [hs]; exact List.mem_cons_self)
        rw [hc] at hc'
        cases hc'
  · intro h
    rw [trim, h, trimEnd_nil]

theorem mem_of_mem_trim {cs : List Char} {c : Char} (h : c ∈ trim cs) : c ∈ cs :=
  (List.dropWhile_suffix _).subset ((trimEnd_isPrefix _).subset h)

theorem isBlank_eq_false_of_isDigit {c : Char} (h : c.isDigit = true) : isBlank c = false := by
  simp only [Char.isDigit, Bool.and_eq_true, decide_eq_true_eq] at h
  have hlow : 48 ≤ c.toNat := h.1
  have hhigh : c.toNat ≤ 57 := h.2
  simp only [isBlank, Bool.or_eq_false_iff, Bool.and_eq_false_iff, decide_eq_false_iff_not,
    beq_eq_false_iff_ne]
  omega

theorem isTrimmed_append {front back : List Char} (middle : List Char) (hfront : front ≠ [])
    (hback : back ≠ []) (hhead : ∀ c ∈ front.head?, isBlank c = false)
    (hlast : ∀ c ∈ back.getLast?, isBlank c = false) : IsTrimmed (front ++ (middle ++ back)) := by
  constructor
  · obtain ⟨a, rest, rfl⟩ := List.exists_cons_of_ne_nil hfront
    exact hhead
  · rw [List.getLast?_append, List.getLast?_append, List.getLast?_eq_some_getLast hback,
      Option.some_or, Option.some_or, ← List.getLast?_eq_some_getLast hback]
    exact hlast

/-- A blank text is one of which trimming leaves nothing. -/
theorem isBlankText_iff {s : String} : isBlankText s = true ↔ trim s.toList = [] :=
  trim_eq_nil_iff.symm

end TripQuery
