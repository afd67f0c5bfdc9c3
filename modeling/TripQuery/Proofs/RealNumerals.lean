import TripQuery.Decimal.Reading
import TripQuery.Proofs.Numerals
import TripQuery.Proofs.Text.Trimming

namespace TripQuery

/-!
# The texts of real numbers

The grammar of real numbers says where a sign, a point and an exponent may stand, and what number
is then written. It is said without reading anything, and it is all that is read: a text of the
grammar is read as the double nearest to its number, and no other text is read at all.
-/

namespace RealNumeral

/-- One more digit of an exponent. -/
def growExponent (n : Nat) (c : Char) : Nat :=
  if n < exponentBound then 10 * n + (c.toNat - '0'.toNat) else n

theorem exponentValue_eq_foldl (ds : List Char) : exponentValue ds = ds.foldl growExponent 0 := rfl

theorem foldl_growExponent_of_lt {ds : List Char} {init : Nat}
    (h : Nat.ofDigitChars 10 ds init < exponentBound) :
    ds.foldl growExponent init = Nat.ofDigitChars 10 ds init := by
  induction ds generalizing init with
  | nil => rfl
  | cons c ds ih =>
      have hinit : init < exponentBound := Nat.lt_of_le_of_lt (le_ofDigitChars init (c :: ds)) h
      rw [Nat.ofDigitChars_cons] at h ⊢
      rw [List.foldl_cons, growExponent, if_pos hinit, ih h]

theorem foldl_growExponent_of_le {init : Nat} (h : exponentBound ≤ init) (ds : List Char) :
    ds.foldl growExponent init = init := by
  induction ds with
  | nil => rfl
  | cons c ds ih => rw [List.foldl_cons, growExponent, if_neg (Nat.not_lt.mpr h), ih]

/-- The number that the digits of an exponent write, or the first of the numbers they write from
the left that has reached the bound. -/
def IsPower (ds : List Char) (k : Nat) : Prop :=
  ∃ front back, ds = front ++ back ∧ IsNumeral front k ∧ (∀ c ∈ back, c.isDigit = true) ∧
    k / 10 < exponentBound ∧ (back = [] ∨ exponentBound ≤ k)

theorem exists_front_of_foldl {ds : List Char} {init : Nat} (hne : ds ≠ [])
    (hds : ∀ c ∈ ds, c.isDigit = true) (hinit : init < exponentBound) :
    ∃ front back, ds = front ++ back ∧ front ≠ [] ∧
      Nat.ofDigitChars 10 front init = ds.foldl growExponent init ∧
        ds.foldl growExponent init / 10 < exponentBound ∧
          (back = [] ∨ exponentBound ≤ ds.foldl growExponent init) := by
  induction ds generalizing init with
  | nil => exact absurd rfl hne
  | cons c ds ih =>
      have hdigit := digit_le (hds c List.mem_cons_self)
      rw [List.foldl_cons, growExponent, if_pos hinit]
      have hten : (10 * init + (c.toNat - '0'.toNat)) / 10 < exponentBound := by omega
      by_cases hnext : exponentBound ≤ 10 * init + (c.toNat - '0'.toNat)
      · rw [foldl_growExponent_of_le hnext]
        exact ⟨[c], ds, rfl, by simp, by simp [Nat.ofDigitChars_cons], hten, Or.inr hnext⟩
      · by_cases hend : ds = []
        · subst hend
          exact ⟨[c], [], rfl, by simp, by simp [Nat.ofDigitChars_cons], hten, Or.inl rfl⟩
        · obtain ⟨front, back, rfl, -, hvalue, hrest⟩ :=
            ih hend (fun d hd => hds d (List.mem_cons_of_mem c hd)) (Nat.lt_of_not_le hnext)
          exact ⟨c :: front, back, rfl, by simp, by rw [Nat.ofDigitChars_cons, hvalue], hrest⟩

theorem isPower_exponentValue {ds : List Char} (hne : ds ≠ [])
    (hds : ∀ c ∈ ds, c.isDigit = true) : IsPower ds (exponentValue ds) := by
  have hzero : 0 < exponentBound := by decide
  obtain ⟨front, back, rfl, hfront, hvalue, hten, hback⟩ := exists_front_of_foldl hne hds hzero
  exact ⟨front, back, rfl, ⟨hfront, fun c hc => hds c (List.mem_append_left back hc), hvalue⟩,
    fun c hc => hds c (List.mem_append_right front hc), hten, hback⟩

theorem IsPower.exponentValue_eq {ds : List Char} {k : Nat} (h : IsPower ds k) :
    exponentValue ds = k := by
  obtain ⟨front, back, rfl, hfront, -, hten, hback⟩ := h
  have hvalue : front.foldl growExponent 0 = k := by
    obtain ⟨ds, c, rfl⟩ : ∃ ds c, front = ds ++ [c] :=
      ⟨_, _, (List.dropLast_concat_getLast hfront.ne_nil).symm⟩
    have hdigit := digit_le (hfront.isDigit c (by simp))
    have hk := hfront.value
    rw [Nat.ofDigitChars_append, Nat.ofDigitChars_cons, Nat.ofDigitChars_nil] at hk
    have hlt : Nat.ofDigitChars 10 ds 0 < exponentBound := by omega
    rw [List.foldl_append, foldl_growExponent_of_lt hlt, List.foldl_cons, List.foldl_nil,
      growExponent, if_pos hlt, hk]
  rw [exponentValue_eq_foldl, List.foldl_append, hvalue]
  rcases hback with rfl | hbound
  · rfl
  · exact foldl_growExponent_of_le hbound back

theorem IsPower.isDigit {ds : List Char} {k : Nat} (h : IsPower ds k) :
    ds ≠ [] ∧ ∀ c ∈ ds, c.isDigit = true := by
  obtain ⟨front, back, rfl, hfront, hback, -⟩ := h
  refine ⟨by simp [hfront.ne_nil], fun c hc => ?_⟩
  exact (List.mem_append.mp hc).elim (hfront.isDigit c) (hback c)

/-- Digits with at most one point among or around them: the number that the digits write, and how
many of them stand behind the point. -/
inductive IsMantissa : List Char → Nat → Nat → Prop
  | whole {ds : List Char} {m : Nat} (h : IsNumeral ds m) : IsMantissa ds m 0
  | pointed {front back : List Char} {m : Nat} (h : IsNumeral (front ++ back) m) :
      IsMantissa (front ++ '.' :: back) m back.length

/-- The sign of a number may be left out; the flag tells a minus. -/
inductive IsSign : List Char → Bool → Prop
  | none : IsSign [] false
  | plus : IsSign ['+'] false
  | minus : IsSign ['-'] true

/-- Nothing, or a letter and digits with their sign. -/
inductive IsExponent : List Char → Int → Prop
  | none : IsExponent [] 0
  | power {e : Char} {sign ds : List Char} {minus : Bool} {k : Nat} (he : e = 'e' ∨ e = 'E')
      (hsign : IsSign sign minus) (h : IsPower ds k) :
      IsExponent (e :: (sign ++ ds)) (if minus then -k else k)

/-- The words, in any case, for what is no finite number. -/
inductive IsWord : List Char → Float → Prop
  | inf {word : List Char} (h : word.map Char.toLower = "inf".toList) : IsWord word (1.0 / 0.0)
  | infinity {word : List Char} (h : word.map Char.toLower = "infinity".toList) :
      IsWord word (1.0 / 0.0)
  | nan {word : List Char} (h : word.map Char.toLower = "nan".toList) : IsWord word (0.0 / 0.0)

/-- A number without its sign. Each digit behind the point takes one from the exponent. -/
inductive IsMagnitude : List Char → Float → Prop
  | decimal {mantissa exponent : List Char} {m k : Nat} {e : Int} (hm : IsMantissa mantissa m k)
      (he : IsExponent exponent e) : IsMagnitude (mantissa ++ exponent) (scaled m (e - k))
  | word {cs : List Char} {x : Float} (h : IsWord cs x) : IsMagnitude cs x

/-- The text of a real number. -/
inductive IsText : List Char → Float → Prop
  | signed {sign cs : List Char} {minus : Bool} {x : Float} (hsign : IsSign sign minus)
      (h : IsMagnitude cs x) : IsText (sign ++ cs) (if minus then -x else x)

theorem takeDigits_append {ds rest : List Char} (hds : ∀ c ∈ ds, c.isDigit = true)
    (hrest : ∀ c ∈ rest.head?, c.isDigit = false) : takeDigits (ds ++ rest) = (ds, rest) := by
  rw [takeDigits, takeWhile_append_of_head hrest, dropWhile_append_of_head hrest,
    List.takeWhile_eq_self_iff.mpr hds, List.dropWhile_eq_nil_iff.mpr hds, List.nil_append]

theorem takeDigits_of_all {ds : List Char} (hds : ∀ c ∈ ds, c.isDigit = true) :
    takeDigits ds = (ds, []) := by
  have h := @takeDigits_append ds [] hds (by rintro _ ⟨⟩)
  rwa [List.append_nil] at h

theorem isDigit_of_mem_takeDigits {cs : List Char} {c : Char} (h : c ∈ (takeDigits cs).1) :
    c.isDigit = true :=
  List.all_eq_true.mp List.all_takeWhile c h

theorem takeDigits_fst_append_snd (cs : List Char) :
    (takeDigits cs).1 ++ (takeDigits cs).2 = cs :=
  List.takeWhile_append_dropWhile

theorem exists_isSign (cs : List Char) :
    ∃ sign, IsSign sign (takeSign cs).1 ∧ cs = sign ++ (takeSign cs).2 := by
  unfold takeSign
  split
  · exact ⟨['-'], .minus, rfl⟩
  · exact ⟨['+'], .plus, rfl⟩
  · exact ⟨[], .none, rfl⟩

theorem takeSign_append {sign cs : List Char} {minus : Bool} (h : IsSign sign minus)
    (hcs : ∀ c ∈ cs.head?, c ≠ '+' ∧ c ≠ '-') : takeSign (sign ++ cs) = (minus, cs) := by
  cases h with
  | none =>
      rw [List.nil_append]
      unfold takeSign
      split
      · exact absurd rfl (hcs '-' rfl).2
      · exact absurd rfl (hcs '+' rfl).1
      · rfl
  | plus => rfl
  | minus => rfl

theorem ne_sign_of_isDigit {c : Char} (h : c.isDigit = true) : c ≠ '+' ∧ c ≠ '-' := by
  constructor <;> rintro rfl <;> exact absurd h (by decide)

variable {cs : List Char} {x : Float}

theorem exponent?_cons {c : Char} (hc : c = 'e' ∨ c = 'E') (cs : List Char) :
    exponent? (c :: cs) =
      if (takeDigits (takeSign cs).2).1 = [] ∨ (takeDigits (takeSign cs).2).2 ≠ [] then none
      else some (if (takeSign cs).1 then -(exponentValue (takeDigits (takeSign cs).2).1 : Int)
        else exponentValue (takeDigits (takeSign cs).2).1) :=
  if_pos hc

theorem exponent?_eq_some_iff {e : Int} : exponent? cs = some e ↔ IsExponent cs e := by
  constructor
  · intro h
    cases cs with
    | nil =>
        cases h
        exact .none
    | cons c body =>
        by_cases hc : c = 'e' ∨ c = 'E'
        · rw [exponent?_cons hc] at h
          split at h
          · cases h
          · next hdigits =>
              rw [not_or, not_not] at hdigits
              obtain ⟨hne, hrest⟩ := hdigits
              obtain ⟨sign, hsign, hbody⟩ := exists_isSign body
              have hds := takeDigits_fst_append_snd (takeSign body).2
              rw [hrest, List.append_nil] at hds
              have hpower := isPower_exponentValue hne fun _ => isDigit_of_mem_takeDigits
              cases h
              rw [hds] at hpower ⊢
              conv => arg 1; rw [hbody]
              exact .power hc hsign hpower
        · rw [exponent?, if_neg hc] at h
          cases h
  · intro h
    cases h with
    | none => rfl
    | @power e sign ds minus k he hsign h =>
        obtain ⟨hne, hds⟩ := h.isDigit
        have hhead : ∀ c ∈ ds.head?, c ≠ '+' ∧ c ≠ '-' := fun c hc =>
          ne_sign_of_isDigit (hds c (List.mem_of_mem_head? hc))
        rw [exponent?_cons he, takeSign_append hsign hhead, takeDigits_of_all hds,
          if_neg (by simp [hne]), h.exponentValue_eq]

/-- An exponent starts with its letter, which goes on no number. -/
theorem IsExponent.head {e : Int} (h : IsExponent cs e) {c : Char} (hc : c ∈ cs.head?) :
    c.isDigit = false ∧ c ≠ '.' := by
  cases h with
  | none => cases hc
  | power he =>
      cases hc
      obtain rfl | rfl := he <;> decide

theorem takeFraction_of_head (h : '.' ∉ cs.head?) : takeFraction cs = ([], cs) := by
  unfold takeFraction
  split
  · exact absurd rfl h
  · rfl

/-- The digits around a point, and what is left behind them. -/
theorem decimal?_eq (cs : List Char) :
    decimal? cs =
      if (takeDigits cs).1 ++ (takeFraction (takeDigits cs).2).1 = [] then none
      else (exponent? (takeFraction (takeDigits cs).2).2).map fun e =>
        scaled (Nat.ofDigitChars 10 ((takeDigits cs).1 ++ (takeFraction (takeDigits cs).2).1) 0)
          (e - (takeFraction (takeDigits cs).2).1.length) :=
  rfl

/-- A mantissa is what the readers of digits and of a fraction take off the front. -/
theorem exists_isMantissa (h : (takeDigits cs).1 ++ (takeFraction (takeDigits cs).2).1 ≠ []) :
    ∃ mantissa, cs = mantissa ++ (takeFraction (takeDigits cs).2).2 ∧
      IsMantissa mantissa
        (Nat.ofDigitChars 10 ((takeDigits cs).1 ++ (takeFraction (takeDigits cs).2).1) 0)
        (takeFraction (takeDigits cs).2).1.length := by
  have hcs := takeDigits_fst_append_snd cs
  have hfront : ∀ c ∈ (takeDigits cs).1, c.isDigit = true := fun _ => isDigit_of_mem_takeDigits
  generalize (takeDigits cs).1 = front at *
  generalize (takeDigits cs).2 = behind at *
  unfold takeFraction at h ⊢
  split
  · next rest =>
      have hrest := takeDigits_fst_append_snd rest
      refine ⟨front ++ '.' :: (takeDigits rest).1, ?_, .pointed ⟨h, ?_, rfl⟩⟩
      · rw [← hcs, List.append_assoc, List.cons_append, hrest]
      · intro c hc
        exact (List.mem_append.mp hc).elim (hfront c) isDigit_of_mem_takeDigits
  · next hpoint =>
      simp only [List.append_nil] at h ⊢
      exact ⟨front, hcs.symm, .whole ⟨h, hfront, rfl⟩⟩

theorem decimal?_append {mantissa exponent : List Char} {m k : Nat} {e : Int}
    (hm : IsMantissa mantissa m k) (he : IsExponent exponent e) :
    decimal? (mantissa ++ exponent) = some (scaled m (e - k)) := by
  have hpoint : '.' ∉ exponent.head? := fun hc => (he.head hc).2 rfl
  rw [decimal?_eq]
  cases hm with
  | whole h =>
      rw [takeDigits_append h.isDigit fun c hc => (he.head hc).1, takeFraction_of_head hpoint,
        List.append_nil, if_neg h.ne_nil, h.value, exponent?_eq_some_iff.mpr he]
      rfl
  | @pointed front back m h =>
      have hfront : ∀ c ∈ front, c.isDigit = true := fun c hc =>
        h.isDigit c (List.mem_append_left back hc)
      have hback : ∀ c ∈ back, c.isDigit = true := fun c hc =>
        h.isDigit c (List.mem_append_right front hc)
      have hfraction : takeFraction ('.' :: (back ++ exponent)) = (back, exponent) :=
        takeDigits_append hback fun c hc => (he.head hc).1
      rw [List.append_assoc, List.cons_append, takeDigits_append hfront (by rintro _ ⟨⟩; rfl),
        hfraction, if_neg h.ne_nil, h.value, exponent?_eq_some_iff.mpr he]
      rfl

theorem decimal?_eq_some_iff :
    decimal? cs = some x ↔
      ∃ mantissa exponent m k e, IsMantissa mantissa m k ∧ IsExponent exponent e ∧
        cs = mantissa ++ exponent ∧ x = scaled m (e - k) := by
  constructor
  · intro h
    rw [decimal?_eq] at h
    split at h
    · cases h
    · next hne =>
        obtain ⟨e, he, rfl⟩ := Option.map_eq_some_iff.mp h
        obtain ⟨mantissa, hcs, hm⟩ := exists_isMantissa hne
        exact ⟨mantissa, _, _, _, e, hm, exponent?_eq_some_iff.mp he, hcs, rfl⟩
  · rintro ⟨mantissa, exponent, m, k, e, hm, he, rfl, rfl⟩
    exact decimal?_append hm he

theorem word?_eq_some_iff : word? cs = some x ↔ IsWord cs x := by
  constructor
  · intro h
    unfold word? at h
    simp only at h
    split at h
    · next hword =>
        cases h
        exact hword.elim .inf .infinity
    · split at h
      · next hword =>
          cases h
          exact .nan hword
      · cases h
  · intro h
    cases h with
    | inf h => exact if_pos (Or.inl h)
    | infinity h => exact if_pos (Or.inr h)
    | nan h =>
        have hne : ¬(cs.map Char.toLower = "inf".toList ∨
            cs.map Char.toLower = "infinity".toList) := by
          rw [h]
          decide
        unfold word?
        simp only [if_neg hne, if_pos h]

/-- A word starts with a letter, so it is no decimal. -/
theorem IsWord.exists_cons (h : IsWord cs x) :
    ∃ c rest, cs = c :: rest ∧ (c.toLower = 'i' ∨ c.toLower = 'n') := by
  cases h with
  | inf h =>
      obtain ⟨c, rest, rfl, hc, -⟩ := List.map_eq_cons_iff.mp h
      exact ⟨c, rest, rfl, Or.inl hc⟩
  | infinity h =>
      obtain ⟨c, rest, rfl, hc, -⟩ := List.map_eq_cons_iff.mp h
      exact ⟨c, rest, rfl, Or.inl hc⟩
  | nan h =>
      obtain ⟨c, rest, rfl, hc, -⟩ := List.map_eq_cons_iff.mp h
      exact ⟨c, rest, rfl, Or.inr hc⟩

theorem isDigit_eq_false_of_toLower {c : Char} (h : c.toLower = 'i' ∨ c.toLower = 'n') :
    c.isDigit = false := by
  rw [Bool.eq_false_iff]
  intro hdigit
  have hupper : ¬(c.val ≥ 'A'.val ∧ c.val ≤ 'Z'.val) := by
    have hhigh : c.toNat ≤ 57 := (Char.isDigit_iff_toNat.mp hdigit).2
    rintro ⟨hlow, -⟩
    have hlow' : 65 ≤ c.toNat := hlow
    omega
  have hlower : c.toLower = c := dif_neg hupper
  rw [hlower] at h
  obtain rfl | rfl := h <;> exact absurd hdigit (by decide)

theorem decimal?_of_isWord (h : IsWord cs x) : decimal? cs = none := by
  obtain ⟨c, rest, rfl, hc⟩ := h.exists_cons
  have hdigits : takeDigits (c :: rest) = ([], c :: rest) :=
    @takeDigits_append [] (c :: rest) (by simp) (by
      rintro _ ⟨⟩
      exact isDigit_eq_false_of_toLower hc)
  have hpoint : '.' ∉ (c :: rest).head? := by
    rintro ⟨⟩
    revert hc
    decide
  rw [decimal?_eq, hdigits, takeFraction_of_head hpoint]
  rfl

theorem magnitude_eq_some_iff : (decimal? cs <|> word? cs) = some x ↔ IsMagnitude cs x := by
  constructor
  · intro h
    cases hdecimal : decimal? cs with
    | some y =>
        rw [hdecimal] at h
        cases h
        obtain ⟨front, back, m, k, e, hm, he, rfl, rfl⟩ := decimal?_eq_some_iff.mp hdecimal
        exact .decimal hm he
    | none =>
        rw [hdecimal] at h
        exact .word (word?_eq_some_iff.mp h)
  · intro h
    cases h with
    | decimal hm he =>
        rw [decimal?_append hm he]
        rfl
    | word h =>
        rw [decimal?_of_isWord h]
        exact word?_eq_some_iff.mpr h

/-- A number starts with no second sign, and is not empty. -/
theorem IsMagnitude.exists_cons (h : IsMagnitude cs x) :
    ∃ c rest, cs = c :: rest ∧ c ≠ '+' ∧ c ≠ '-' := by
  cases h with
  | @decimal mantissa exponent m k e hm he =>
      cases hm with
      | whole h =>
          obtain ⟨c, rest, heq, hc⟩ := h.head exponent
          exact ⟨c, rest, heq, ne_sign_of_isDigit hc⟩
      | @pointed front back m h =>
          cases front with
          | nil => exact ⟨'.', back ++ exponent, rfl, by decide, by decide⟩
          | cons c front =>
              exact ⟨c, _, rfl, ne_sign_of_isDigit (h.isDigit c List.mem_cons_self)⟩
  | word h =>
      obtain ⟨c, rest, rfl, hc⟩ := h.exists_cons
      refine ⟨c, rest, rfl, ?_, ?_⟩ <;> rintro rfl <;> revert hc <;> decide

theorem read_cons (c : Char) (cs : List Char) :
    read (c :: cs) = .ok x ↔
      ∃ y, (decimal? (takeSign (c :: cs)).2 <|> word? (takeSign (c :: cs)).2) = some y ∧
        (if (takeSign (c :: cs)).1 then -y else y) = x := by
  unfold read
  simp only
  cases decimal? (takeSign (c :: cs)).2 <|> word? (takeSign (c :: cs)).2 <;> simp

/-- The texts that are read are those of the grammar, and each is read as the number it writes. -/
theorem read_eq_ok_iff : read cs = .ok x ↔ IsText cs x := by
  constructor
  · intro h
    cases cs with
    | nil => cases h
    | cons c rest =>
        obtain ⟨y, hy, rfl⟩ := (read_cons c rest).mp h
        obtain ⟨sign, hsign, hcs⟩ := exists_isSign (c :: rest)
        have htext := IsText.signed hsign (magnitude_eq_some_iff.mp hy)
        rwa [← hcs] at htext
  · intro h
    cases h with
    | @signed sign cs minus x hsign h =>
        obtain ⟨c, rest, rfl, hc⟩ := h.exists_cons
        have htake : takeSign (sign ++ c :: rest) = (minus, c :: rest) :=
          takeSign_append hsign (by
            rintro _ ⟨⟩
            exact hc)
        have hne : sign ++ c :: rest ≠ [] := by simp
        obtain ⟨d, more, hcons⟩ := List.exists_cons_of_ne_nil hne
        rw [hcons] at htake ⊢
        refine (read_cons d more).mpr ⟨x, ?_, ?_⟩
        · rw [htake]
          exact magnitude_eq_some_iff.mpr h
        · rw [htake]

end RealNumeral

end TripQuery
