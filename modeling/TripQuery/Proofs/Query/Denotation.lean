import TripQuery.Param.Name
import TripQuery.Proofs.RealNumerals
import TripQuery.Proofs.Sequencing
import TripQuery.Proofs.Text.Trimming

namespace TripQuery

/-!
# What a text stands for

Of each kind of values it is said, without reading anything from left to right, which value a text
stands for. Reading finds exactly that value, so a text stands for one value at most.
-/

namespace Criterion

theorem ofWord?_eq_some_iff {word : List Char} {c : Criterion} :
    ofWord? word = some c ↔ word.map Char.toUpper = c.name.toList := by
  constructor
  · intro h
    have hname := List.find?_some h
    exact (of_decide_eq_true hname).symm
  · intro h
    rw [ofWord?, h]
    cases c <;> decide +kernel

theorem isTrimmed_name (c : Criterion) : IsTrimmed c.name.toList := by
  have hall : (c.name.toList.all fun x => !isBlank x) = true := by
    cases c <;> rfl
  have hblank : ∀ x ∈ c.name.toList, isBlank x = false := by
    intro x hx
    simpa using List.all_eq_true.mp hall x hx
  exact ⟨fun x hx => hblank x (List.mem_of_mem_head? hx),
    fun x hx => hblank x (List.mem_of_getLast? hx)⟩

theorem read_name (c : Criterion) : read c.name = .ok c := by
  rw [read, c.isTrimmed_name.trim_eq, ofWord?_name]

end Criterion

/-- The value that a text stands for. -/
def Kind.Denotes : (k : Kind) → String → k.Value → Prop
  | .text, s, v => v = s
  | .flag, s, b => (trim s.toList).map Char.toLower = (toString b).toList
  | .real, s, x => RealNumeral.IsText (trim s.toList) x ∧ x.isFinite = true
  | .count, s, n => Numeral.IsText (trim s.toList) n.toNat
  | .criterion, s, c => (trim s.toList).map Char.toUpper = c.name.toList
  | .modes, s, ms => ModeSet.read (trimmed s) = .ok ms

namespace Kind

theorem readFlag_eq_ok_iff {s : String} {b : Bool} :
    readFlag s = .ok b ↔ (trim s.toList).map Char.toLower = (toString b).toList := by
  have htrue : (toString true).toList = "true".toList := rfl
  have hfalse : (toString false).toList = "false".toList := rfl
  have hne : "true".toList ≠ "false".toList := by decide
  unfold readFlag
  by_cases ht : (trim s.toList).map Char.toLower = "true".toList
  · cases b with
    | false => simp only [ht, if_true, hfalse, hne, Except.ok.injEq, Bool.true_eq_false]
    | true => simp only [ht, if_true, htrue]
  · by_cases hf : (trim s.toList).map Char.toLower = "false".toList
    · cases b with
      | false => simp only [hf, hne.symm, if_true, if_false, hfalse]
      | true => simp only [hf, hne.symm, if_true, if_false, htrue, Except.ok.injEq,
          Bool.false_eq_true]
    · cases b with
      | false => simp only [ht, hf, if_false, hfalse, reduceCtorEq]
      | true => simp only [ht, hf, if_false, htrue, reduceCtorEq]

theorem readReal_eq_ok_iff {s : String} {x : Float} :
    readReal s = .ok x ↔ RealNumeral.IsText (trim s.toList) x ∧ x.isFinite = true := by
  rw [← RealNumeral.read_eq_ok_iff]
  unfold readReal
  cases hread : RealNumeral.read (trim s.toList) with
  | error fault => simp
  | ok y =>
      by_cases hfinite : y.isFinite = true
      · simp only [hfinite, if_true, Except.ok.injEq]
        constructor
        · rintro rfl
          exact ⟨rfl, hfinite⟩
        · exact fun h => h.1
      · simp only [if_neg hfinite, reduceCtorEq, Except.ok.injEq, false_iff]
        rintro ⟨rfl, h⟩
        exact hfinite h

/-- What fits into 32 bits is within the limit of counts. -/
theorem read_countLimit_eq_ok_iff {cs : List Char} {n : UInt32} :
    Numeral.read Numeral.countLimit cs = .ok n.toNat ↔ Numeral.IsText cs n.toNat := by
  have hle : n.toNat ≤ Numeral.countLimit := Nat.le_of_lt_succ n.toNat_lt
  rw [Numeral.read_eq_ok_iff, and_iff_left hle]

theorem readCount_eq_ok_iff {s : String} {n : UInt32} :
    readCount s = .ok n ↔ Numeral.IsText (trim s.toList) n.toNat := by
  rw [← read_countLimit_eq_ok_iff]
  unfold readCount
  cases hread : Numeral.read Numeral.countLimit (trim s.toList) with
  | error fault => simp
  | ok m =>
      have hle : m ≤ 4294967295 := (Numeral.read_eq_ok_iff.mp hread).2
      have hm : (UInt32.ofNat m).toNat = m := UInt32.toNat_ofNat_of_lt' (by
        change m < 4294967296
        omega)
      simp only [Except.ok.injEq]
      constructor
      · rintro rfl
        exact hm.symm
      · rintro rfl
        exact UInt32.ofNat_toNat

theorem read_eq_ok_iff {k : Kind} {s : String} {v : k.Value} :
    k.read s = .ok v ↔ k.Denotes s v := by
  cases k with
  | text =>
      rw [read, Except.ok.injEq]
      exact eq_comm
  | flag => rw [read, readFlag_eq_ok_iff, Denotes]
  | real => rw [read, readReal_eq_ok_iff, Denotes]
  | count => rw [read, readCount_eq_ok_iff, Denotes]
  | criterion =>
      rw [read, mapError_eq_ok_iff, Criterion.read, toList_trimmed, trim_trim, Denotes,
        ← Criterion.ofWord?_eq_some_iff]
      cases Criterion.ofWord? (trim s.toList) <;> simp
  | modes => rw [read, mapError_eq_ok_iff, Denotes]

theorem denotes_unique {k : Kind} {s : String} {v w : k.Value} (hv : k.Denotes s v)
    (hw : k.Denotes s w) : v = w := by
  have hv' := read_eq_ok_iff.mpr hv
  have hw' := read_eq_ok_iff.mpr hw
  rw [hv', Except.ok.injEq] at hw'
  exact hw'

end Kind

namespace Param

def kind : Param → Kind
  | indexed p => p.kind
  | places => .text
  | placesOrdered | batch => .flag

theorem name_injective {p r : Param} (h : p.name = r.name) : p = r := by
  have hp := ofName?_name p
  rw [h, ofName?_name, Option.some.injEq] at hp
  exact hp.symm

end Param

end TripQuery
