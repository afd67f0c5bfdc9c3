import TripQuery.Proofs.Search.Assembly

namespace TripQuery

/-!
# How many searches there are

Beyond the longest list of values every parameter stays at its last value, and so every search is
the last one again. What is made of a query are therefore all the searches there are, each of them
once.
-/

theorem foldl_max_le_iff {ns : List Nat} {a bound : Nat} :
    ns.foldl max a ≤ bound ↔ a ≤ bound ∧ ∀ n ∈ ns, n ≤ bound := by
  induction ns generalizing a with
  | nil => simp
  | cons n ns ih =>
      rw [List.foldl_cons, ih, Nat.max_le, List.forall_mem_cons, and_assoc]

namespace Query

variable {q : Query} {now : Instant} {n m : Nat}

theorem count_le_iff {bound : Nat} :
    q.count ≤ bound ↔ 1 ≤ bound ∧ ∀ p, (q.values p).length ≤ bound := by
  unfold count
  rw [foldl_max_le_iff, List.forall_mem_map]
  constructor
  · rintro ⟨hone, hall⟩
    exact ⟨hone, fun p => hall p (Indexed.mem_all p)⟩
  · rintro ⟨hone, hall⟩
    exact ⟨hone, fun p _ => hall p⟩

theorem one_le_count (q : Query) : 1 ≤ q.count := (count_le_iff.mp (Nat.le_refl _)).1

theorem length_values_le_count (q : Query) (p : Indexed) : (q.values p).length ≤ q.count :=
  (count_le_iff.mp (Nat.le_refl _)).2 p

/-- One value more makes no more searches than there would be without it. -/
theorem count_set_singleton {p : Indexed} (habsent : q.values p = []) (v : p.Value) :
    (q.set p [v]).count = q.count := by
  apply Nat.le_antisymm
  · refine count_le_iff.mpr ⟨q.one_le_count, fun r => ?_⟩
    by_cases hr : p = r
    · subst hr
      rw [values_set_self]
      exact q.one_le_count
    · rw [values_set_of_ne q [v] hr]
      exact q.length_values_le_count r
  · refine count_le_iff.mpr ⟨(q.set p [v]).one_le_count, fun r => ?_⟩
    by_cases hr : p = r
    · subst hr
      rw [habsent]
      exact Nat.zero_le _
    · rw [← values_set_of_ne q [v] hr]
      exact (q.set p [v]).length_values_le_count r

theorem sameAt_of_count_le (hn : q.count ≤ n + 1) (hm : q.count ≤ m + 1) : q.SameAt n q m where
  pick p :=
    pick_eq_of_le (Nat.le_trans (q.length_values_le_count p) hn)
      (Nat.le_trans (q.length_values_le_count p) hm)
  places := rfl
  placesOrdered := rfl
  batch := rfl

theorem outcome_searches (q : Query) (now : Instant) :
    (q.searches now).outcome = (List.range q.count).mapM fun n => (q.search now n).outcome :=
  Recorded.outcome_mapM (q.search now) (List.range q.count)

/-- No search past the count is other than the last one counted. -/
theorem outcome_search_of_count_le (hn : q.count - 1 ≤ n) :
    (q.search now n).outcome = (q.search now (q.count - 1)).outcome := by
  have hsame : q.SameAt n q (q.count - 1) := sameAt_of_count_le (by omega) (by omega)
  exact hsame.outcome_search now

theorem all_ok_iff :
    (∀ n < q.count, ∃ s, (q.search now n).outcome = .ok s) ↔
      ∀ n, ∃ s, (q.search now n).outcome = .ok s := by
  constructor
  · intro h n
    by_cases hn : n < q.count
    · exact h n hn
    · have hpos := q.one_le_count
      rw [outcome_search_of_count_le (by omega)]
      exact h _ (by omega)
  · intro h n _
    exact h n

theorem searches_eq_ok_iff {rs : List Search} :
    (q.searches now).outcome = .ok rs ↔
      rs.length = q.count ∧ ∀ n (h : n < rs.length), (q.search now n).outcome = .ok rs[n] := by
  rw [outcome_searches]
  exact mapM_range_eq_ok_iff

theorem searches_eq_error_iff {e : SearchFault} :
    (q.searches now).outcome = .error e ↔
      ∃ k < q.count, (q.search now k).outcome = .error e ∧
        ∀ n < k, ∃ s, (q.search now n).outcome = .ok s := by
  rw [outcome_searches]
  exact mapM_range_eq_error_iff

theorem exists_searches_iff :
    (∃ rs, (q.searches now).outcome = .ok rs) ↔
      ∀ n, ∃ s, (q.search now n).outcome = .ok s := by
  rw [← all_ok_iff, outcome_searches]
  exact exists_mapM_range_iff

theorem exists_first_of_searches {rs : List Search} (h : (q.searches now).outcome = .ok rs) :
    ∃ first rest, rs = first :: rest ∧ (q.search now 0).outcome = .ok first := by
  obtain ⟨hlength, hget⟩ := searches_eq_ok_iff.mp h
  have hpos := q.one_le_count
  cases rs with
  | nil =>
      rw [List.length_nil] at hlength
      omega
  | cons first rest => exact ⟨first, rest, rfl, hget 0 (Nat.succ_pos rest.length)⟩

/-- Nothing comes before the first search. -/
theorem searches_of_first_error {e : SearchFault} (h : (q.search now 0).outcome = .error e) :
    (q.searches now).outcome = .error e :=
  searches_eq_error_iff.mpr ⟨0, q.one_le_count, h, fun _ hn => absurd hn (Nat.not_lt_zero _)⟩

theorem searches_of_count_eq_one (hcount : q.count = 1) {s : Search}
    (h : (q.search now 0).outcome = .ok s) : (q.searches now).outcome = .ok [s] := by
  refine searches_eq_ok_iff.mpr ⟨hcount.symm, fun n hn => ?_⟩
  obtain rfl : n = 0 := Nat.lt_one_iff.mp hn
  exact h

/-- The searches of a query are all there are: past the count nothing changes, they succeed when
every search does, they are then the searches in order, and else the first that fails is among
them. -/
theorem searches_cover_every_search (q : Query) (now : Instant) :
    (∀ n, q.count - 1 ≤ n →
      (q.search now n).outcome = (q.search now (q.count - 1)).outcome) ∧
    ((∃ rs, (q.searches now).outcome = .ok rs) ↔
      ∀ n, ∃ s, (q.search now n).outcome = .ok s) ∧
    1 ≤ q.count ∧
    (∀ rs, (q.searches now).outcome = .ok rs ↔
      rs.length = q.count ∧
        ∀ n (h : n < rs.length), (q.search now n).outcome = .ok rs[n]) ∧
    ∀ e, (q.searches now).outcome = .error e ↔
      ∃ k < q.count, (q.search now k).outcome = .error e ∧
        ∀ n < k, ∃ s, (q.search now n).outcome = .ok s :=
  ⟨fun _ => outcome_search_of_count_le, exists_searches_iff, q.one_le_count,
    fun _ => searches_eq_ok_iff, fun _ => searches_eq_error_iff⟩

end Query

end TripQuery
