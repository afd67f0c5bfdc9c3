import TripQuery.Param.Name

namespace TripQuery

/-!
# Queries

A query holds the values given for each parameter, in order. An indexed parameter serves the
search `n` by its value at `n`, or by its last one when there are fewer, so that only the values
that change from search to search have to be spelled out.
-/

def pick {α : Type} (vs : List α) (n : Nat) : Option α := vs[min n (vs.length - 1)]?

@[simp] theorem pick_nil {α : Type} (n : Nat) : pick ([] : List α) n = none := rfl

@[simp] theorem pick_singleton {α : Type} (v : α) (n : Nat) : pick [v] n = some v := by
  simp [pick]

theorem pick_of_le {α : Type} {vs : List α} {n : Nat} (h : vs.length ≤ n + 1) :
    pick vs n = vs.getLast? := by
  rw [pick, Nat.min_eq_right (by omega), List.getLast?_eq_getElem?]

theorem pick_eq_of_le {α : Type} {vs : List α} {n m : Nat} (hn : vs.length ≤ n + 1)
    (hm : vs.length ≤ m + 1) : pick vs n = pick vs m := by
  rw [pick_of_le hn, pick_of_le hm]

@[simp] theorem pick_toList {α : Type} (v : Option α) (n : Nat) : pick v.toList n = v := by
  cases v with
  | none => rfl
  | some a => exact pick_singleton a n

theorem mem_of_pick {α : Type} {vs : List α} {n : Nat} {v : α} (h : pick vs n = some v) : v ∈ vs :=
  List.mem_of_getElem? h

/-- The values of a query. Nothing is filled in: a parameter that was not given has no value. -/
structure Query where
  values : (p : Indexed) → List p.Value
  places : List String
  placesOrdered : Option Bool
  batch : Option Bool

namespace Query

@[ext] theorem ext {a b : Query} (hv : ∀ p, a.values p = b.values p) (hp : a.places = b.places)
    (ho : a.placesOrdered = b.placesOrdered) (hb : a.batch = b.batch) : a = b := by
  cases a
  cases b
  simp only [mk.injEq]
  exact ⟨funext hv, hp, ho, hb⟩

def empty : Query := ⟨fun _ => [], [], none, none⟩

def isEmpty (q : Query) : Bool :=
  Indexed.all.all (fun p => (q.values p).isEmpty) && q.places.isEmpty &&
    q.placesOrdered.isNone && q.batch.isNone

def set (q : Query) (p : Indexed) (vs : List p.Value) : Query :=
  { q with values := fun r => if h : p = r then h ▸ vs else q.values r }

@[simp] theorem values_set_self (q : Query) (p : Indexed) (vs : List p.Value) :
    (q.set p vs).values p = vs := by
  simp [set]

theorem values_set_of_ne (q : Query) {p r : Indexed} (vs : List p.Value) (h : p ≠ r) :
    (q.set p vs).values r = q.values r := by
  simp [set, h]

def pick (q : Query) (p : Indexed) (n : Nat) : Option p.Value := TripQuery.pick (q.values p) n

/-- The number of searches: that of the values of the parameter with the most, and at least
one. -/
def count (q : Query) : Nat := (Indexed.all.map fun p => (q.values p).length).foldl max 1

end Query

end TripQuery
