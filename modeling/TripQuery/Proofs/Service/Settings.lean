import TripQuery.Service.Settings
import TripQuery.Proofs.Numerals
import TripQuery.Proofs.Service.Endpoints

namespace TripQuery

/-!
# Settings and what they are good for

The two variables are read apart from each other, and the one with the address is the first to
fail. The limit is a numeral that is not zero. A call that gives no parameter twice is therefore
within every limit that can be set.
-/

namespace Settings

/-- The limit is a numeral from 1 to the largest number of 64 bits. A plus sign may stand in front
of it. -/
def IsSetLimit (value : String) (n : Nat) : Prop :=
  ∃ ds, (value.toList = ds ∨ value.toList = '+' :: ds) ∧ IsNumeral ds n ∧ 1 ≤ n ∧ n < 2 ^ 64

/-- What a variable comes to: the standard value if it is not set, or what its text says. -/
inductive Gives {α : Type} (standard : α) (Says : String → α → Prop) : Option String → α → Prop
  | unset : Gives standard Says none standard
  | set {value : String} {a : α} (h : Says value a) : Gives standard Says (some value) a

variable {lookup : String → Option String} {value : String} {n : Nat}

theorem readAddress_eq_ok_iff {address : SocketAddress} :
    readAddress value = .ok address ↔ SocketAddress.read? value = some address := by
  unfold readAddress
  cases SocketAddress.read? value <;> simp

theorem readAddress_eq_error_iff {fault : SettingFault} :
    readAddress value = .error fault ↔
      SocketAddress.read? value = none ∧ fault = ⟨addressVariable, value, .address⟩ := by
  unfold readAddress
  cases SocketAddress.read? value <;> simp [eq_comm]

theorem readSetLimit_eq_ok_iff : readSetLimit value = .ok n ↔ IsSetLimit value n := by
  have hread : readSetLimit value = .ok n ↔
      Numeral.read Numeral.sizeLimit value.toList = .ok n ∧ 1 ≤ n := by
    unfold readSetLimit
    split
    · next hzero =>
        rw [hzero]
        constructor
        · rintro ⟨⟩
        · rintro ⟨⟨⟩, hpos⟩
          exact absurd hpos (by decide)
    · next m hne hm =>
        rw [hm]
        constructor
        · rintro ⟨⟩
          exact ⟨rfl, Nat.one_le_iff_ne_zero.mpr fun h => hne (h ▸ rfl)⟩
        · rintro ⟨⟨⟩, -⟩
          rfl
    · next fault hfault =>
        rw [hfault]
        constructor
        · rintro ⟨⟩
        · rintro ⟨⟨⟩, -⟩
  rw [hread, Numeral.read_eq_ok_iff]
  constructor
  · rintro ⟨⟨⟨ds, htext, hds⟩, hle⟩, hpos⟩
    exact ⟨ds, htext, hds, hpos, Nat.lt_succ_of_le hle⟩
  · rintro ⟨ds, htext, hds, hpos, hlt⟩
    exact ⟨⟨⟨ds, htext, hds⟩, Nat.le_of_lt_succ hlt⟩, hpos⟩

theorem eq_of_readSetLimit_error {fault : SettingFault} (h : readSetLimit value = .error fault) :
    fault.name = setLimitVariable ∧ fault.value = value := by
  unfold readSetLimit at h
  split at h <;> cases h <;> exact ⟨rfl, rfl⟩

theorem exists_readSetLimit_error_iff :
    (∃ fault, readSetLimit value = .error fault) ↔ ¬ ∃ n, IsSetLimit value n := by
  simp only [← readSetLimit_eq_ok_iff]
  cases readSetLimit value <;> simp

section Variables

variable {α : Type} {standard a : α} {Says : String → α → Prop} {fault : SettingFault}
variable {read : String → Except SettingFault α}

theorem readOr_eq_ok_iff (hread : ∀ value a, read value = .ok a ↔ Says value a)
    {given : Option String} : readOr standard read given = .ok a ↔ Gives standard Says given a := by
  cases given with
  | none =>
      constructor
      · rintro ⟨⟩
        exact .unset
      · rintro ⟨⟩
        rfl
  | some value =>
      rw [readOr, hread]
      constructor
      · exact .set
      · rintro ⟨⟩
        assumption

theorem readOr_eq_error_iff {given : Option String} :
    readOr standard read given = .error fault ↔
      ∃ value, given = some value ∧ read value = .error fault := by
  cases given with
  | none =>
      constructor
      · rintro ⟨⟩
      · rintro ⟨_, ⟨⟩, _⟩
  | some value => simp [readOr]

theorem exists_gives_iff {given : Option String} :
    (∃ a, Gives standard Says given a) ↔ ∀ value, given = some value → ∃ a, Says value a := by
  constructor
  · rintro ⟨_, _ | hsays⟩ value ⟨⟩
    exact ⟨_, hsays⟩
  · intro hall
    cases given with
    | none => exact ⟨standard, .unset⟩
    | some value =>
        obtain ⟨a, ha⟩ := hall value rfl
        exact ⟨a, .set ha⟩

end Variables

def GivesAddress : Option String → SocketAddress → Prop :=
  Gives standard.address fun value address => SocketAddress.read? value = some address

def GivesSetLimit : Option String → Nat → Prop := Gives standard.setLimit IsSetLimit

theorem GivesSetLimit.one_le {given : Option String} (h : GivesSetLimit given n) : 1 ≤ n := by
  cases h with
  | unset => decide
  | set h =>
      obtain ⟨ds, -, -, hpos, -⟩ := h
      exact hpos

theorem readOr_readAddress_iff {given : Option String} {address : SocketAddress} :
    readOr standard.address readAddress given = .ok address ↔ GivesAddress given address :=
  readOr_eq_ok_iff fun _ _ => readAddress_eq_ok_iff

theorem readOr_readSetLimit_iff {given : Option String} :
    readOr standard.setLimit readSetLimit given = .ok n ↔ GivesSetLimit given n :=
  readOr_eq_ok_iff fun _ _ => readSetLimit_eq_ok_iff

/-- Each setting is what its own variable comes to. -/
theorem load_eq_ok_iff {s : Settings} :
    load lookup = .ok s ↔
      GivesAddress (lookup addressVariable) s.address ∧
        GivesSetLimit (lookup setLimitVariable) s.setLimit := by
  rw [load, exceptBind_eq_ok_iff]
  constructor
  · rintro ⟨address, haddress, hrest⟩
    obtain ⟨n, hn, hpure⟩ := exceptBind_eq_ok_iff.mp hrest
    cases hpure
    exact ⟨readOr_readAddress_iff.mp haddress, readOr_readSetLimit_iff.mp hn⟩
  · rintro ⟨haddress, hn⟩
    refine ⟨s.address, readOr_readAddress_iff.mpr haddress, exceptBind_eq_ok_iff.mpr ?_⟩
    exact ⟨s.setLimit, readOr_readSetLimit_iff.mpr hn, rfl⟩

/-- The limit is looked at only when there is an address. -/
theorem load_eq_error_iff {fault : SettingFault} :
    load lookup = .error fault ↔
      (∃ value, lookup addressVariable = some value ∧ SocketAddress.read? value = none ∧
        fault = ⟨addressVariable, value, .address⟩) ∨
      (∃ address, GivesAddress (lookup addressVariable) address) ∧
        ∃ value, lookup setLimitVariable = some value ∧ readSetLimit value = .error fault := by
  rw [load, exceptBind_eq_error_iff]
  apply or_congr
  · simp only [readOr_eq_error_iff, readAddress_eq_error_iff]
  · simp only [readOr_readAddress_iff, exceptBind_eq_error_iff, readOr_eq_error_iff]
    constructor
    · rintro ⟨address, haddress, hlimit | ⟨n, -, ⟨⟩⟩⟩
      exact ⟨⟨address, haddress⟩, hlimit⟩
    · rintro ⟨⟨address, haddress⟩, hlimit⟩
      exact ⟨address, haddress, Or.inl hlimit⟩

theorem load_setLimit_error_iff (haddress : ∃ a, GivesAddress (lookup addressVariable) a) :
    (∃ cause, load lookup = .error ⟨setLimitVariable, value, cause⟩) ↔
      lookup setLimitVariable = some value ∧ ¬ ∃ n, IsSetLimit value n := by
  constructor
  · rintro ⟨cause, hload⟩
    obtain ⟨_, -, -, hname⟩ | ⟨-, value', hset, hfault⟩ := load_eq_error_iff.mp hload
    · have hne : setLimitVariable ≠ addressVariable := by decide
      exact absurd (congrArg SettingFault.name hname) hne
    · obtain ⟨-, hvalue⟩ := eq_of_readSetLimit_error hfault
      cases hvalue
      exact ⟨hset, exists_readSetLimit_error_iff.mp ⟨_, hfault⟩⟩
  · rintro ⟨hset, hnone⟩
    obtain ⟨fault, hfault⟩ := exists_readSetLimit_error_iff.mpr hnone
    obtain ⟨hname, hvalue⟩ := eq_of_readSetLimit_error hfault
    refine ⟨fault.cause, load_eq_error_iff.mpr (Or.inr ⟨haddress, value, hset, ?_⟩)⟩
    rw [← hname, ← hvalue]
    rwa [← hvalue] at hfault

/-- The settings depend on two variables. A text that is no address fails before the limit is
looked at. Else a limit that is no numeral from 1 up to 64 bits fails, and nothing else does. Each
setting is what its own variable says, or the standard value. With such settings a call that gives
no parameter twice is never too large. -/
theorem load_from_two_variables (lookup : String → Option String) :
    (∀ lookup' : String → Option String, lookup' addressVariable = lookup addressVariable →
      lookup' setLimitVariable = lookup setLimitVariable → load lookup' = load lookup) ∧
    (∀ value, lookup addressVariable = some value → SocketAddress.read? value = none →
      load lookup = .error ⟨addressVariable, value, .address⟩) ∧
    ((∀ value, lookup addressVariable = some value →
        ∃ address, SocketAddress.read? value = some address) →
      ∀ value, (∃ cause, load lookup = .error ⟨setLimitVariable, value, cause⟩) ↔
        lookup setLimitVariable = some value ∧ ¬ ∃ n, IsSetLimit value n) ∧
    (∀ s, load lookup = .ok s ↔ GivesAddress (lookup addressVariable) s.address ∧
      GivesSetLimit (lookup setLimitVariable) s.setLimit) ∧
    (∀ s, load lookup = .ok s → ∀ (now : Instant) (r : Request), r.method = "GET" →
      r.path = "/plan/set" →
      (∀ p : Indexed, ((Param.indexed p).texts (QueryString.pairs r.query)).length ≤ 1) →
      ∀ message, ¬ (Endpoint.handle s.setLimit now r).2.Rejects "PLAN_SET_TOO_LARGE" message) := by
  refine ⟨?_, ?_, ?_, fun s => load_eq_ok_iff, ?_⟩
  · intro lookup' haddress hlimit
    rw [load, load, haddress, hlimit]
  · intro value hset hnone
    exact load_eq_error_iff.mpr (Or.inl ⟨value, hset, hnone, rfl⟩)
  · intro hall value
    exact load_setLimit_error_iff (exists_gives_iff.mpr hall)
  · intro s hload now r hmethod hpath htexts message
    have hlimit : 1 ≤ s.setLimit := (load_eq_ok_iff.mp hload).2.one_le
    rw [Endpoint.handle_planSet hmethod hpath]
    exact Endpoint.not_rejects_setTooLarge_of_texts htexts hlimit message

/-- Seven with a sign and zeros is a limit, and zero is none however it is written. -/
theorem load_from_signs_and_zeros :
    (∃ s, load (fun name => if name = setLimitVariable then some "+007" else none) = .ok s ∧
      s.setLimit = 7 ∧ ∀ message,
        ¬ (Endpoint.handle s.setLimit .quarterToNine ⟨"GET", "/plan/set?optimize=SAFE"⟩).2.Rejects
          "PLAN_SET_TOO_LARGE" message) ∧
    ∃ cause, load (fun name => if name = setLimitVariable then some "+00" else none) =
      .error ⟨setLimitVariable, "+00", cause⟩ := by
  constructor
  · obtain ⟨-, -, -, hok, hwithin⟩ :=
      load_from_two_variables fun name => if name = setLimitVariable then some "+007" else none
    have hseven : IsSetLimit "+007" 7 :=
      ⟨['0', '0', '7'], Or.inr rfl, ⟨by simp, by simp, rfl⟩, by decide, by decide⟩
    have hload := (hok ⟨standard.address, 7⟩).mpr ⟨.unset, .set hseven⟩
    refine ⟨_, hload, rfl, hwithin _ hload _ _ rfl (by decide +kernel) ?_⟩
    have hpairs : QueryString.pairs (Request.query ⟨"GET", "/plan/set?optimize=SAFE"⟩) =
        [("optimize", "SAFE")] := by decide +kernel
    intro p
    rw [hpairs]
    cases p <;> decide +kernel
  · obtain ⟨-, -, hlimit, -, -⟩ :=
      load_from_two_variables fun name => if name = setLimitVariable then some "+00" else none
    refine (hlimit (by rintro _ ⟨⟩) "+00").mpr ⟨rfl, ?_⟩
    rintro ⟨n, hn⟩
    have hread : readSetLimit "+00" = .error ⟨setLimitVariable, "+00", .zero⟩ := by decide
    rw [readSetLimit_eq_ok_iff.mpr hn] at hread
    cases hread

end Settings

end TripQuery
