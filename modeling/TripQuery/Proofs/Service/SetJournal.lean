import TripQuery.Proofs.Query.Ignored
import TripQuery.Proofs.Search.Noted
import TripQuery.Proofs.Service.Endpoints

namespace TripQuery

/-!
# The journal of a call for all searches

The notes of a call tell how far it got: through the pairs, past the bound, through the searches.
They all serve debugging, but for one that closes the journal and says how the call ended. Of each
note it is said what it reports: its level, its message, and where its values come from.
-/

/-- What an event puts into the journal: a level, a message, and the values beside it. -/
def Event.Reports (e : Event) (level : Level) (message : String)
    (values : List (String × EventValue)) : Prop :=
  e.level = level ∧ e.fields = ("message", .text message) :: values

variable {e : Event}

theorem exists_pair_of_mem_ignoredNotes {pairs : List (String × String)}
    (h : e ∈ ignoredNotes pairs) :
    ∃ pair ∈ pairs, pair.1 ∉ Param.all.map Param.name ∧ e = .ignoredParameter pair.1 := by
  induction pairs with
  | nil => cases h
  | cons pair pairs ih =>
      rw [ignoredNotes] at h
      split at h
      · obtain ⟨later, hmem, hlater⟩ := ih h
        exact ⟨later, List.mem_cons_of_mem pair hmem, hlater⟩
      · next hname =>
          rcases List.mem_cons.mp h with rfl | h
          · exact ⟨pair, List.mem_cons_self, hname, rfl⟩
          · obtain ⟨later, hmem, hlater⟩ := ih h
            exact ⟨later, List.mem_cons_of_mem pair hmem, hlater⟩

/-- A pair is noted by its name, which is that of no parameter. -/
theorem reports_of_mem_ignoredNotes {pairs : List (String × String)} (h : e ∈ ignoredNotes pairs) :
    ∃ name text, (name, text) ∈ pairs ∧ (∀ p : Param, p.name ≠ name) ∧
      e.Reports .debug "ignoring unrecognized query parameter" [("parameter", .text name)] := by
  obtain ⟨⟨name, text⟩, hmem, hname, rfl⟩ := exists_pair_of_mem_ignoredNotes h
  refine ⟨name, text, hmem, ?_, rfl, rfl⟩
  rintro p rfl
  exact hname (List.mem_map_of_mem p.mem_all)

theorem level_of_mem_ignoredNotes {pairs : List (String × String)} (h : e ∈ ignoredNotes pairs) :
    e.level = .debug := by
  obtain ⟨-, -, -, -, hlevel, -⟩ := reports_of_mem_ignoredNotes h
  exact hlevel

namespace Query

variable {q : Query} {n : Nat}

theorem reports_of_mem_timestampNotes (h : e ∈ q.timestampNotes n) :
    ∃ time, nonBlank (q.pick .date n) = none ∧ nonBlank (q.pick .time n) = some time ∧
      e.Reports .debug "trying time as ISO timestamp" [("time", .text time)] := by
  rw [timestampNotes] at h
  split at h
  · next time hdate htime =>
      rw [List.mem_singleton.mp h]
      exact ⟨time, hdate, htime, rfl, rfl⟩
  · cases h

/-- A search is noted with its index and with what its answer says of it. -/
theorem reports_of_mem_foundNotes {found : List Search} (h : e ∈ q.foundNotes found) :
    ∃ n s, found[n]? = some s ∧ (e ∈ q.timestampNotes n ∨
      e.Reports .debug "resolved search request"
        [("index", .number n), ("optimize", .text s.answer.criterion),
          ("modes", .text (",".intercalate s.answer.modes)),
          ("date_time", .text s.instant.spaced)]) := by
  obtain ⟨⟨s, n⟩, hmem, he⟩ := List.mem_flatMap.mp h
  obtain ⟨hn, hs⟩ := List.mem_zipIdx' hmem
  refine ⟨n, s, ?_, ?_⟩
  · rw [List.getElem?_eq_getElem hn, hs]
  · rcases List.mem_append.mp he with he | he
    · exact Or.inl he
    · rw [List.mem_singleton.mp he]
      exact Or.inr ⟨rfl, rfl⟩

theorem level_of_mem_timestampNotes (h : e ∈ q.timestampNotes n) : e.level = .debug := by
  obtain ⟨-, -, -, hlevel, -⟩ := reports_of_mem_timestampNotes h
  exact hlevel

theorem level_of_mem_foundNotes {found : List Search} (h : e ∈ q.foundNotes found) :
    e.level = .debug := by
  obtain ⟨n, s, -, htime | ⟨hlevel, -⟩⟩ := reports_of_mem_foundNotes h
  · exact level_of_mem_timestampNotes htime
  · exact hlevel

end Query

namespace Endpoint

/-- How far a call for all searches gets, by what it notes on the way, and how it ends: at a pair
that cannot be read, at the bound, at a search that fails, or with all searches found. -/
inductive SetRun (limit : Nat) (now : Instant) (pairs : List (String × String)) :
    List Event → Except Rejection (List Search) → Prop
  | undecodable (before after : List (String × String)) (p : Param) (text : String)
      (cause : ValueCause) (hpairs : pairs = before ++ (p.name, text) :: after)
      (hbefore : ∀ (r : Param) (t : String), (r.name, t) ∈ before → ∃ v, r.kind.Denotes t v)
      (htext : p.kind.read text = .error cause) :
      SetRun limit now pairs (ignoredNotes before) (.error (.param ⟨p.name, text, cause⟩))
  | tooLarge (q : Query) (hq : (Query.decode pairs).outcome = .ok q) (hlt : limit < q.count) :
      SetRun limit now pairs (ignoredNotes pairs) (.error (.setTooLarge q.count limit))
  | failed (q : Query) (found : List Search) (fault : SearchFault)
      (hq : (Query.decode pairs).outcome = .ok q) (hle : q.count ≤ limit)
      (hlength : found.length < q.count)
      (hfound : ∀ n (h : n < found.length), (q.search now n).outcome = .ok found[n])
      (hfault : (q.search now found.length).outcome = .error fault) :
      SetRun limit now pairs
        (ignoredNotes pairs ++ (q.foundNotes found ++ q.timestampNotes found.length))
        (.error (.search fault))
  | found (q : Query) (found : List Search) (hq : (Query.decode pairs).outcome = .ok q)
      (hle : q.count ≤ limit) (hlength : found.length = q.count)
      (hfound : ∀ n (h : n < found.length), (q.search now n).outcome = .ok found[n]) :
      SetRun limit now pairs (ignoredNotes pairs ++ q.foundNotes found) (.ok found)

/-- The last note of a call. -/
def closingNote : Except Rejection (List Search) → Event
  | .ok found => .resolvedSet found.length
  | .error r => .rejected .badRequest r.kind r.message

variable {limit : Nat} {now : Instant} {query : String} {pairs : List (String × String)}
variable {notes : List Event} {outcome : Except Rejection (List Search)}

theorem SetRun.level_eq_debug (h : SetRun limit now pairs notes outcome) :
    ∀ e ∈ notes, e.level = .debug := by
  intro e he
  cases h with
  | undecodable => exact level_of_mem_ignoredNotes he
  | tooLarge => exact level_of_mem_ignoredNotes he
  | failed q found =>
      rcases List.mem_append.mp he with he | he
      · exact level_of_mem_ignoredNotes he
      · rcases List.mem_append.mp he with he | he
        · exact Query.level_of_mem_foundNotes he
        · exact Query.level_of_mem_timestampNotes he
  | found q found =>
      rcases List.mem_append.mp he with he | he
      · exact level_of_mem_ignoredNotes he
      · exact Query.level_of_mem_foundNotes he

theorem level_closingNote_ne_debug (outcome : Except Rejection (List Search)) :
    (closingNote outcome).level ≠ .debug := by
  cases outcome <;> exact Level.noConfusion

theorem SetRun.filter_level (h : SetRun limit now pairs notes outcome) :
    (notes ++ [closingNote outcome]).filter (fun e => e.level ≠ .debug) =
      [closingNote outcome] := by
  have hnotes : notes.filter (fun e => e.level ≠ .debug) = [] := by
    refine List.filter_eq_nil_iff.mpr fun e he => ?_
    simpa using h.level_eq_debug e he
  rw [List.filter_append, hnotes, List.nil_append, List.filter_singleton]
  simp [level_closingNote_ne_debug]

/-- The cases are those of the call: decoding, then the bound, then the searches. -/
theorem exists_setRun (limit : Nat) (now : Instant) (query : String) :
    ∃ notes, SetRun limit now (QueryString.pairs query) notes (planSet limit now query).outcome ∧
      (respond (planSet limit now query)).1 =
        notes ++ [closingNote (planSet limit now query).outcome] := by
  cases hdecode : (Query.decode (QueryString.pairs query)).outcome with
  | error fault =>
      obtain ⟨before, p, text, after, hpairs, hbefore, hname, htext, hread⟩ :=
        Query.decode_eq_error_iff_first.mp hdecode
      have hfault : fault = ⟨p.name, text, fault.cause⟩ := by rw [← hname, ← htext]
      have hevents := Query.events_decode_of_error hbefore hread after
      rw [← hpairs] at hevents
      rw [hfault] at hdecode
      rw [planSet_of_undecodable hdecode, respond_of_error rfl, hevents]
      exact ⟨_, .undecodable before after p text fault.cause hpairs hbefore hread, rfl⟩
  | ok q =>
      have hignored := Query.events_decode_of_ok hdecode
      by_cases hlt : limit < q.count
      · rw [planSet_of_lt hdecode hlt, respond_of_error rfl, hignored]
        exact ⟨_, .tooLarge q hdecode hlt, rfl⟩
      · have hle := Nat.le_of_not_lt hlt
        cases hall : (q.searches now).outcome with
        | error fault =>
            obtain ⟨found, hlength, hfound, hfault, hevents⟩ :=
              Query.events_searches_of_error hall
            rw [planSet_of_error hdecode hle hall, respond_of_error rfl, hignored, hevents]
            exact ⟨_, .failed q found fault hdecode hle hlength hfound hfault, rfl⟩
        | ok found =>
            obtain ⟨hlength, hfound⟩ := Query.searches_eq_ok_iff.mp hall
            rw [planSet_of_ok hdecode hle hall, respond_of_ok rfl, hignored,
              Query.events_searches_of_ok hall, ← hlength, ← List.append_assoc]
            exact ⟨_, .found q found hdecode hle hlength hfound, rfl⟩

/-- The last note says what the response says: how many documents there are, or with which code and
message the call is rejected. -/
theorem reports_closingNote (x : Logged Rejection (List Search)) :
    (∃ items, (respond x).2.Holds items ∧
      (closingNote x.outcome).Reports .info "resolved plan set"
        [("count", .number items.length)]) ∨
    ∃ kind text, (respond x).2.Rejects kind text ∧
      (closingNote x.outcome).Reports .warn "rejected plan request"
        [("status", .text "400 Bad Request"), ("kind", .text kind), ("message", .text text)] := by
  cases hx : x.outcome with
  | ok found =>
      obtain ⟨items, hitems, hlength, -⟩ := (lists_of_ok hx).exists_items
      refine Or.inl ⟨items, hitems, rfl, ?_⟩
      rw [hlength]
      rfl
  | error r => exact Or.inr ⟨r.kind, r.message, rejects_of_error hx, rfl, rfl⟩

/-- Of the events of a call for all searches, the last one reports the response, and all others
serve debugging. -/
theorem last_event_reports_response {r : Request} (hmethod : r.method = "GET")
    (hpath : r.path = "/plan/set") (limit : Nat) (now : Instant) :
    ∃ notes closing, (handle limit now r).1 = notes ++ [closing] ∧
      (∀ e ∈ notes, e.level = .debug) ∧
      ((∃ items, (handle limit now r).2.Holds items ∧
        closing.Reports .info "resolved plan set" [("count", .number items.length)]) ∨
      ∃ kind text, (handle limit now r).2.Rejects kind text ∧
        closing.Reports .warn "rejected plan request"
          [("status", .text "400 Bad Request"), ("kind", .text kind),
            ("message", .text text)]) := by
  obtain ⟨notes, hrun, hevents⟩ := exists_setRun limit now r.query
  rw [handle_planSet hmethod hpath]
  exact ⟨notes, _, hevents, hrun.level_eq_debug, reports_closingNote _⟩

/-- The journal of a call for all searches. It tells how far the call got, at the level for
debugging; one note above that level closes it, and agrees with the response. -/
theorem journal_of_set {r : Request} (hmethod : r.method = "GET") (hpath : r.path = "/plan/set")
    (limit : Nat) (now : Instant) :
    ∃ notes outcome, SetRun limit now (QueryString.pairs r.query) notes outcome ∧
      (handle limit now r).1 = notes ++ [closingNote outcome] ∧
      (handle limit now r).1.filter (fun e => e.level ≠ .debug) = [closingNote outcome] ∧
      (∀ found, outcome = .ok found → (handle limit now r).2.Lists found) ∧
      ∀ rejection, outcome = .error rejection →
        (handle limit now r).2.Rejects rejection.kind rejection.message := by
  obtain ⟨notes, hrun, hevents⟩ := exists_setRun limit now r.query
  rw [handle_planSet hmethod hpath]
  refine ⟨notes, _, hrun, hevents, ?_, fun _ => lists_of_ok, fun _ => rejects_of_error⟩
  rw [hevents]
  exact hrun.filter_level

/-- No set is small enough for a limit of none. -/
theorem journal_of_set_beyond_every_limit :
    ∃ r : Request, r.target = "/plan/set?lang=en&optimize=QUICK" ∧
      (handle 0 .quarterToNine r).1 =
        [.ignoredParameter "lang", .rejected .badRequest "PLAN_SET_TOO_LARGE"
          "plan set of 1 requests exceeds the limit of 0"] := by
  obtain ⟨r, hmethod, hpath, htarget, hpairs⟩ : ∃ r : Request, r.method = "GET" ∧
      r.path = "/plan/set" ∧ r.target = "/plan/set?lang=en&optimize=QUICK" ∧
        QueryString.pairs r.query = [("lang", "en"), ("optimize", "QUICK")] :=
    ⟨⟨"GET", "/plan/set?lang=en&optimize=QUICK"⟩, rfl, by decide +kernel, rfl, by decide +kernel⟩
  have hdecode : ∃ q, (Query.decode (QueryString.pairs r.query)).outcome = .ok q ∧ q.count = 1 := by
    rw [hpairs]
    exact ⟨Query.ofSettings [.indexed .optimize .quick], rfl, rfl⟩
  obtain ⟨q, hq, hcount⟩ := hdecode
  refine ⟨r, htarget, ?_⟩
  obtain ⟨notes, outcome, hrun, hevents, -⟩ := journal_of_set hmethod hpath 0 .quarterToNine
  rw [hevents]
  cases hrun with
  | undecodable before after p text cause hpairs' hbefore htext =>
      have hfault : (Query.decode (QueryString.pairs r.query)).outcome =
          .error ⟨p.name, text, cause⟩ :=
        Query.decode_eq_error_iff_first.mpr
          ⟨before, p, text, after, hpairs', hbefore, rfl, rfl, htext⟩
      cases hq.symm.trans hfault
  | tooLarge q' hq' hlt =>
      obtain rfl : q = q' := Except.ok.inj (hq.symm.trans hq')
      rw [hpairs, hcount]
      rfl
  | failed q' found fault hq' hle => exact absurd hle (Nat.not_le.mpr q'.one_le_count)
  | found q' found hq' hle => exact absurd hle (Nat.not_le.mpr q'.one_le_count)

end Endpoint

end TripQuery
