import TripQuery.Service.Endpoint
import TripQuery.Proofs.Journal
import TripQuery.Proofs.Query.Decoding
import TripQuery.Proofs.Search.Counting

namespace TripQuery

/-!
# Two endpoints for one query

The endpoint for one search and the endpoint for all of them decode a query alike. They differ in
the bound on the number of searches, which stands in front of all that may be wrong with a search,
and in how far they go on.
-/

namespace Rejection

/-- The codes that a client has to know. -/
def kinds : List String :=
  ["INVALID_PARAMETER", "TRIANGLE_UNDERSPECIFIED", "TRIANGLE_OPTIMIZE_TYPE_NOT_SET",
    "TRIANGLE_NOT_AFFINE", "TRIANGLE_VALUES_NOT_SET", "UNSUPPORTED_COMBINATION",
    "MALFORMED_DATE_TIME", "MALFORMED_ROUTE_SPEC", "PLAN_SET_TOO_LARGE"]

theorem kind_mem_kinds (r : Rejection) : r.kind ∈ kinds := by
  cases r with
  | param fault => simp [kind, kinds]
  | search fault => cases fault <;> simp [kind, SearchFault.kind, kinds]
  | setTooLarge count limit => simp [kind, kinds]

theorem param_kind_ne (fault : ParamFault) : (param fault).kind ≠ "PLAN_SET_TOO_LARGE" := by
  simp [kind]

theorem search_kind_ne (fault : SearchFault) : (search fault).kind ≠ "PLAN_SET_TOO_LARGE" := by
  cases fault <;> simp [kind, SearchFault.kind]

end Rejection

namespace Response

/-- The response is a list of these documents, and has nothing else in it. -/
def Holds (x : Response) (items : List Document) : Prop :=
  x.status = .ok ∧ x.body = .document (.record [("requests", .list items)])

/-- The response lists searches: it holds the answer to each of them, in their order. -/
def Lists (x : Response) (searches : List Search) : Prop :=
  x.Holds (searches.map fun s => s.answer.document)

/-- The response rejects a call, and tells a code and a message. -/
def Rejects (x : Response) (kind message : String) : Prop :=
  x.status = .badRequest ∧
    x.body = .document (.record [("error", .text message), ("kind", .text kind)])

/-- A listing has one document for each search, in order. -/
theorem Lists.exists_items {x : Response} {searches : List Search} (h : x.Lists searches) :
    ∃ items, x.Holds items ∧ items.length = searches.length ∧
      ∀ n (hn : n < searches.length), items[n]? = some searches[n].answer.document := by
  refine ⟨_, h, List.length_map _, fun n hn => ?_⟩
  rw [List.getElem?_map, List.getElem?_eq_getElem hn]
  rfl

end Response

namespace Endpoint

variable {limit : Nat} {now : Instant} {query : String} {q : Query}
variable {x : Logged Rejection (List Search)}

theorem respond_of_ok {searches : List Search} (h : x.outcome = .ok searches) :
    respond x = (x.events, .ofBody .ok (.document (Answer.documentOf searches))) := by
  rw [respond, h]

theorem respond_of_error {r : Rejection} (h : x.outcome = .error r) :
    respond x =
      (x.events ++ [.rejected .badRequest r.kind r.message],
        .ofBody .badRequest (.document r.document)) := by
  rw [respond, h]

theorem lists_of_ok {searches : List Search} (h : x.outcome = .ok searches) :
    (respond x).2.Lists searches := by
  rw [respond_of_ok h]
  exact ⟨rfl, rfl⟩

theorem rejects_of_error {r : Rejection} (h : x.outcome = .error r) :
    (respond x).2.Rejects r.kind r.message := by
  rw [respond_of_error h]
  exact ⟨rfl, rfl⟩

theorem handle_plan {r : Request} (hmethod : r.method = "GET") (hpath : r.path = "/plan") :
    handle limit now r = respond (plan now r.query) := by
  have hget : get? limit now r = some (respond (plan now r.query)) := by
    rw [get?, hpath, if_neg (by decide), if_pos rfl]
  simp only [handle, hget, hmethod, if_true]

theorem handle_planSet {r : Request} (hmethod : r.method = "GET") (hpath : r.path = "/plan/set") :
    handle limit now r = respond (planSet limit now r.query) := by
  have hget : get? limit now r = some (respond (planSet limit now r.query)) := by
    rw [get?, hpath, if_neg (by decide), if_neg (by decide), if_pos rfl]
  simp only [handle, hget, hmethod, if_true]

section Calls

theorem plan_of_undecodable {fault : ParamFault}
    (h : (Query.decode (QueryString.pairs query)).outcome = .error fault) :
    plan now query =
      ⟨(Query.decode (QueryString.pairs query)).events, .error (.param fault)⟩ := by
  rw [plan, Recorded.bind_of_error (Recorded.outcome_mapFault_of_error h Rejection.param)]
  rfl

theorem planSet_of_undecodable {fault : ParamFault}
    (h : (Query.decode (QueryString.pairs query)).outcome = .error fault) :
    planSet limit now query =
      ⟨(Query.decode (QueryString.pairs query)).events, .error (.param fault)⟩ := by
  rw [planSet, Recorded.bind_of_error (Recorded.outcome_mapFault_of_error h Rejection.param)]
  rfl

variable (hq : (Query.decode (QueryString.pairs query)).outcome = .ok q)

include hq

theorem outcome_plan_of_decode :
    (plan now query).outcome =
      ((q.search now 0).outcome.mapError .search).bind fun s => .ok [s] := by
  rw [plan, Recorded.bind_of_ok (Recorded.outcome_mapFault_of_ok hq Rejection.param)]
  exact Recorded.outcome_bind _ _

/-- The bound comes before everything but decoding. -/
theorem planSet_of_lt (hlt : limit < q.count) :
    planSet limit now query =
      ⟨(Query.decode (QueryString.pairs query)).events,
        .error (.setTooLarge q.count limit)⟩ := by
  rw [planSet, Recorded.bind_of_ok (Recorded.outcome_mapFault_of_ok hq Rejection.param), if_pos hlt,
    Recorded.events_fail, List.append_nil]
  rfl

theorem planSet_of_ok (hle : q.count ≤ limit) {searches : List Search}
    (hs : (q.searches now).outcome = .ok searches) :
    planSet limit now query =
      ⟨(Query.decode (QueryString.pairs query)).events ++
        ((q.searches now).events ++ [.resolvedSet q.count]), .ok searches⟩ := by
  have hfound := Recorded.outcome_mapFault_of_ok hs Rejection.search
  rw [planSet, Recorded.bind_of_ok (Recorded.outcome_mapFault_of_ok hq Rejection.param),
    if_neg (Nat.not_lt.mpr hle), Recorded.bind_of_ok hfound]
  simp only [Recorded.bind_of_ok (Recorded.outcome_note _), Recorded.events_mapFault,
    Recorded.events_note, Recorded.events_pure, Recorded.outcome_pure, List.append_nil]

theorem planSet_of_error (hle : q.count ≤ limit) {fault : SearchFault}
    (hs : (q.searches now).outcome = .error fault) :
    planSet limit now query =
      ⟨(Query.decode (QueryString.pairs query)).events ++ (q.searches now).events,
        .error (.search fault)⟩ := by
  have hfault := Recorded.outcome_mapFault_of_error hs Rejection.search
  rw [planSet, Recorded.bind_of_ok (Recorded.outcome_mapFault_of_ok hq Rejection.param),
    if_neg (Nat.not_lt.mpr hle), Recorded.bind_of_error hfault]
  simp only [Recorded.events_mapFault]

end Calls

section Agreement

theorem outcome_of_status_ok (h : (respond x).2.status = .ok) :
    ∃ searches, x.outcome = .ok searches := by
  cases hx : x.outcome with
  | ok searches => exact ⟨searches, rfl⟩
  | error r =>
      rw [respond_of_error hx] at h
      cases h

theorem outcome_of_rejects {kind message : String} (h : (respond x).2.Rejects kind message) :
    ∃ r, x.outcome = .error r ∧ r.kind = kind ∧ r.message = message := by
  cases hx : x.outcome with
  | ok searches =>
      rw [respond_of_ok hx] at h
      cases h.1
  | error r =>
      rw [respond_of_error hx] at h
      have hbody : Body.document r.document =
          .document (.record [("error", .text message), ("kind", .text kind)]) := h.2
      rw [Rejection.document] at hbody
      cases hbody
      exact ⟨r, rfl, rfl, rfl⟩

theorem lists_or_rejects (x : Logged Rejection (List Search)) :
    (∃ searches, (respond x).2.Lists searches) ∨
      ∃ kind ∈ Rejection.kinds, ∃ message, (respond x).2.Rejects kind message := by
  cases hx : x.outcome with
  | ok searches => exact Or.inl ⟨searches, lists_of_ok hx⟩
  | error r => exact Or.inr ⟨r.kind, r.kind_mem_kinds, r.message, rejects_of_error hx⟩

theorem response_congr {y : Logged Rejection (List Search)} (h : x.outcome = y.outcome) :
    (respond x).2 = (respond y).2 := by
  cases hy : y.outcome with
  | ok searches => rw [respond_of_ok hy, respond_of_ok (h.trans hy)]
  | error r => rw [respond_of_error hy, respond_of_error (h.trans hy)]

/-- Within the bound, what fails one search fails all of them, and in the same way. -/
theorem planSet_error_of_plan_error {r : Rejection}
    (hle : ∀ q, (Query.decode (QueryString.pairs query)).outcome = .ok q → q.count ≤ limit)
    (h : (plan now query).outcome = .error r) :
    (planSet limit now query).outcome = .error r := by
  cases hdecode : (Query.decode (QueryString.pairs query)).outcome with
  | error fault =>
      rw [plan_of_undecodable hdecode] at h
      rw [planSet_of_undecodable hdecode]
      exact h
  | ok q =>
      rw [outcome_plan_of_decode hdecode] at h
      cases hfirst : (q.search now 0).outcome with
      | ok s =>
          rw [hfirst] at h
          cases h
      | error fault =>
          rw [hfirst] at h
          rw [planSet_of_error hdecode (hle q hdecode) (Query.searches_of_first_error hfirst)]
          exact h

/-- When all searches are listed, they are as many as were counted, and the first of them is the
one search of the other endpoint. -/
theorem planSet_ok {searches : List Search}
    (h : (planSet limit now query).outcome = .ok searches) :
    ∃ q first rest, (Query.decode (QueryString.pairs query)).outcome = .ok q ∧
      q.count ≤ limit ∧ searches = first :: rest ∧ searches.length = q.count ∧
        (plan now query).outcome = .ok [first] ∧
          ∀ n (hn : n < searches.length), (q.search now n).outcome = .ok searches[n] := by
  cases hdecode : (Query.decode (QueryString.pairs query)).outcome with
  | error fault =>
      rw [planSet_of_undecodable hdecode] at h
      cases h
  | ok q =>
      by_cases hlt : limit < q.count
      · rw [planSet_of_lt hdecode hlt] at h
        cases h
      · have hle := Nat.le_of_not_lt hlt
        cases hall : (q.searches now).outcome with
        | error fault =>
            rw [planSet_of_error hdecode hle hall] at h
            cases h
        | ok found =>
            rw [planSet_of_ok hdecode hle hall] at h
            cases h
            obtain ⟨first, rest, rfl, hfirst⟩ := Query.exists_first_of_searches hall
            obtain ⟨hlength, hfound⟩ := Query.searches_eq_ok_iff.mp hall
            refine ⟨q, first, rest, rfl, hle, rfl, hlength, ?_, hfound⟩
            rw [outcome_plan_of_decode hdecode, hfirst]
            rfl

theorem count_eq_one_of_texts {pairs : List (String × String)}
    (hq : (Query.decode pairs).outcome = .ok q)
    (h : ∀ p : Indexed, ((Param.indexed p).texts pairs).length ≤ 1) : q.count = 1 := by
  have hle : q.count ≤ 1 := by
    refine Query.count_le_iff.mpr ⟨Nat.le_refl 1, fun p => ?_⟩
    rw [← (Query.values_of_decode hq p).length_eq]
    exact h p
  exact Nat.le_antisymm hle q.one_le_count

theorem plan_eq_planSet_of_texts
    (h : ∀ p : Indexed, ((Param.indexed p).texts (QueryString.pairs query)).length ≤ 1)
    (hlimit : 1 ≤ limit) : (plan now query).outcome = (planSet limit now query).outcome := by
  cases hdecode : (Query.decode (QueryString.pairs query)).outcome with
  | error fault => rw [plan_of_undecodable hdecode, planSet_of_undecodable hdecode]
  | ok q =>
      have hcount := count_eq_one_of_texts hdecode h
      have hle : q.count ≤ limit := by rwa [hcount]
      rw [outcome_plan_of_decode hdecode]
      cases hfirst : (q.search now 0).outcome with
      | ok s =>
          rw [planSet_of_ok hdecode hle (Query.searches_of_count_eq_one hcount hfirst)]
          rfl
      | error fault =>
          rw [planSet_of_error hdecode hle (Query.searches_of_first_error hfirst)]
          rfl

/-- A call for one search is never one for too many. -/
theorem kind_ne_of_plan_error {r : Rejection} (h : (plan now query).outcome = .error r) :
    r.kind ≠ "PLAN_SET_TOO_LARGE" := by
  cases hdecode : (Query.decode (QueryString.pairs query)).outcome with
  | error fault =>
      rw [plan_of_undecodable hdecode] at h
      cases h
      exact Rejection.param_kind_ne fault
  | ok q =>
      rw [outcome_plan_of_decode hdecode] at h
      cases hfirst : (q.search now 0).outcome with
      | ok s =>
          rw [hfirst] at h
          cases h
      | error fault =>
          rw [hfirst] at h
          cases h
          exact Rejection.search_kind_ne fault

theorem not_rejects_setTooLarge_of_texts
    (h : ∀ p : Indexed, ((Param.indexed p).texts (QueryString.pairs query)).length ≤ 1)
    (hlimit : 1 ≤ limit) (message : String) :
    ¬ (respond (planSet limit now query)).2.Rejects "PLAN_SET_TOO_LARGE" message := by
  intro hrejects
  obtain ⟨r, hr, hkind, -⟩ := outcome_of_rejects hrejects
  rw [← plan_eq_planSet_of_texts h hlimit] at hr
  exact kind_ne_of_plan_error hr hkind

variable {a b : Request}

/-- The two endpoints on one query. Both list searches or reject the call with a code that is
known. Too many searches are rejected as such, whatever is wrong with them. Otherwise what rejects
one search rejects all of them; and where all are listed, there are as many documents as were
counted, within the limit, each answers the search of its index, and the first is the only one that
the other endpoint lists. If no parameter is given twice, the responses are the same. -/
theorem endpoints_agree (ha : a.method = "GET") (hplan : a.path = "/plan")
    (hb : b.method = "GET") (hset : b.path = "/plan/set") (hquery : b.query = a.query)
    (limit : Nat) (now : Instant) :
    let decoded := (Query.decode (QueryString.pairs a.query)).outcome
    let one := (handle limit now a).2
    let all := (handle limit now b).2
    (∀ x ∈ [one, all], (∃ searches, x.Lists searches) ∨
      ∃ kind ∈ Rejection.kinds, ∃ message, x.Rejects kind message) ∧
    (∀ q, decoded = .ok q → limit < q.count → all.Rejects "PLAN_SET_TOO_LARGE"
      ("plan set of " ++ toString q.count ++ " requests exceeds the limit of " ++
        toString limit)) ∧
    ((∀ q, decoded = .ok q → q.count ≤ limit) →
      ∀ kind message, one.Rejects kind message → all.Rejects kind message) ∧
    (all.status = .ok → ∃ q first rest, decoded = .ok q ∧ q.count ≤ limit ∧
      (first :: rest).length = q.count ∧ all.Holds (first :: rest) ∧ one.Holds [first] ∧
      ∀ n d, (first :: rest)[n]? = some d →
        ∃ s, (q.search now n).outcome = .ok s ∧ d = s.answer.document) ∧
    ((∀ p : Indexed, ((Param.indexed p).texts (QueryString.pairs a.query)).length ≤ 1) →
      1 ≤ limit → one = all) := by
  intro decoded one all
  have hone : one = (respond (plan now a.query)).2 := by rw [← handle_plan ha hplan]
  have hall : all = (respond (planSet limit now a.query)).2 := by
    rw [← hquery, ← handle_planSet hb hset]
  rw [hone, hall]
  refine ⟨?_, ?_, ?_, ?_, ?_⟩
  · simp only [List.forall_mem_cons]
    exact ⟨lists_or_rejects _, lists_or_rejects _, by simp⟩
  · intro q hq hlt
    have hout : (planSet limit now a.query).outcome = .error (.setTooLarge q.count limit) := by
      rw [planSet_of_lt hq hlt]
    exact rejects_of_error hout
  · intro hle kind message hrejects
    obtain ⟨r, hr, rfl, rfl⟩ := outcome_of_rejects hrejects
    exact rejects_of_error (planSet_error_of_plan_error hle hr)
  · intro hstatus
    obtain ⟨searches, hsearches⟩ := outcome_of_status_ok hstatus
    obtain ⟨q, first, rest, hq, hle, rfl, hlength, hfirst, hfound⟩ := planSet_ok hsearches
    obtain ⟨items, hitems, hcount, hget⟩ := (lists_of_ok hsearches).exists_items
    have hzero : items[0]? = some first.answer.document := hget 0 (Nat.succ_pos rest.length)
    cases items with
    | nil => cases hzero
    | cons d items =>
        obtain rfl : d = first.answer.document := Option.some.inj hzero
        refine ⟨q, _, items, hq, hle, hcount.trans hlength, hitems, lists_of_ok hfirst, ?_⟩
        intro n d hd
        have hn : n < (first :: rest).length := hcount ▸ (List.getElem?_eq_some_iff.mp hd).1
        exact ⟨_, hfound n hn, Option.some.inj (hd.symm.trans (hget n hn))⟩
  · intro htexts hlimit
    exact response_congr (plan_eq_planSet_of_texts htexts hlimit)

/-- The second of two criteria lacks its weights, but there are too many searches to see it. Where
neither criterion needs any, and two searches are allowed, both are listed. -/
theorem endpoints_agree_on_two_criteria :
    (∃ a b : Request, a.target = "/plan?optimize=QUICK&optimize=TRIANGLE" ∧
      b.target = "/plan/set?optimize=QUICK&optimize=TRIANGLE#all" ∧ b.query = a.query ∧
        (handle 1 .quarterToNine b).2.Rejects "PLAN_SET_TOO_LARGE"
          "plan set of 2 requests exceeds the limit of 1") ∧
    ∃ a b : Request, a.target = "/plan?optimize=QUICK&optimize=SAFE" ∧
      b.target = "/plan/set?optimize=QUICK&optimize=SAFE" ∧ b.query = a.query ∧
        ∃ quick safe : Search, quick = .standard .quarterToNine ∧
            safe = { quick with criterion := .safe } ∧
            (handle 2 .quarterToNine b).2.Holds [quick.answer.document, safe.answer.document] ∧
              (handle 2 .quarterToNine a).2.Holds [quick.answer.document] := by
  constructor
  · obtain ⟨a, b, ha, hb, hplan, hset, htarget, htarget', hquery, hpairs⟩ :
        ∃ a b : Request, a.method = "GET" ∧ b.method = "GET" ∧
          a.path = "/plan" ∧ b.path = "/plan/set" ∧
            a.target = "/plan?optimize=QUICK&optimize=TRIANGLE" ∧
              b.target = "/plan/set?optimize=QUICK&optimize=TRIANGLE#all" ∧ b.query = a.query ∧
                QueryString.pairs a.query = [("optimize", "QUICK"), ("optimize", "TRIANGLE")] :=
      ⟨⟨"GET", "/plan?optimize=QUICK&optimize=TRIANGLE"⟩,
        ⟨"GET", "/plan/set?optimize=QUICK&optimize=TRIANGLE#all"⟩, rfl, rfl, by decide +kernel,
        by decide +kernel, rfl, rfl, by decide +kernel, by decide +kernel⟩
    obtain ⟨q, hq, hcount⟩ :
        ∃ q, (Query.decode (QueryString.pairs a.query)).outcome = .ok q ∧ q.count = 2 := by
      refine ⟨Query.ofSettings [.indexed .optimize .quick, .indexed .optimize .triangle], ?_, rfl⟩
      rw [hpairs]
      rfl
    have hlt : 1 < q.count := hcount ▸ Nat.lt_succ_self 1
    have hrejects := (endpoints_agree ha hplan hb hset hquery 1 .quarterToNine).2.1 q hq hlt
    rw [hcount] at hrejects
    exact ⟨a, b, htarget, htarget', hquery, hrejects⟩
  · obtain ⟨a, b, ha, hb, hplan, hset, htarget, htarget', hquery, hpairs⟩ :
        ∃ a b : Request, a.method = "GET" ∧ b.method = "GET" ∧
          a.path = "/plan" ∧ b.path = "/plan/set" ∧
            a.target = "/plan?optimize=QUICK&optimize=SAFE" ∧
              b.target = "/plan/set?optimize=QUICK&optimize=SAFE" ∧ b.query = a.query ∧
                QueryString.pairs a.query = [("optimize", "QUICK"), ("optimize", "SAFE")] :=
      ⟨⟨"GET", "/plan?optimize=QUICK&optimize=SAFE"⟩,
        ⟨"GET", "/plan/set?optimize=QUICK&optimize=SAFE"⟩, rfl, rfl, by decide +kernel,
        by decide +kernel, rfl, rfl, by decide +kernel, by decide +kernel⟩
    obtain ⟨q, quick, safe, hq, hcount, hquick, hsafe, hstandard, hcriterion⟩ :
        ∃ q quick safe, (Query.decode (QueryString.pairs a.query)).outcome = .ok q ∧
          q.count = 2 ∧ (q.search .quarterToNine 0).outcome = .ok quick ∧
            (q.search .quarterToNine 1).outcome = .ok safe ∧
              quick = .standard .quarterToNine ∧ safe = { quick with criterion := .safe } := by
      refine ⟨Query.ofSettings [.indexed .optimize .quick, .indexed .optimize .safe],
        .standard .quarterToNine, _, ?_, rfl, rfl, rfl, rfl, rfl⟩
      rw [hpairs]
      rfl
    obtain ⟨searches, hsearches⟩ : ∃ rs, (q.searches .quarterToNine).outcome = .ok rs := by
      refine Query.exists_searches_iff.mpr (Query.all_ok_iff.mp fun n hn => ?_)
      rw [hcount] at hn
      obtain rfl | rfl : n = 0 ∨ n = 1 := by omega
      · exact ⟨quick, hquick⟩
      · exact ⟨safe, hsafe⟩
    have hstatus : (handle 2 .quarterToNine b).2.status = .ok := by
      rw [handle_planSet hb hset, hquery]
      have hall := planSet_of_ok hq hcount.le hsearches
      exact (lists_of_ok (congrArg Recorded.outcome hall)).1
    obtain ⟨q', first, rest, hq', -, hlength, hholds, hone, hitems⟩ :=
      (endpoints_agree ha hplan hb hset hquery 2 .quarterToNine).2.2.2.1 hstatus
    obtain rfl : q = q' := Except.ok.inj (hq.symm.trans hq')
    obtain ⟨second, rfl⟩ : ∃ second, rest = [second] :=
      List.length_eq_one_iff.mp (Nat.succ.inj (hlength.trans hcount))
    obtain ⟨s, hs, rfl⟩ := hitems 0 first rfl
    obtain ⟨t, ht, rfl⟩ := hitems 1 second rfl
    obtain rfl : quick = s := Except.ok.inj (hquick.symm.trans hs)
    obtain rfl : safe = t := Except.ok.inj (hsafe.symm.trans ht)
    exact ⟨a, b, htarget, htarget', hquery, quick, safe, hstandard, hcriterion, hholds, hone⟩

end Agreement

end Endpoint

end TripQuery
