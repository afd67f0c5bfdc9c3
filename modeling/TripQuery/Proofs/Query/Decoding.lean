import Mathlib.Data.List.Forall2
import TripQuery.Query.Decoding
import TripQuery.Proofs.Query.Denotation

namespace TripQuery

/-!
# Decoding, parameter by parameter

Decoding goes through the pairs once. Seen from one parameter, it reads the texts given under that
parameter's name, in order, and nothing else: a query is the same whatever stands between them.
-/

namespace Param

/-- The texts given for a parameter, in order. -/
def texts (p : Param) (pairs : List (String × String)) : List String :=
  pairs.filterMap fun pair => if pair.1 = p.name then some pair.2 else none

@[simp] theorem texts_nil (p : Param) : p.texts [] = [] := rfl

theorem texts_cons_self (p : Param) (text : String) (pairs : List (String × String)) :
    p.texts ((p.name, text) :: pairs) = text :: p.texts pairs := by
  rw [texts, List.filterMap_cons_some (b := text) (by simp)]
  rfl

theorem texts_cons_ne {p : Param} {name : String} (h : name ≠ p.name) (text : String)
    (pairs : List (String × String)) : p.texts ((name, text) :: pairs) = p.texts pairs := by
  rw [texts, List.filterMap_cons_none (by simp [h])]
  rfl

theorem mem_texts {p : Param} {text : String} {pairs : List (String × String)} :
    text ∈ p.texts pairs ↔ (p.name, text) ∈ pairs := by
  rw [texts, List.mem_filterMap]
  constructor
  · rintro ⟨⟨name, s⟩, hmem, hs⟩
    by_cases hname : name = p.name
    · rw [if_pos hname, Option.some.injEq] at hs
      rw [← hname, ← hs]
      exact hmem
    · rw [if_neg hname] at hs
      cases hs
  · intro hmem
    exact ⟨(p.name, text), hmem, if_pos rfl⟩

theorem name_ne_of_ofName? {name : String} (h : ofName? name = none) (p : Param) :
    name ≠ p.name := by
  rintro rfl
  rw [ofName?_name] at h
  cases h

def setting : (p : Param) → p.kind.Value → Setting
  | indexed p, v => .indexed p v
  | places, s => .place s
  | placesOrdered, b => .placesOrdered b
  | batch, b => .batch b

theorem read_eq_ok_iff {p : Param} {s : String} {x : Setting} :
    p.read s = .ok x ↔ ∃ v, p.kind.Denotes s v ∧ p.setting v = x := by
  simp only [← Kind.read_eq_ok_iff]
  cases p with
  | indexed p => exact map_eq_ok_iff
  | places =>
      have hread : (Except.ok s : Except ValueCause String).map Setting.place = .ok x ↔ _ :=
        map_eq_ok_iff
      exact hread
  | placesOrdered => exact map_eq_ok_iff
  | batch => exact map_eq_ok_iff

theorem read_eq_error_iff {p : Param} {s : String} {cause : ValueCause} :
    p.read s = .error cause ↔ p.kind.read s = .error cause := by
  cases p with
  | indexed p => exact map_eq_error_iff
  | places =>
      have hread : (Except.ok s : Except ValueCause String).map Setting.place = .error cause ↔ _ :=
        map_eq_error_iff
      exact hread
  | placesOrdered => exact map_eq_error_iff
  | batch => exact map_eq_error_iff

end Param

def Setting.of? : (p : Param) → Setting → Option p.kind.Value
  | .indexed p, x => x.at? p
  | .places, x => x.place?
  | .placesOrdered, x => x.placesOrdered?
  | .batch, x => x.batch?

theorem Setting.of?_setting_self (p : Param) (v : p.kind.Value) :
    (p.setting v).of? p = some v := by
  cases p with
  | indexed p => exact at?_indexed_self p v
  | places => rfl
  | placesOrdered => rfl
  | batch => rfl

theorem Setting.of?_setting_ne {p r : Param} (v : r.kind.Value) (h : r ≠ p) :
    (r.setting v).of? p = none := by
  cases r with
  | indexed r =>
      cases p with
      | indexed p => exact at?_indexed_of_ne v fun hrp => h (by rw [hrp])
      | places => rfl
      | placesOrdered => rfl
      | batch => rfl
  | places => cases p <;> first | rfl | exact absurd rfl h
  | placesOrdered => cases p <;> first | rfl | exact absurd rfl h
  | batch => cases p <;> first | rfl | exact absurd rfl h

theorem exists_of_mem_forall₂ {α β : Type} {R : α → β → Prop} {as : List α} {bs : List β}
    (h : List.Forall₂ R as bs) {b : β} (hb : b ∈ bs) : ∃ a ∈ as, R a b := by
  induction h with
  | nil => cases hb
  | cons hab _ ih =>
      rcases List.mem_cons.mp hb with rfl | hb
      · exact ⟨_, List.mem_cons_self, hab⟩
      · obtain ⟨a, ha, hr⟩ := ih hb
        exact ⟨a, List.mem_cons_of_mem _ ha, hr⟩

namespace Query

variable {pairs : List (String × String)}

theorem readPair_name (p : Param) (text : String) :
    readPair (p.name, text) =
      ⟨[], ((p.read text).map some).mapError fun cause => ⟨p.name, text, cause⟩⟩ := by
  rw [readPair, Param.ofName?_name]
  cases hread : p.read text <;> simp only [hread] <;> rfl

theorem readPair_unknown {name : String} (h : Param.ofName? name = none) (text : String) :
    readPair (name, text) = ⟨[.ignoredParameter name], .ok none⟩ := by
  rw [readPair, h]
  rfl

theorem outcome_readPair_name (p : Param) (text : String) :
    (readPair (p.name, text)).outcome =
      ((p.read text).map some).mapError fun cause => ⟨p.name, text, cause⟩ := by
  rw [readPair_name]

theorem outcome_readPair_unknown {name : String} (h : Param.ofName? name = none) (text : String) :
    (readPair (name, text)).outcome = .ok none := by
  rw [readPair_unknown h]

theorem outcome_readPair_eq_ok_iff {p : Param} {text : String} {x : Option Setting} :
    (readPair (p.name, text)).outcome = .ok x ↔
      ∃ v, p.kind.Denotes text v ∧ x = some (p.setting v) := by
  rw [outcome_readPair_name, mapError_eq_ok_iff, map_eq_ok_iff]
  constructor
  · rintro ⟨z, hz, rfl⟩
    obtain ⟨v, hv, rfl⟩ := Param.read_eq_ok_iff.mp hz
    exact ⟨v, hv, rfl⟩
  · rintro ⟨v, hv, rfl⟩
    exact ⟨p.setting v, Param.read_eq_ok_iff.mpr ⟨v, hv, rfl⟩, rfl⟩

theorem outcome_readPair_eq_error_iff {name text : String} {fault : ParamFault} :
    (readPair (name, text)).outcome = .error fault ↔
      ∃ p : Param, p.name = name ∧ fault.name = name ∧ fault.text = text ∧
        p.kind.read text = .error fault.cause := by
  cases hname : Param.ofName? name with
  | none =>
      rw [outcome_readPair_unknown hname]
      constructor
      · intro h
        cases h
      · rintro ⟨p, hp, -⟩
        exact absurd hp.symm (Param.name_ne_of_ofName? hname p)
  | some p =>
      have hp := Param.name_of_ofName? hname
      subst hp
      rw [outcome_readPair_name, mapError_eq_error_iff]
      simp only [map_eq_error_iff, Param.read_eq_error_iff]
      constructor
      · rintro ⟨cause, hcause, rfl⟩
        exact ⟨p, rfl, rfl, rfl, hcause⟩
      · rintro ⟨r, hr, hn, ht, hcause⟩
        rw [Param.name_injective hr] at hcause
        refine ⟨fault.cause, hcause, ?_⟩
        rw [← hn, ← ht]

theorem decode_eq_ok_iff {q : Query} :
    (decode pairs).outcome = .ok q ↔
      ∃ settings : List (Option Setting),
        pairs.map (fun pair => (readPair pair).outcome) = settings.map .ok ∧
          q = ofSettings (settings.filterMap id) := by
  rw [decode, Recorded.outcome_bind, Recorded.outcome_mapM]
  refine exceptBind_eq_ok_iff.trans ?_
  constructor
  · rintro ⟨settings, hsettings, hq⟩
    cases hq
    exact ⟨settings, mapM_eq_ok_iff.mp hsettings, rfl⟩
  · rintro ⟨settings, hsettings, rfl⟩
    exact ⟨settings, mapM_eq_ok_iff.mpr hsettings, rfl⟩

theorem decode_eq_error_iff {fault : ParamFault} :
    (decode pairs).outcome = .error fault ↔
      ∃ before pair after, pairs = before ++ pair :: after ∧
        (∀ x ∈ before, ∃ y, (readPair x).outcome = .ok y) ∧
          (readPair pair).outcome = .error fault := by
  rw [decode, Recorded.outcome_bind, Recorded.outcome_mapM]
  refine exceptBind_eq_error_iff.trans ?_
  rw [mapM_eq_error_iff]
  constructor
  · rintro (h | ⟨settings, -, h⟩)
    · exact h
    · cases h
  · exact Or.inl

theorem exists_outcome_readPair_iff {name text : String} :
    (∃ x, (readPair (name, text)).outcome = .ok x) ↔
      ∀ p : Param, p.name = name → ∃ v, p.kind.Denotes text v := by
  cases hname : Param.ofName? name with
  | none =>
      rw [outcome_readPair_unknown hname]
      constructor
      · intro _ p hp
        exact absurd hp.symm (Param.name_ne_of_ofName? hname p)
      · intro _
        exact ⟨none, rfl⟩
  | some p =>
      have hp := Param.name_of_ofName? hname
      subst hp
      constructor
      · rintro ⟨x, hx⟩ r hr
        obtain ⟨v, hv, -⟩ := outcome_readPair_eq_ok_iff.mp hx
        rw [Param.name_injective hr]
        exact ⟨v, hv⟩
      · intro h
        obtain ⟨v, hv⟩ := h p rfl
        exact ⟨some (p.setting v), outcome_readPair_eq_ok_iff.mpr ⟨v, hv, rfl⟩⟩

theorem exists_outcome_readPair_forall_iff :
    (∀ x ∈ pairs, ∃ y, (readPair x).outcome = .ok y) ↔
      ∀ (p : Param) (text : String), (p.name, text) ∈ pairs → ∃ v, p.kind.Denotes text v := by
  constructor
  · intro h p text hmem
    exact exists_outcome_readPair_iff.mp (h _ hmem) p rfl
  · rintro h ⟨name, text⟩ hmem
    apply exists_outcome_readPair_iff.mpr
    rintro p rfl
    exact h p text hmem

/-- One parameter's values, one for each of its texts: the induction goes along the pairs, and the
other parameters' settings drop out. -/
theorem forall₂_values (p : Param) {settings : List (Option Setting)}
    (h : pairs.map (fun pair => (readPair pair).outcome) = settings.map .ok) :
    List.Forall₂ p.kind.Denotes (p.texts pairs)
      ((settings.filterMap id).filterMap (Setting.of? p)) := by
  induction pairs generalizing settings with
  | nil =>
      rw [List.map_nil, eq_comm, List.map_eq_nil_iff] at h
      rw [h]
      exact List.Forall₂.nil
  | cons pair pairs ih =>
      obtain ⟨name, text⟩ := pair
      cases settings with
      | nil => simp at h
      | cons x settings =>
          rw [List.map_cons, List.map_cons, List.cons.injEq] at h
          obtain ⟨hx, hrest⟩ := h
          have hvalues := ih hrest
          cases hname : Param.ofName? name with
          | none =>
              rw [outcome_readPair_unknown hname, Except.ok.injEq] at hx
              rw [Param.texts_cons_ne (Param.name_ne_of_ofName? hname p), ← hx]
              exact hvalues
          | some r =>
              have hr := Param.name_of_ofName? hname
              subst hr
              obtain ⟨v, hv, rfl⟩ := outcome_readPair_eq_ok_iff.mp hx
              have hcons : (some (r.setting v) :: settings).filterMap id =
                  r.setting v :: settings.filterMap id := rfl
              rw [hcons]
              by_cases hrp : r = p
              · subst hrp
                rw [Param.texts_cons_self,
                  List.filterMap_cons_some (Setting.of?_setting_self r v)]
                exact List.Forall₂.cons hv hvalues
              · rw [Param.texts_cons_ne fun hn => hrp (Param.name_injective hn),
                  List.filterMap_cons_none (Setting.of?_setting_ne v hrp)]
                exact hvalues

theorem exists_decode_iff :
    (∃ q, (decode pairs).outcome = .ok q) ↔
      ∀ (p : Param) (text : String), (p.name, text) ∈ pairs → ∃ v, p.kind.Denotes text v := by
  rw [← exists_outcome_readPair_forall_iff, ← exists_mapM_eq_ok_iff]
  simp only [decode_eq_ok_iff, mapM_eq_ok_iff]
  constructor
  · rintro ⟨q, settings, hsettings, -⟩
    exact ⟨settings, hsettings⟩
  · rintro ⟨settings, hsettings⟩
    exact ⟨_, settings, hsettings, rfl⟩

variable {q : Query}

theorem values_of_decode (h : (decode pairs).outcome = .ok q) (p : Indexed) :
    List.Forall₂ p.kind.Denotes ((Param.indexed p).texts pairs) (q.values p) := by
  obtain ⟨settings, hsettings, rfl⟩ := decode_eq_ok_iff.mp h
  exact forall₂_values (.indexed p) hsettings

theorem places_of_decode (h : (decode pairs).outcome = .ok q) :
    q.places = Param.places.texts pairs := by
  obtain ⟨settings, hsettings, rfl⟩ := decode_eq_ok_iff.mp h
  have hvalues := forall₂_values .places hsettings
  have heq : List.Forall₂ Eq (Param.places.texts pairs)
      ((settings.filterMap id).filterMap Setting.place?) :=
    hvalues.imp fun _ _ hv => Eq.symm hv
  rw [List.forall₂_eq_eq_eq] at heq
  exact heq.symm

/-- Of the values given for a flag the first one holds. -/
theorem placesOrdered_of_decode (h : (decode pairs).outcome = .ok q) :
    ∃ flags, List.Forall₂ (Kind.Denotes .flag) (Param.placesOrdered.texts pairs) flags ∧
      q.placesOrdered = flags.head? := by
  obtain ⟨settings, hsettings, rfl⟩ := decode_eq_ok_iff.mp h
  exact ⟨_, forall₂_values .placesOrdered hsettings, List.head?_filterMap.symm⟩

theorem batch_of_decode (h : (decode pairs).outcome = .ok q) :
    ∃ flags, List.Forall₂ (Kind.Denotes .flag) (Param.batch.texts pairs) flags ∧
      q.batch = flags.head? := by
  obtain ⟨settings, hsettings, rfl⟩ := decode_eq_ok_iff.mp h
  exact ⟨_, forall₂_values .batch hsettings, List.head?_filterMap.symm⟩

theorem rightUnique_denotes (k : Kind) : Relator.RightUnique k.Denotes :=
  fun _ _ _ => Kind.denotes_unique

/-- Only the texts given for each parameter matter to a query. -/
theorem decode_congr {others : List (String × String)} {a b : Query}
    (h : ∀ p : Param, p.texts others = p.texts pairs) (ha : (decode others).outcome = .ok a)
    (hb : (decode pairs).outcome = .ok b) : a = b := by
  have hflag {texts : List String} {fs gs : List Bool}
      (hf : List.Forall₂ (Kind.Denotes .flag) texts fs)
      (hg : List.Forall₂ (Kind.Denotes .flag) texts gs) : fs = gs :=
    List.right_unique_forall₂' (rightUnique_denotes .flag) hf hg
  apply ext
  · intro p
    have hpa := values_of_decode ha p
    rw [h] at hpa
    exact List.right_unique_forall₂' (rightUnique_denotes p.kind) hpa (values_of_decode hb p)
  · rw [places_of_decode ha, places_of_decode hb, h]
  · obtain ⟨fs, hfs, haf⟩ := placesOrdered_of_decode ha
    obtain ⟨gs, hgs, hbg⟩ := placesOrdered_of_decode hb
    rw [h] at hfs
    rw [haf, hbg, hflag hfs hgs]
  · obtain ⟨fs, hfs, haf⟩ := batch_of_decode ha
    obtain ⟨gs, hgs, hbg⟩ := batch_of_decode hb
    rw [h] at hfs
    rw [haf, hbg, hflag hfs hgs]

theorem exists_decode_congr {others : List (String × String)}
    (h : ∀ p : Param, p.texts others = p.texts pairs) :
    (∃ q, (decode others).outcome = .ok q) ↔ ∃ q, (decode pairs).outcome = .ok q := by
  rw [exists_decode_iff, exists_decode_iff]
  simp only [← Param.mem_texts, h]

/-- The fault of a decoding is that of the first pair whose text stands for nothing. -/
theorem decode_eq_error_iff_first {fault : ParamFault} :
    (decode pairs).outcome = .error fault ↔
      ∃ before p text after, pairs = before ++ (Param.name p, text) :: after ∧
        (∀ (r : Param) (t : String), (r.name, t) ∈ before → ∃ v, r.kind.Denotes t v) ∧
          fault.name = p.name ∧ fault.text = text ∧ p.kind.read text = .error fault.cause := by
  rw [decode_eq_error_iff]
  constructor
  · rintro ⟨before, ⟨name, text⟩, after, rfl, hbefore, hpair⟩
    obtain ⟨p, rfl, hname, htext, hcause⟩ := outcome_readPair_eq_error_iff.mp hpair
    exact ⟨before, p, text, after, rfl, exists_outcome_readPair_forall_iff.mp hbefore, hname,
      htext, hcause⟩
  · rintro ⟨before, p, text, after, rfl, hbefore, hname, htext, hcause⟩
    exact ⟨before, (p.name, text), after, rfl, exists_outcome_readPair_forall_iff.mpr hbefore,
      outcome_readPair_eq_error_iff.mpr ⟨p, rfl, hname, htext, hcause⟩⟩

theorem not_denotes_of_read {k : Kind} {text : String} {cause : ValueCause}
    (h : k.read text = .error cause) : ¬ ∃ v, k.Denotes text v := by
  rintro ⟨v, hv⟩
  rw [Kind.read_eq_ok_iff.mpr hv] at h
  cases h

/-- Decoding, said for each parameter by itself. It succeeds when every text given under a known
name stands for a value; then a query holds the values of each parameter's own texts, in order, and
of a flag the first. It fails with the first pair whose text stands for nothing. Texts given under
other names change nothing, nor does the order among different parameters. -/
theorem decode_by_parameter (pairs : List (String × String)) :
    ((∃ q, (decode pairs).outcome = .ok q) ↔
      ∀ (p : Param) (text : String), (p.name, text) ∈ pairs → ∃ v, p.kind.Denotes text v) ∧
    (∀ q, (decode pairs).outcome = .ok q →
      (∀ p : Indexed,
        List.Forall₂ p.kind.Denotes ((Param.indexed p).texts pairs) (q.values p)) ∧
      q.places = Param.places.texts pairs ∧
      (∃ flags, List.Forall₂ (Kind.Denotes .flag) (Param.placesOrdered.texts pairs) flags ∧
        q.placesOrdered = flags.head?) ∧
      ∃ flags, List.Forall₂ (Kind.Denotes .flag) (Param.batch.texts pairs) flags ∧
        q.batch = flags.head?) ∧
    (∀ fault, (decode pairs).outcome = .error fault ↔
      ∃ before p text after, pairs = before ++ (Param.name p, text) :: after ∧
        (∀ (r : Param) (t : String), (r.name, t) ∈ before → ∃ v, r.kind.Denotes t v) ∧
        (¬ ∃ v, p.kind.Denotes text v) ∧
        fault.name = p.name ∧ fault.text = text ∧ p.kind.read text = .error fault.cause) ∧
    ∀ others, (∀ p : Param, p.texts others = p.texts pairs) →
      (decode others).outcome.toOption = (decode pairs).outcome.toOption := by
  refine ⟨exists_decode_iff, ?_, ?_, ?_⟩
  · intro q hq
    exact ⟨values_of_decode hq, places_of_decode hq, placesOrdered_of_decode hq,
      batch_of_decode hq⟩
  · intro fault
    rw [decode_eq_error_iff_first]
    constructor
    · rintro ⟨before, p, text, after, hpairs, hbefore, hname, htext, hcause⟩
      exact ⟨before, p, text, after, hpairs, hbefore, not_denotes_of_read hcause, hname, htext,
        hcause⟩
    · rintro ⟨before, p, text, after, hpairs, hbefore, -, hname, htext, hcause⟩
      exact ⟨before, p, text, after, hpairs, hbefore, hname, htext, hcause⟩
  · intro others h
    have hiff := exists_decode_congr h
    cases ha : (decode others).outcome with
    | ok a =>
        obtain ⟨b, hb⟩ := hiff.mp ⟨a, ha⟩
        rw [hb, decode_congr h ha hb]
    | error e =>
        cases hb : (decode pairs).outcome with
        | ok b =>
            obtain ⟨a, ha'⟩ := hiff.mpr ⟨b, hb⟩
            rw [ha'] at ha
            cases ha
        | error e' => rfl

end Query

end TripQuery
