import TripQuery.Proofs.ModeText
import TripQuery.Proofs.Query.Decoding

namespace TripQuery

/-!
# Queries in another spelling

A text that is read for a value may have blanks around it, and flags, criteria and modes may be
written in either case. A text that is kept as it is has no other spelling. Between two queries that
differ in spelling only, the blanks around dates, times and routes are all that is left of it.
-/

/-- The second text is the first one with blanks around it. -/
def Padded (s t : String) : Prop :=
  ∃ before after, before.all isBlank = true ∧ after.all isBlank = true ∧
    t.toList = before ++ (s.toList ++ after)

theorem Padded.trim_eq {s t : String} (h : Padded s t) : trim t.toList = trim s.toList := by
  obtain ⟨before, after, hbefore, hafter, ht⟩ := h
  rw [ht, trim_blank_append hbefore, trim_append_blank hafter]

/-- Values related by what their texts are related by. -/
theorem forall₂_of_forall₂ {α β γ δ : Type} {R : α → β → Prop} {F : α → γ → Prop}
    {G : β → δ → Prop} {S : γ → δ → Prop}
    (h : ∀ a b c d, R a b → F a c → G b d → S c d) {as : List α} {bs : List β} {cs : List γ}
    {ds : List δ} (hr : List.Forall₂ R as bs) (hf : List.Forall₂ F as cs)
    (hg : List.Forall₂ G bs ds) : List.Forall₂ S cs ds := by
  induction hr generalizing cs ds with
  | nil =>
      cases hf
      cases hg
      exact .nil
  | cons hab _ ih =>
      cases hf with
      | cons hac hf =>
          cases hg with
          | cons hbd hg => exact .cons (h _ _ _ _ hab hac hbd) (ih hf hg)

namespace Kind

variable {k : Kind} {s t : String}

/-- Whether values may be written in upper case or in lower case. -/
def isCaseless : Kind → Bool
  | flag | criterion | modes => true
  | text | real | count => false

/-- The second text spells what the first one does: letters may be in the other case, where values
are written in either, and there may be blanks around it. -/
def Respells (k : Kind) (s t : String) : Prop :=
  ∃ u, (u = s ∨ k.isCaseless = true ∧ u.toList.map Char.toUpper = s.toList.map Char.toUpper) ∧
    Padded u t

theorem Respells.trim_eq (h : k.Respells s t) (hk : k.isCaseless = false) :
    trim t.toList = trim s.toList := by
  obtain ⟨u, rfl | ⟨hcase, -⟩, hpadded⟩ := h
  · exact hpadded.trim_eq
  · rw [hk] at hcase
    cases hcase

theorem Respells.map_toUpper_trim (h : k.Respells s t) :
    (trim t.toList).map Char.toUpper = (trim s.toList).map Char.toUpper := by
  obtain ⟨u, hu, hpadded⟩ := h
  rw [hpadded.trim_eq]
  rcases hu with rfl | ⟨-, hupper⟩
  · rfl
  · rw [← trim_map_toUpper, hupper, trim_map_toUpper]

theorem map_toLower_of_map_toUpper {cs ds : List Char}
    (h : cs.map Char.toUpper = ds.map Char.toUpper) :
    cs.map Char.toLower = ds.map Char.toLower := by
  have hlower (cs : List Char) : (cs.map Char.toUpper).map Char.toLower = cs.map Char.toLower := by
    rw [List.map_map]
    exact List.map_congr_left fun c _ => Char.toLower_toUpper_eq_toLower c
  rw [← hlower, h, hlower]

/-- What is not a text has the same value in every spelling. -/
theorem denotes_congr (h : k.Respells s t) (hk : k ≠ .text) {v : k.Value} :
    k.Denotes t v ↔ k.Denotes s v := by
  cases k with
  | text => exact absurd rfl hk
  | flag => rw [Denotes, Denotes, map_toLower_of_map_toUpper h.map_toUpper_trim]
  | real => rw [Denotes, Denotes, h.trim_eq rfl]
  | count => rw [Denotes, Denotes, h.trim_eq rfl]
  | criterion => rw [Denotes, Denotes, h.map_toUpper_trim]
  | modes =>
      apply ModeSet.read_congr
      rw [toList_trimmed, toList_trimmed, h.map_toUpper_trim]

/-- Of texts, the blanks around them may differ; other values are the same. -/
def Alike : (k : Kind) → k.Value → k.Value → Prop
  | .text, s, t => SameTrimmed s t
  | _, v, w => v = w

theorem eq_of_alike (hk : k ≠ .text) {v w : k.Value} (h : k.Alike v w) : v = w := by
  cases k with
  | text => exact absurd rfl hk
  | _ => exact h

theorem alike_of_denotes (h : k.Respells s t) {v w : k.Value} (hv : k.Denotes s v)
    (hw : k.Denotes t w) : k.Alike v w := by
  by_cases hk : k = .text
  · subst hk
    rw [hv, hw]
    exact (h.trim_eq rfl).symm
  · obtain rfl := denotes_unique hv ((denotes_congr h hk).mp hw)
    cases k <;> rfl

theorem exists_denotes_congr (h : k.Respells s t) :
    (∃ v, k.Denotes t v) ↔ ∃ v, k.Denotes s v := by
  by_cases hk : k = .text
  · subst hk
    exact iff_of_true ⟨t, rfl⟩ ⟨s, rfl⟩
  · simp only [denotes_congr h hk]

end Kind

namespace Param

variable {p : Param} {s t : String}

/-- Whether texts are kept as they are, with the blanks around them. -/
def isVerbatim : Param → Bool
  | indexed .routerId | indexed .fromPlace | indexed .toPlace | places => true
  | _ => false

def Respells (p : Param) (s t : String) : Prop :=
  if p.isVerbatim then t = s else p.kind.Respells s t

def Alike (p : Param) (v w : p.kind.Value) : Prop :=
  if p.isVerbatim then v = w else p.kind.Alike v w

theorem exists_denotes_congr (h : p.Respells s t) :
    (∃ v, p.kind.Denotes t v) ↔ ∃ v, p.kind.Denotes s v := by
  unfold Respells at h
  split at h
  · rw [h]
  · exact Kind.exists_denotes_congr h

theorem alike_of_denotes (h : p.Respells s t) {v w : p.kind.Value} (hv : p.kind.Denotes s v)
    (hw : p.kind.Denotes t w) : p.Alike v w := by
  unfold Respells at h
  unfold Alike
  split at h
  · next hverbatim =>
      rw [if_pos hverbatim]
      subst h
      exact Kind.denotes_unique hv hw
  · next hverbatim =>
      rw [if_neg hverbatim]
      exact Kind.alike_of_denotes h hv hw

theorem eq_of_alike (hp : p.isVerbatim = true ∨ p.kind ≠ .text) {v w : p.kind.Value}
    (h : p.Alike v w) : v = w := by
  unfold Alike at h
  split at h
  · exact h
  · next hverbatim => exact Kind.eq_of_alike (hp.resolve_left hverbatim) h

theorem forall₂_alike (p : Param) {texts others : List String} {vs ws : List p.kind.Value}
    (h : List.Forall₂ p.Respells texts others) (hv : List.Forall₂ p.kind.Denotes texts vs)
    (hw : List.Forall₂ p.kind.Denotes others ws) : List.Forall₂ p.Alike vs ws := by
  refine forall₂_of_forall₂ ?_ h hv hw
  intro s t v w htext hs ht
  exact alike_of_denotes htext hs ht

end Param

/-- One pair in place of another: its name is the same, and so is what its text spells if the name
is that of a parameter. Under any other name the text may be another one altogether. -/
def Respelled (a b : String × String) : Prop :=
  b.1 = a.1 ∧ ∀ p : Param, p.name = a.1 → p.Respells a.2 b.2

theorem respelled_of_name {p : Param} {s t : String} (h : p.Respells s t) :
    Respelled (p.name, s) (p.name, t) :=
  ⟨rfl, fun _ hp => Param.name_injective hp ▸ h⟩

namespace Query

variable {pairs others : List (String × String)}

theorem exists_decode_of_respelled (h : List.Forall₂ Respelled pairs others) :
    (∃ q, (decode pairs).outcome = .ok q) ↔ ∃ r, (decode others).outcome = .ok r := by
  rw [exists_decode_iff, exists_decode_iff]
  constructor
  · intro hpairs p text hmem
    obtain ⟨⟨name, s⟩, hs, hname, htext⟩ := exists_of_mem_forall₂ h hmem
    obtain rfl : p.name = name := hname
    exact (Param.exists_denotes_congr (htext p rfl)).mpr (hpairs p s hs)
  · intro hothers p text hmem
    obtain ⟨⟨name, t⟩, ht, hname, htext⟩ := exists_of_mem_forall₂ h.flip hmem
    obtain rfl : name = p.name := hname
    exact (Param.exists_denotes_congr (htext p rfl)).mp (hothers p t ht)

theorem forall₂_texts (h : List.Forall₂ Respelled pairs others) (p : Param) :
    List.Forall₂ p.Respells (p.texts pairs) (p.texts others) := by
  induction h with
  | nil => exact .nil
  | @cons a b _ _ hab _ ih =>
      obtain ⟨name, s⟩ := a
      obtain ⟨name', t⟩ := b
      obtain ⟨rfl, htext⟩ : name' = name ∧ _ := hab
      by_cases hname : name' = p.name
      · subst hname
        rw [Param.texts_cons_self, Param.texts_cons_self]
        exact .cons (htext p rfl) ih
      · rw [Param.texts_cons_ne hname, Param.texts_cons_ne hname]
        exact ih

end Query

/-- Two queries differ in the spelling of texts only. -/
structure Query.Alike (q r : Query) : Prop where
  values : ∀ p, List.Forall₂ (Param.indexed p).Alike (q.values p) (r.values p)
  places : q.places = r.places
  placesOrdered : q.placesOrdered = r.placesOrdered
  batch : q.batch = r.batch

namespace Query

variable {pairs others : List (String × String)} {q r : Query}

theorem alike_of_respelled (h : List.Forall₂ Respelled pairs others)
    (hq : (decode pairs).outcome = .ok q) (hr : (decode others).outcome = .ok r) : q.Alike r where
  values p :=
    Param.forall₂_alike (.indexed p) (forall₂_texts h (.indexed p)) (values_of_decode hq p)
      (values_of_decode hr p)
  places := by
    rw [places_of_decode hq, places_of_decode hr]
    have heq : List.Forall₂ Eq (Param.places.texts pairs) (Param.places.texts others) :=
      (forall₂_texts h .places).imp fun _ _ ht => Eq.symm ht
    rwa [List.forall₂_eq_eq_eq] at heq
  placesOrdered := by
    obtain ⟨fs, hfs, hqf⟩ := placesOrdered_of_decode hq
    obtain ⟨gs, hgs, hrg⟩ := placesOrdered_of_decode hr
    have heq : List.Forall₂ Eq fs gs :=
      Param.forall₂_alike .placesOrdered (forall₂_texts h .placesOrdered) hfs hgs
    rw [List.forall₂_eq_eq_eq] at heq
    rw [hqf, hrg, heq]
  batch := by
    obtain ⟨fs, hfs, hqf⟩ := batch_of_decode hq
    obtain ⟨gs, hgs, hrg⟩ := batch_of_decode hr
    have heq : List.Forall₂ Eq fs gs := Param.forall₂_alike .batch (forall₂_texts h .batch) hfs hgs
    rw [List.forall₂_eq_eq_eq] at heq
    rw [hqf, hrg, heq]

end Query

end TripQuery
