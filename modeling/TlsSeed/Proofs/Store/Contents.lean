import Mathlib.Tactic.SplitIfs
import TlsSeed.Store.Shelf

/-! # What a store holds

Contents are the items under each table and hostname. A put that is applied replaces those under its
own and leaves all others. The store in memory does this with every put that it understands.
-/

namespace TlsSeed.Store

open Item

/-- The items under each table and hostname. -/
abbrev Contents := String → String → List Entries

namespace Contents

/-- There is at most one item under a table and a hostname. -/
def IsKeyed (k : Contents) : Prop :=
  ∀ table hostname, (k table hostname).length ≤ 1

/-- The contents with the item of a put in place of those under its table and hostname. -/
def replace (k : Contents) (p : Put) : Contents := fun table hostname =>
  if p.table = table ∧ hostnameOf? p.item = some hostname then [p.item] else k table hostname

variable {k : Contents} {p : Put} {table hostname : String}

theorem replace_self (h : hostnameOf? p.item = some hostname) :
    k.replace p p.table hostname = [p.item] :=
  if_pos ⟨rfl, h⟩

theorem replace_of_ne (h : ¬ (p.table = table ∧ hostnameOf? p.item = some hostname)) :
    k.replace p table hostname = k table hostname :=
  if_neg h

theorem mem_replace {item : Entries} (h : item ∈ k.replace p table hostname) :
    (p.table = table ∧ hostnameOf? p.item = some hostname ∧ p.item = item) ∨
      item ∈ k table hostname := by
  unfold Contents.replace at h
  split at h
  · next hp => exact .inl ⟨hp.1, hp.2, (List.mem_singleton.mp h).symm⟩
  · exact .inr h

theorem IsKeyed.replace (hk : k.IsKeyed) (p : Put) : (k.replace p).IsKeyed := by
  intro table hostname
  unfold Contents.replace
  split
  · simp
  · exact hk table hostname

end Contents

theorem Put.isOk_request_congr {p q : Put} (h : p.table = q.table) (c : Client) :
    (p.request c).isOk = (q.request c).isOk := by
  unfold Put.request
  rw [h]
  cases Route.to c.endpointUrl with
  | error fault => rfl
  | ok route =>
    dsimp only
    split_ifs <;> rfl

theorem put_of_request {c : Client} {p : Put} {r : Request} (h : p.request c = .ok r) :
    r.put = p := by
  unfold Put.request at h
  grind

namespace Shelf

/-- What a store in memory holds. -/
def contents (s : Shelf) : Contents := fun table hostname =>
  (s.items.filter (isAt table hostname)).map (·.item)

theorem isAt_iff {table hostname : String} {x : Stored} :
    isAt table hostname x = true ↔ x.table = table ∧ x.hostname = hostname := by
  simp [isAt]

theorem contents_insert (s : Shelf) (p : Put) {hostname : String}
    (h : hostnameOf? p.item = some hostname) :
    (s.insert p.table hostname p.item).contents = s.contents.replace p := by
  funext table name
  by_cases hn : p.table = table ∧ hostname = name
  · obtain ⟨rfl, rfl⟩ := hn
    rw [Contents.replace_self h]
    simp [contents, insert, isAt, List.filter_filter]
  · rw [Contents.replace_of_ne (by rwa [h, Option.some.injEq])]
    have hx : ∀ x ∈ s.items, (isAt table name x && !isAt p.table hostname x) =
        isAt table name x := by
      intro x _
      by_cases hx : isAt table name x = true
      · have hne : ¬ isAt p.table hostname x = true := by
          rw [isAt_iff] at hx ⊢
          rintro ⟨ht, hh⟩
          exact hn ⟨ht.symm.trans hx.1, hh.symm.trans hx.2⟩
        simp [hx, hne]
      · simp [hx]
    have hf : isAt table name ⟨p.table, hostname, p.item⟩ = false := by
      rw [← Bool.not_eq_true, isAt_iff]
      exact hn
    simp [contents, insert, List.filter_filter, List.filter_congr hx, hf]

/-- The put becomes a request, and one that a store in memory understands. -/
def Takes (c : Client) (p : Put) : Prop :=
  (p.request c).isOk ∧ p.condition = none ∧ ∃ hostname, hostnameOf? p.item = some hostname

variable {s : Shelf} {c : Client} {p : Put}

theorem isOk_request_iff : (p.request c).isOk ↔ ∃ r, p.request c = .ok r := by
  cases p.request c <;> simp [Except.isOk, Except.toBool]

theorem put_eq_error {e : SendError} (h : p.request c = .error e) : s.put c p = (.error e, s) := by
  simp [put, h]

theorem put_eq_apply {r : Request} (h : p.request c = .ok r) (hs : s.replies = []) :
    s.put c p = (({ s with received := s.received ++ [r] } : Shelf).apply p).map
      Reply.outcome id := by
  simp [put, h, receive, hs, put_of_request h, Prod.map]

theorem replies_apply (s : Shelf) (p : Put) : (s.apply p).2.replies = s.replies := by
  unfold apply
  split <;> rfl

/-- A store in memory that has no reply to give first applies the puts that it takes. -/
theorem contents_put_of_takes (hs : s.replies = []) (h : Takes c p) :
    (s.put c p).2.contents = s.contents.replace p := by
  obtain ⟨ho, hc, hostname, hh⟩ := h
  obtain ⟨r, hr⟩ := isOk_request_iff.mp ho
  rw [put_eq_apply hr hs]
  simp only [apply, hc, hh, Prod.map_snd, id_eq]
  exact contents_insert _ p hh

theorem outcome_respond_empty : (respond 200 (Json.objectOf [])).outcome = .ok {} := by
  rfl

/-- It tells nothing when it acknowledges a put that asks for nothing. -/
theorem put_fst_of_takes (hs : s.replies = []) (h : Takes c p) (hr : p.returnOld = false) :
    (s.put c p).1 = .ok {} := by
  obtain ⟨ho, hc, hostname, hh⟩ := h
  obtain ⟨r, hq⟩ := isOk_request_iff.mp ho
  rw [put_eq_apply hq hs]
  simp only [apply, hc, hh, hr, Prod.map_fst]
  exact outcome_respond_empty

/-- It drops the others with an error. -/
theorem put_of_not_takes (hs : s.replies = []) (h : ¬ Takes c p) :
    (∃ e, (s.put c p).1 = .error e) ∧ (s.put c p).2.contents = s.contents := by
  cases hr : p.request c with
  | error e => exact ⟨⟨e, by rw [put_eq_error hr]⟩, by rw [put_eq_error hr]⟩
  | ok r =>
    rw [put_eq_apply hr hs]
    unfold apply
    split
    · next hc hh => exact absurd ⟨isOk_request_iff.mpr ⟨r, hr⟩, hc, _, hh⟩ h
    · exact ⟨⟨_, rfl⟩, rfl⟩

theorem replies_put (hs : s.replies = []) (c : Client) (p : Put) : (s.put c p).2.replies = [] := by
  cases hr : p.request c with
  | error e => rwa [put_eq_error hr]
  | ok r => rwa [put_eq_apply hr hs, Prod.map_snd, id_eq, replies_apply]

end Shelf

end TlsSeed.Store
