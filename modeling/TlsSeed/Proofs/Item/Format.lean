import Mathlib.Data.List.Nodup
import TlsSeed.Proofs.Item.Record
import TlsSeed.Proofs.Seed

/-! # The format of records

Reading an item gives a record exactly if the item has the three texts of the record and nothing
else in it is refused at any depth. Writing a record always succeeds, and it is read back as it was.
-/

namespace TlsSeed.Item

open Number

variable {m : Entries} {r : Record}

section

variable {α β ε : Type} {x : Except ε α}

theorem map_eq_ok_iff {f : α → β} {b : β} : x.map f = .ok b ↔ ∃ a, x = .ok a ∧ f a = b := by
  cases x <;> simp [Except.map]

theorem bind_eq_ok_iff {f : α → Except ε β} {b : β} :
    x >>= f = .ok b ↔ ∃ a, x = .ok a ∧ f a = .ok b := by
  cases x <;> simp [bind, Except.bind]

theorem map_eq_error_iff {f : α → β} {e : ε} : x.map f = .error e ↔ x = .error e := by
  cases x <;> simp [Except.map]

theorem bind_eq_error_iff {f : α → Except ε β} {e : ε} :
    x >>= f = .error e ↔ x = .error e ∨ ∃ a, x = .ok a ∧ f a = .error e := by
  cases x <;> simp [bind, Except.bind]

theorem forM_eq_ok_iff {f : α → Except ε Unit} {xs : List α} :
    xs.forM f = .ok () ↔ ∀ x ∈ xs, f x = .ok () := by
  induction xs with
  | nil => simp [pure, Except.pure]
  | cons x xs ih =>
    rw [List.forall_mem_cons, ← ih, List.forM_eq_forM, List.forM_cons, bind_eq_ok_iff]
    exact ⟨fun ⟨_, h, hs⟩ => ⟨h, hs⟩, fun ⟨h, hs⟩ => ⟨(), h, hs⟩⟩

end

/-! ## What is left aside -/

namespace Attribute

/-- A value occurs in another: it is that value, or occurs in an element of a list or in a value of
a map. -/
inductive Within (x : Attribute) : Attribute → Prop
  | self : Within x x
  | list {v : Attribute} {vs : List Attribute} (hm : v ∈ vs) (h : Within x v) : Within x (.list vs)
  | map {e : String × Attribute} {es : Entries} (hm : e ∈ es) (h : Within x e.2) :
      Within x (.map es)

/-- A value that is refused for itself: what should be a number and is not spelled as one, alone or
in a set, and a null that says false. -/
inductive Refused : Attribute → Prop
  | number {s : String} (h : Numeral.read? s.toList = none) : Refused (.number s)
  | numbers {ss : List String} {s : String} (hm : s ∈ ss) (h : Numeral.read? s.toList = none) :
      Refused (.numbers ss)
  | null : Refused (.null false)

/-- Nothing in the value is refused. -/
def Sound (v : Attribute) : Prop :=
  ∀ x, Within x v → ¬ Refused x

theorem sound_list {vs : List Attribute} : Sound (.list vs) ↔ ∀ v ∈ vs, v.Sound := by
  constructor
  · intro h v hm x hx
    exact h x (.list hm hx)
  · intro h x hx
    cases hx with
    | self => nofun
    | list hm hx => exact h _ hm x hx

theorem sound_map {es : Entries} : Sound (.map es) ↔ ∀ e ∈ es, e.2.Sound := by
  constructor
  · intro h e hm x hx
    exact h x (.map hm hx)
  · intro h x hx
    cases hx with
    | self => nofun
    | map hm hx => exact h _ hm x hx

theorem sound_leaf (v : Attribute) (hl : ∀ vs, v ≠ .list vs) (hm : ∀ es, v ≠ .map es) :
    v.Sound ↔ ¬ v.Refused := by
  constructor
  · intro h
    exact h v .self
  · intro h x hx
    cases hx with
    | self => exact h
    | list => exact absurd rfl (hl _)
    | map => exact absurd rfl (hm _)

theorem checkNumeral_eq_ok_iff {s : String} :
    checkNumeral s = .ok () ↔ Numeral.read? s.toList ≠ none := by
  unfold checkNumeral
  cases Numeral.read? s.toList <;> simp

theorem checkAll_eq (vs : List Attribute) : checkAll vs = vs.forM check := by
  induction vs with
  | nil => rfl
  | cons v vs ih => rw [checkAll, ih]; rfl

theorem checkEntries_eq (es : Entries) : checkEntries es = es.forM fun e => e.2.check := by
  induction es with
  | nil => rfl
  | cons e es ih => rw [checkEntries, ih]; rfl

/-- The walk over a value that is left aside finds what is refused at any depth. -/
theorem check_eq_ok_iff (v : Attribute) : v.check = .ok () ↔ v.Sound := by
  -- Lists and maps are sound by what is in them. In all other values there is nothing to walk into.
  match v with
  | .list vs =>
    rw [check, checkAll_eq, forM_eq_ok_iff, sound_list]
    exact forall₂_congr fun v _ => check_eq_ok_iff v
  | .map es =>
    rw [check, checkEntries_eq, forM_eq_ok_iff, sound_map]
    exact forall₂_congr fun e _ => check_eq_ok_iff e.2
  | .number s =>
    rw [check, checkNumeral_eq_ok_iff, sound_leaf (.number s) nofun nofun]
    exact not_congr ⟨.number, fun | .number h => h⟩
  | .numbers ss =>
    rw [check, forM_eq_ok_iff, sound_leaf (.numbers ss) nofun nofun]
    simp only [checkNumeral_eq_ok_iff]
    constructor
    · rintro h ⟨⟩
      exact h _ ‹_› ‹_›
    · intro h s hm hs
      exact h (.numbers hm hs)
  | .null b =>
    rw [sound_leaf (.null b) nofun nofun]
    cases b with
    | false => exact iff_of_false nofun (not_not_intro .null)
    | true => exact iff_of_true rfl nofun
  | .string _ | .binary _ | .bool _ | .strings _ | .binaries _ | .unknown =>
    refine iff_of_true rfl ((sound_leaf _ ?_ ?_).mpr ?_) <;> nofun
termination_by sizeOf v
decreasing_by
  · have := List.sizeOf_lt_of_mem ‹v ∈ vs›
    rw [list.sizeOf_spec]
    omega
  · have := List.sizeOf_lt_of_mem ‹e ∈ es›
    cases e
    simp only [map.sizeOf_spec, Prod.mk.sizeOf_spec] at *
    omega

theorem text_eq_ok_iff {v : Attribute} {s : String} : v.text = .ok s ↔ v = .string s := by
  cases v <;> simp [text]

end Attribute

/-! ## Names -/

namespace Field

/-- The names of the attributes of a record. -/
def names : List String :=
  all.map name

theorem mem_names {s : String} : s ∈ names ↔ ∃ f, name f = s := by
  constructor
  · intro h
    obtain ⟨f, -, hf⟩ := List.mem_map.mp h
    exact ⟨f, hf⟩
  · rintro ⟨f, rfl⟩
    exact List.mem_map_of_mem (by cases f <;> decide)

theorem name_injective : Function.Injective name := by
  intro f g h
  cases f <;> cases g <;> first | rfl | exact absurd h (by decide)

theorem ofName?_name (f : Field) : ofName? f.name = some f := by
  cases f <;> decide

theorem ofName?_eq_none {s : String} (h : s ∉ names) : ofName? s = none := by
  rw [ofName?, List.find?_eq_none]
  intro f _ hf
  exact h (mem_names.mpr ⟨f, by simpa using hf⟩)

end Field

/-- An entry is one that an item of a record may have: a text under the name of an attribute, or
under another name a value in which nothing is refused. -/
def Fits (e : String × Attribute) : Prop :=
  (∃ f s, e = (Field.name f, .string s)) ∨ e.1 ∉ Field.names ∧ e.2.Sound

namespace Draft

variable {d d' : Draft} {e : String × Attribute} {f g : Field} {s : String}

/-- What the draft knows of an attribute. -/
def get (d : Draft) : Field → Option String
  | .hostname => d.hostname
  | .cert => d.cert
  | .key => d.key

theorem get_set : (d.set s f).get g = if g = f then some s else d.get g := by
  cases f <;> cases g <;> rfl

theorem finish_eq_ok_iff : d.finish = .ok r ↔ ∀ f, d.get f = some (r.get f) := by
  have hf : (∀ f, d.get f = some (r.get f)) ↔
      d.hostname = some r.hostname ∧ d.cert = some r.cert ∧ d.key = some r.key :=
    ⟨fun h => ⟨h .hostname, h .cert, h .key⟩, fun ⟨h₁, h₂, h₃⟩ f => by cases f <;> assumption⟩
  rw [hf]
  obtain ⟨hostname, cert, key⟩ := d
  obtain ⟨h, c, k⟩ := r
  cases hostname <;> cases cert <;> cases key <;> simp [finish]

theorem add_eq_ok_iff : d.add e = .ok d' ↔
    (∃ f s, e = (Field.name f, .string s) ∧ d' = d.set s f) ∨
      e.1 ∉ Field.names ∧ e.2.Sound ∧ d' = d := by
  obtain ⟨name, v⟩ := e
  rw [add]
  by_cases hn : name ∈ Field.names
  · obtain ⟨f, rfl⟩ := Field.mem_names.mp hn
    simp only [Field.ofName?_name, map_eq_ok_iff, Attribute.text_eq_ok_iff]
    constructor
    · rintro ⟨s, rfl, rfl⟩
      exact .inl ⟨f, s, rfl, rfl⟩
    · rintro (⟨g, s, he, rfl⟩ | ⟨hf, -⟩)
      · obtain ⟨hg, rfl⟩ := Prod.mk.inj he
        exact ⟨s, rfl, by rw [Field.name_injective hg]⟩
      · exact absurd hn hf
  · simp only [Field.ofName?_eq_none hn, map_eq_ok_iff, ← Attribute.check_eq_ok_iff]
    constructor
    · rintro ⟨⟨⟩, hv, rfl⟩
      exact .inr ⟨hn, hv, rfl⟩
    · rintro (⟨f, s, he, -⟩ | ⟨-, hv, rfl⟩)
      · exact absurd (Field.mem_names.mpr ⟨f, (Prod.mk.inj he).1.symm⟩) hn
      · exact ⟨(), hv, rfl⟩

theorem exists_add_iff : (∃ d', d.add e = .ok d') ↔ Fits e := by
  simp only [add_eq_ok_iff, Fits]
  grind

theorem exists_foldlM_iff : (∃ d', m.foldlM add d = .ok d') ↔ ∀ e ∈ m, Fits e := by
  induction m generalizing d with
  | nil => simp [pure, Except.pure]
  | cons e m ih =>
    simp only [List.foldlM_cons, bind_eq_ok_iff, List.forall_mem_cons]
    constructor
    · rintro ⟨d', d₁, h₁, h⟩
      exact ⟨exists_add_iff.mp ⟨d₁, h₁⟩, ih.mp ⟨d', h⟩⟩
    · rintro ⟨he, hm⟩
      obtain ⟨d₁, h₁⟩ := exists_add_iff.mpr he
      obtain ⟨d', h⟩ := ih.mpr hm
      exact ⟨d', d₁, h₁, h⟩

theorem get_of_add (h : d.add e = .ok d') (hf : e.1 ≠ Field.name f) : d'.get f = d.get f := by
  rcases add_eq_ok_iff.mp h with ⟨g, s, rfl, rfl⟩ | ⟨-, -, rfl⟩
  · rw [get_set, if_neg]
    rintro rfl
    exact hf rfl
  · rfl

theorem get_of_foldlM (h : m.foldlM add d = .ok d') (hf : f.name ∉ m.map Prod.fst) :
    d'.get f = d.get f := by
  induction m generalizing d with
  | nil => rw [Except.ok.inj h]
  | cons e m ih =>
    rw [List.map_cons, List.mem_cons, not_or] at hf
    rw [List.foldlM_cons, bind_eq_ok_iff] at h
    obtain ⟨d₁, h₁, h⟩ := h
    rw [ih h hf.2, get_of_add h₁ (Ne.symm hf.1)]

theorem get_of_mem (hm : (m.map Prod.fst).Nodup) (h : m.foldlM add d = .ok d')
    (hs : (f.name, .string s) ∈ m) : d'.get f = some s := by
  induction m generalizing d with
  | nil => simp at hs
  | cons e m ih =>
    rw [List.map_cons, List.nodup_cons] at hm
    rw [List.foldlM_cons, bind_eq_ok_iff] at h
    obtain ⟨d₁, h₁, h⟩ := h
    rcases List.mem_cons.mp hs with rfl | hs
    · -- No later entry has this name, so what is known now stays.
      rw [get_of_foldlM h hm.1]
      rcases add_eq_ok_iff.mp h₁ with ⟨g, t, he, rfl⟩ | ⟨hf, -⟩
      · obtain ⟨hg, ht⟩ := Prod.mk.inj he
        rw [get_set, if_pos (Field.name_injective hg), Attribute.string.inj ht]
      · exact absurd (Field.mem_names.mpr ⟨f, rfl⟩) hf
    · exact ih hm.2 h hs

end Draft

/-! ## Items -/

namespace Entries

/-- The names differ from each other, as they do in every item. -/
def IsMap (m : Entries) : Prop :=
  (m.map Prod.fst).Nodup

/-- The entries under the names of the attributes of a record. -/
def restrict (m : Entries) : Entries :=
  m.filter fun e => Field.names.contains e.1

theorem IsMap.eq_of_mem (hm : m.IsMap) {e e' : String × Attribute} (he : e ∈ m) (he' : e' ∈ m)
    (h : e.1 = e'.1) : e = e' :=
  List.inj_on_of_nodup_map hm he he' h

theorem mem_restrict {e : String × Attribute} : e ∈ m.restrict ↔ e ∈ m ∧ e.1 ∈ Field.names := by
  simp [restrict]

end Entries

namespace Record

theorem mem_toItem {e : String × Attribute} :
    e ∈ r.toItem ↔ ∃ f, e = (Field.name f, .string (r.get f)) := by
  constructor
  · intro h
    obtain ⟨f, -, hf⟩ := List.mem_map.mp h
    exact ⟨f, hf.symm⟩
  · rintro ⟨f, rfl⟩
    exact List.mem_map_of_mem (by cases f <;> decide)

theorem isMap_toItem (r : Record) : r.toItem.IsMap :=
  (by decide : Field.names.Nodup)

theorem restrict_perm_iff (hm : m.IsMap) :
    m.restrict.Perm r.toItem ↔ ∀ f : Field, (f.name, .string (r.get f)) ∈ m := by
  constructor
  · intro h f
    exact (Entries.mem_restrict.mp (h.mem_iff.mpr (mem_toItem.mpr ⟨f, rfl⟩))).1
  · intro h
    have hd : m.restrict.Nodup := (List.Nodup.of_map _ hm).filter _
    refine (List.perm_ext_iff_of_nodup hd (List.Nodup.of_map _ (isMap_toItem r))).mpr fun e => ?_
    rw [Entries.mem_restrict, mem_toItem]
    constructor
    · rintro ⟨he, hn⟩
      obtain ⟨f, hf⟩ := Field.mem_names.mp hn
      exact ⟨f, hm.eq_of_mem he (h f) hf.symm⟩
    · rintro ⟨f, rfl⟩
      exact ⟨h f, Field.mem_names.mpr ⟨f, rfl⟩⟩

theorem mem_of_get {d : Draft} {f : Field} {s : String} (hm : m.IsMap)
    (hd : m.foldlM Draft.add {} = .ok d) (h : d.get f = some s) : (f.name, .string s) ∈ m := by
  by_cases hn : f.name ∈ m.map Prod.fst
  · obtain ⟨e, he, hf⟩ := List.mem_map.mp hn
    rcases Draft.exists_foldlM_iff.mp ⟨d, hd⟩ e he with ⟨g, t, rfl⟩ | ⟨hg, -⟩
    · obtain rfl : g = f := Field.name_injective hf
      rw [Draft.get_of_mem hm hd he] at h
      rwa [← Option.some.inj h]
    · exact absurd (Field.mem_names.mpr ⟨f, hf.symm⟩) hg
  · -- Without an entry of this name the draft would know nothing, as it did in the beginning.
    rw [Draft.get_of_foldlM hd hn] at h
    cases f <;> exact nomatch h

theorem ofItem_eq_ok_iff (hm : m.IsMap) :
    ofItem m = .ok r ↔ m.restrict.Perm r.toItem ∧ ∀ e ∈ m, e.1 ∉ Field.names → e.2.Sound := by
  rw [restrict_perm_iff hm, ofItem, bind_eq_ok_iff]
  simp only [Draft.finish_eq_ok_iff]
  constructor
  · rintro ⟨d, hd, hr⟩
    refine ⟨fun f => mem_of_get hm hd (hr f), fun e he hn => ?_⟩
    rcases Draft.exists_foldlM_iff.mp ⟨d, hd⟩ e he with ⟨f, s, rfl⟩ | ⟨-, hs⟩
    · exact absurd (Field.mem_names.mpr ⟨f, rfl⟩) hn
    · exact hs
  · rintro ⟨hr, hs⟩
    have hf : ∀ e ∈ m, Fits e := by
      intro e he
      by_cases hn : e.1 ∈ Field.names
      · obtain ⟨f, hf⟩ := Field.mem_names.mp hn
        exact .inl ⟨f, _, hm.eq_of_mem he (hr f) hf.symm⟩
      · exact .inr ⟨hn, hs e he hn⟩
    obtain ⟨d, hd⟩ := Draft.exists_foldlM_iff.mpr hf
    exact ⟨d, hd, fun f => Draft.get_of_mem hm hd (hr f)⟩

/-! ## Lists -/

theorem mapM_text_eq_ok_iff {vs : List Attribute} {ss : List String} :
    vs.mapM Attribute.text = .ok ss ↔ vs = ss.map .string := by
  induction vs generalizing ss with
  | nil => simp [pure, Except.pure, eq_comm]
  | cons v vs ih =>
    simp only [List.mapM_cons, bind_eq_ok_iff, Attribute.text_eq_ok_iff, ih, pure, Except.pure,
      Except.ok.injEq]
    constructor
    · rintro ⟨s, rfl, ss, rfl, rfl⟩
      rfl
    · intro h
      obtain ⟨s, ss, rfl, rfl, rfl⟩ := List.map_eq_cons_iff.mp h.symm
      exact ⟨s, rfl, ss, rfl, rfl⟩

theorem ofList_eq_ok_iff {vs : List Attribute} : ofList vs = .ok r ↔
    ∃ rest, vs = .string r.hostname :: .string r.cert :: .string r.key :: rest := by
  rw [ofList, bind_eq_ok_iff]
  simp only [mapM_text_eq_ok_iff]
  constructor
  · rintro ⟨ss, ht, h⟩
    split at h
    · obtain rfl := Except.ok.inj h
      exact ⟨vs.drop 3, by rw [← List.take_append_drop 3 vs, ht]; rfl⟩
    · exact nomatch h
  · rintro ⟨rest, rfl⟩
    exact ⟨[r.hostname, r.cert, r.key], rfl, rfl⟩

theorem ofAttribute_eq_ok_iff {v : Attribute} : ofAttribute v = .ok r ↔
    (∃ m, v = .map m ∧ ofItem m = .ok r) ∨
      ∃ rest, v = .list (.string r.hostname :: .string r.cert :: .string r.key :: rest) := by
  cases v <;> simp [ofAttribute, ofList_eq_ok_iff]

/-! ## Writing and reading -/

section

variable {σ : Type} (o : Outside σ) (s : σ) (t : Table) (cause : DecodeError)

theorem put_ne_encoding (r : Record) : ((t.put r).run o s).value ≠ .error (.encoding cause) := by
  rw [run_put]
  cases (o.put s t.client (t.putOf r)).1 <;> nofun

theorem seed_ne_encoding (hostname : String) (certPath keyPath : File.Path) :
    ((seed t hostname certPath keyPath).run o s).value ≠ .error (.put (.encoding cause)) := by
  have h := seeding_run o t hostname certPath keyPath s
  generalize (seed t hostname certPath keyPath).run o s = run at h
  cases h <;> nofun

end

/-- Every record is written, as the item of its three texts, and is read back from it. Of all items
those are read as the record that have these texts and nothing else that is refused at any depth.
Of all values those are that are such an item or begin with the three texts as a list. -/
theorem reads_back_exactly :
    (∀ r : Record, ∃ item, r.encode = .ok item ∧
      item = [("hostname", .string r.hostname), ("cert", .string r.cert), ("key", .string r.key)] ∧
      ofItem item = .ok r) ∧
    (∀ (σ : Type) (o : Outside σ) (s : σ) (t : Table) (cause : DecodeError),
      (∀ r, ((t.put r).run o s).value ≠ .error (.encoding cause)) ∧
      ∀ hostname certPath keyPath,
        ((seed t hostname certPath keyPath).run o s).value ≠ .error (.put (.encoding cause))) ∧
    (∀ (m : Entries) (r : Record), m.IsMap →
      (ofItem m = .ok r ↔
        (∃ item, r.encode = .ok item ∧ m.restrict.Perm item) ∧
        ∀ e ∈ m, e.1 ∉ Field.names → ∀ x, Attribute.Within x e.2 → ¬ x.Refused)) ∧
    ∀ (v : Attribute) (r : Record), ofAttribute v = .ok r ↔
      (∃ m, v = .map m ∧ ofItem m = .ok r) ∨
        ∃ rest, v = .list (.string r.hostname :: .string r.cert :: .string r.key :: rest) := by
  refine ⟨?_, ?_, ?_, ?_⟩
  · intro r
    exact ⟨r.toItem, encode_eq r, toItem_eq r, ofItem_toItem r⟩
  · intro σ o s t cause
    exact ⟨put_ne_encoding o s t cause, seed_ne_encoding o s t cause⟩
  · intro m r hm
    rw [ofItem_eq_ok_iff hm]
    refine and_congr_left fun _ => ?_
    simp only [encode_eq, Except.ok.injEq, exists_eq_left']
  · intro v r
    exact ofAttribute_eq_ok_iff

theorem reads_back_exactly_nested :
    let m (b : Bool) : Entries :=
      [("note", .list [.map [("n", .number "1.5"), ("z", .null b)], .strings ["x"]]),
       ("key", .string "k"), ("hostname", .string "a.test"), ("cert", .string "c")]
    (m true).IsMap ∧ (m false).IsMap ∧
      ofItem (m true) = .ok ⟨"a.test", "c", "k"⟩ ∧ ∀ r, ofItem (m false) ≠ .ok r := by
  intro m
  have hm (b : Bool) : (m b).IsMap := (by decide : ["note", "key", "hostname", "cert"].Nodup)
  refine ⟨hm true, hm false, ?_, ?_⟩
  · refine (reads_back_exactly.2.2.1 (m true) _ (hm true)).mpr ⟨⟨_, rfl, ?_⟩, ?_⟩
    · refine (restrict_perm_iff (hm true)).mpr fun f => ?_
      cases f <;> simp [m, Field.name, get]
    · intro e he hn
      rcases List.mem_cons.mp he with rfl | he
      · exact (Attribute.check_eq_ok_iff _).mp rfl
      · have hf : ∀ name ∈ ["key", "hostname", "cert"], name ∈ Field.names := by decide
        exact absurd (hf e.1 (List.mem_map_of_mem (f := Prod.fst) he)) hn
  · intro r h
    have hs := ((reads_back_exactly.2.2.1 (m false) r (hm false)).mp h).2
    have hw : Attribute.Within (.null false) (.map [("n", .number "1.5"), ("z", .null false)]) :=
      .map (.tail _ (.head _)) .self
    exact hs _ List.mem_cons_self (by decide) _ (.list (.head _) hw) .null

end Record

end TlsSeed.Item
