import TlsSeed.Error
import TlsSeed.Proofs.Item.Format
import TlsSeed.Proofs.Text.Parts

/-! # Why items are refused

When what is left aside in an item passes, a value of another type under the name of an attribute is
told before an attribute that is missing, and of these the first in their order is told. The order
in which the entries are met makes no difference. A list is refused for the type of a value before
its length.
-/

namespace TlsSeed.Item

variable {m : Entries} {e : DecodeError}

/-- What is told when reading is refused. -/
def refusal? : Except DecodeError Record → Option String
  | .ok _ => none
  | .error e => some e.message

/-- Reading is refused for a value of another type, or else for what is lacking, or else not. -/
inductive Precedence (other : Prop) (lack : Option DecodeError) :
    Except DecodeError Record → Prop
  | other (ho : other) : Precedence other lack (.error .expectedString)
  | lack (ho : ¬ other) {e : DecodeError} (hl : lack = some e) : Precedence other lack (.error e)
  | read (ho : ¬ other) (hl : lack = none) (r : Record) : Precedence other lack (.ok r)

namespace Precedence

variable {other : Prop} {lack : Option DecodeError} {x : Except DecodeError Record}

theorem refusal?_eq_string_iff (h : Precedence other lack x)
    (hn : ∀ e ∈ lack, e.message ≠ DecodeError.expectedString.message) :
    refusal? x = some "Expected string" ↔ other := by
  cases h with
  | other ho => exact iff_of_true rfl ho
  | lack ho hl => exact iff_of_false (fun h => hn _ hl (Option.some.inj h)) ho
  | read ho hl r => exact iff_of_false nofun ho

theorem refusal?_eq_lack_iff (h : Precedence other lack x)
    (hn : e.message ≠ DecodeError.expectedString.message)
    (hi : ∀ e' ∈ lack, e'.message = e.message → e' = e) :
    refusal? x = some e.message ↔ ¬ other ∧ lack = some e := by
  cases h with
  | other ho =>
    exact iff_of_false (fun h => hn (Option.some.inj h).symm) fun h => h.1 ho
  | lack ho hl =>
    constructor
    · intro h
      exact ⟨ho, hl.trans (congrArg some (hi _ hl (Option.some.inj h)))⟩
    · rintro ⟨-, hl'⟩
      rw [Option.some.inj (hl.symm.trans hl'), refusal?]
  | read ho hl r =>
    rw [hl]
    exact iff_of_false nofun nofun

theorem exists_eq_ok_iff (h : Precedence other lack x) :
    (∃ r, x = .ok r) ↔ ¬ other ∧ lack = none := by
  cases h with
  | other ho => exact iff_of_false nofun fun h => h.1 ho
  | lack ho hl =>
    rw [hl]
    exact iff_of_false nofun nofun
  | read ho hl r => exact iff_of_true ⟨r, rfl⟩ ⟨ho, hl⟩

end Precedence

namespace DecodeError

theorem message_missing_ne (f : Field) : (missing f).message ≠ expectedString.message := by
  cases f <;> decide

theorem message_missing_injective {f g : Field}
    (h : (missing f).message = (missing g).message) : f = g := by
  have hi : ∀ f g : Field, (missing f).message = (missing g).message → f = g := by
    intro f g
    cases f <;> cases g <;> decide
  exact hi f g h

theorem message_tooShort (n : ℕ) : (tooShort n).message =
    "invalid length " ++ toString n ++ ", expected struct CertificateRecord with 3 elements" := rfl

theorem message_tooShort_ne (n : ℕ) : (tooShort n).message ≠ expectedString.message := by
  rw [message_tooShort, String.append_assoc]
  intro h
  have ht := congrArg (fun text => text.toList.take 1) h
  rw [Text.take_toList_append (by decide)] at ht
  exact absurd ht (by decide)

end DecodeError

namespace Attribute

/-- The value is no text. -/
def IsOther (v : Attribute) : Prop :=
  ∀ s, v ≠ .string s

theorem not_isOther {v : Attribute} : ¬ v.IsOther ↔ ∃ s, v = .string s := by
  simp [IsOther]

theorem eq_of_text_eq_error {v : Attribute} (h : v.text = .error e) : e = .expectedString := by
  cases v with
  | string s => exact nomatch h
  | _ => exact (Except.error.inj h).symm

end Attribute

namespace Entries

/-- An attribute of a record is there with a value that is no text. -/
def HasOtherType (m : Entries) : Prop :=
  ∃ (f : Field) (v : Attribute), (f.name, v) ∈ m ∧ v.IsOther

/-- Whatever is under other names passes when it is walked. -/
def AsidePasses (m : Entries) : Prop :=
  ∀ e ∈ m, e.1 ∉ Field.names → e.2.check = .ok ()

/-- The first attribute of a record that is missing, in the order of the attributes. -/
def firstMissing? (m : Entries) : Option Field :=
  Field.all.find? fun f => f.name ∉ m.map Prod.fst

theorem firstMissing?_eq_none_iff :
    m.firstMissing? = none ↔ ∀ f : Field, f.name ∈ m.map Prod.fst := by
  rw [firstMissing?, List.find?_eq_none]
  simp only [decide_eq_true_iff, not_not]
  constructor
  · intro h f
    exact h f (by cases f <;> decide)
  · intro h f _
    exact h f

theorem fits_of_not_hasOtherType (ha : m.AsidePasses) (hn : ¬ m.HasOtherType) :
    ∀ e ∈ m, Fits e := by
  rintro ⟨name, v⟩ he
  by_cases hf : name ∈ Field.names
  · obtain ⟨f, rfl⟩ := Field.mem_names.mp hf
    by_contra hv
    refine hn ⟨f, v, he, ?_⟩
    rintro s rfl
    exact hv (.inl ⟨f, s, rfl⟩)
  · exact .inr ⟨hf, (Attribute.check_eq_ok_iff v).mp (ha _ he hf)⟩

theorem HasOtherType.not_fits (h : m.HasOtherType) : ¬ ∀ e ∈ m, Fits e := by
  obtain ⟨f, v, he, hv⟩ := h
  intro hf
  rcases hf _ he with ⟨g, s, hs⟩ | ⟨hn, -⟩
  · exact hv s (Prod.mk.inj hs).2
  · exact hn (Field.mem_names.mpr ⟨f, rfl⟩)

end Entries

namespace Draft

variable {d : Draft} {f : Field}

theorem eq_of_add_eq_error {entry : String × Attribute}
    (ha : entry.1 ∉ Field.names → entry.2.check = .ok ()) (h : d.add entry = .error e) :
    e = .expectedString := by
  obtain ⟨name, v⟩ := entry
  rw [add] at h
  by_cases hn : name ∈ Field.names
  · obtain ⟨f, rfl⟩ := Field.mem_names.mp hn
    simp only [Field.ofName?_name, map_eq_error_iff] at h
    exact Attribute.eq_of_text_eq_error h
  · simp only [Field.ofName?_eq_none hn, ha hn, map_eq_error_iff, reduceCtorEq] at h

/-- As long as what is left aside passes, entries are refused for nothing but the type of a value,
whatever is known before them. -/
theorem eq_of_foldlM_eq_error (ha : m.AsidePasses) (h : m.foldlM add d = .error e) :
    e = .expectedString := by
  induction m generalizing d with
  | nil => exact nomatch h
  | cons entry m ih =>
    obtain ⟨he, hm⟩ := List.forall_mem_cons.mp ha
    rw [List.foldlM_cons, bind_eq_error_iff] at h
    rcases h with h | ⟨d₁, -, h⟩
    · exact eq_of_add_eq_error he h
    · exact ih hm h

theorem finish_eq (d : Draft) :
    d.finish = match Field.all.find? fun f => (d.get f).isNone with
      | some f => .error (.missing f)
      | none => .ok ⟨d.hostname.getD "", d.cert.getD "", d.key.getD ""⟩ := by
  obtain ⟨hostname, cert, key⟩ := d
  cases hostname <;> cases cert <;> cases key <;> rfl

theorem get_eq_none_iff (hm : m.IsMap) (hd : m.foldlM add {} = .ok d) :
    d.get f = none ↔ f.name ∉ m.map Prod.fst := by
  constructor
  · intro hg hf
    obtain ⟨entry, he, hn⟩ := List.mem_map.mp hf
    rcases exists_foldlM_iff.mp ⟨d, hd⟩ entry he with ⟨g, s, rfl⟩ | ⟨ha, -⟩
    · obtain rfl : g = f := Field.name_injective hn
      rw [get_of_mem hm hd he] at hg
      exact nomatch hg
    · exact ha (Field.mem_names.mpr ⟨f, hn.symm⟩)
  · intro hf
    rw [get_of_foldlM hd hf]
    cases f <;> rfl

theorem find?_isNone_get (hm : m.IsMap) (hd : m.foldlM add {} = .ok d) :
    (Field.all.find? fun f => (d.get f).isNone) = m.firstMissing? := by
  rw [Entries.firstMissing?]
  congr 1
  funext f
  rw [Bool.eq_iff_iff, Option.isNone_iff_eq_none, get_eq_none_iff hm hd, decide_eq_true_iff]

end Draft

namespace Record

/-! ## Items -/

theorem ofItem_of_hasOtherType (ha : m.AsidePasses) (h : m.HasOtherType) :
    ofItem m = .error .expectedString := by
  cases hd : m.foldlM Draft.add {} with
  | ok d => exact absurd (Draft.exists_foldlM_iff.mp ⟨d, hd⟩) h.not_fits
  | error e =>
    rw [Draft.eq_of_foldlM_eq_error ha hd] at hd
    rw [ofItem, hd]
    rfl

theorem ofItem_of_firstMissing? {f : Field} (hm : m.IsMap) (ha : m.AsidePasses)
    (hn : ¬ m.HasOtherType) (hf : m.firstMissing? = some f) : ofItem m = .error (.missing f) := by
  obtain ⟨d, hd⟩ := Draft.exists_foldlM_iff.mpr (Entries.fits_of_not_hasOtherType ha hn)
  rw [ofItem, hd]
  change d.finish = _
  rw [Draft.finish_eq, Draft.find?_isNone_get hm hd, hf]

theorem ofItem_of_complete (hm : m.IsMap) (ha : m.AsidePasses) (hn : ¬ m.HasOtherType)
    (hf : m.firstMissing? = none) : ∃ r, ofItem m = .ok r := by
  obtain ⟨d, hd⟩ := Draft.exists_foldlM_iff.mpr (Entries.fits_of_not_hasOtherType ha hn)
  rw [ofItem, hd]
  change ∃ r, d.finish = .ok r
  rw [Draft.finish_eq, Draft.find?_isNone_get hm hd, hf]
  exact ⟨_, rfl⟩

theorem precedence_ofItem (hm : m.IsMap) (ha : m.AsidePasses) :
    Precedence m.HasOtherType (m.firstMissing?.map .missing) (ofItem m) := by
  by_cases ht : m.HasOtherType
  · rw [ofItem_of_hasOtherType ha ht]
    exact .other ht
  · cases hf : m.firstMissing? with
    | some f =>
      rw [ofItem_of_firstMissing? hm ha ht hf]
      exact .lack ht rfl
    | none =>
      obtain ⟨r, hr⟩ := ofItem_of_complete hm ha ht hf
      rw [hr]
      exact .read ht rfl r

/-- As long as what is left aside passes, the order of the entries makes no difference. -/
theorem ofItem_perm {m' : Entries} (hm : m.IsMap) (ha : m.AsidePasses) (hp : m.Perm m') :
    ofItem m' = ofItem m := by
  have hm' : m'.IsMap := (hp.map Prod.fst).nodup_iff.mp hm
  have ha' : m'.AsidePasses := fun e he => ha e (hp.mem_iff.mpr he)
  have hf : m'.firstMissing? = m.firstMissing? := by
    simp only [Entries.firstMissing?, (hp.map Prod.fst).mem_iff]
  have ht : m'.HasOtherType ↔ m.HasOtherType := by
    simp only [Entries.HasOtherType, hp.mem_iff]
  by_cases hn : m.HasOtherType
  · rw [ofItem_of_hasOtherType ha hn, ofItem_of_hasOtherType ha' (ht.mpr hn)]
  · have hn' : ¬ m'.HasOtherType := mt ht.mp hn
    cases hg : m.firstMissing? with
    | some f =>
      rw [ofItem_of_firstMissing? hm ha hn hg, ofItem_of_firstMissing? hm' ha' hn' (hf.trans hg)]
    | none =>
      -- What is read is known from its own entries, and these are the same in any order.
      obtain ⟨r, hr⟩ := ofItem_of_complete hm ha hn hg
      obtain ⟨hres, hs⟩ := (ofItem_eq_ok_iff hm).mp hr
      rw [hr, ofItem_eq_ok_iff hm']
      exact ⟨(hp.filter _).symm.trans hres, fun e he => hs e (hp.mem_iff.mpr he)⟩

/-! ## Lists -/

variable {vs : List Attribute}

theorem eq_of_mapM_text_eq_error (h : vs.mapM Attribute.text = .error e) :
    e = .expectedString := by
  induction vs with
  | nil => exact nomatch h
  | cons v vs ih =>
    rw [List.mapM_cons, bind_eq_error_iff] at h
    rcases h with h | ⟨s, -, h⟩
    · exact Attribute.eq_of_text_eq_error h
    · rcases bind_eq_error_iff.mp h with h | ⟨ss, -, h⟩
      · exact ih h
      · exact nomatch h

theorem exists_texts_iff :
    (∃ ss : List String, vs = ss.map .string) ↔ ¬ ∃ v ∈ vs, v.IsOther := by
  constructor
  · rintro ⟨ss, rfl⟩ ⟨v, hv, ho⟩
    obtain ⟨s, -, rfl⟩ := List.mem_map.mp hv
    exact ho s rfl
  · intro h
    induction vs with
    | nil => exact ⟨[], rfl⟩
    | cons v vs ih =>
      rw [List.exists_mem_cons_iff, not_or, Attribute.not_isOther] at h
      obtain ⟨⟨s, rfl⟩, hv⟩ := h
      obtain ⟨ss, rfl⟩ := ih hv
      exact ⟨s :: ss, rfl⟩

theorem ofList_of_other (h : ∃ v ∈ vs.take 3, v.IsOther) :
    ofList vs = .error .expectedString := by
  cases ht : (vs.take 3).mapM Attribute.text with
  | ok ss => exact absurd h (exists_texts_iff.mp ⟨ss, mapM_text_eq_ok_iff.mp ht⟩)
  | error e =>
    rw [eq_of_mapM_text_eq_error ht] at ht
    rw [ofList, ht]
    rfl

theorem ofList_of_short (h : ¬ ∃ v ∈ vs.take 3, v.IsOther) (hl : vs.length < 3) :
    ofList vs = .error (.tooShort vs.length) := by
  obtain ⟨ss, hs⟩ := exists_texts_iff.mpr h
  have hn : ss.length = vs.length := by
    rw [List.take_of_length_le (by omega)] at hs
    rw [hs, List.length_map]
  rw [ofList, mapM_text_eq_ok_iff.mpr hs]
  rcases ss with _ | ⟨s₁, _ | ⟨s₂, _ | ⟨s₃, ss⟩⟩⟩
  · rfl
  · rfl
  · rfl
  · simp only [List.length_cons] at hn
    omega

theorem ofList_of_texts (h : ¬ ∃ v ∈ vs.take 3, v.IsOther) (hl : ¬ vs.length < 3) :
    ∃ r, ofList vs = .ok r := by
  obtain ⟨ss, hs⟩ := exists_texts_iff.mpr h
  have hn : ss.length = 3 := by
    rw [← List.length_map (f := Attribute.string), ← hs, List.length_take]
    omega
  obtain ⟨hostname, cert, key, rfl⟩ := List.length_eq_three.mp hn
  rw [ofList, mapM_text_eq_ok_iff.mpr hs]
  exact ⟨⟨hostname, cert, key⟩, rfl⟩

theorem precedence_ofList (vs : List Attribute) :
    Precedence (∃ v ∈ vs.take 3, v.IsOther)
      (if vs.length < 3 then some (.tooShort vs.length) else none) (ofList vs) := by
  by_cases ho : ∃ v ∈ vs.take 3, v.IsOther
  · rw [ofList_of_other ho]
    exact .other ho
  · by_cases hl : vs.length < 3
    · rw [ofList_of_short ho hl]
      exact .lack ho (if_pos hl)
    · obtain ⟨r, hr⟩ := ofList_of_texts ho hl
      rw [hr]
      exact .read ho (if_neg hl) r

/-! ## What is told -/

theorem refusal?_ofItem_eq_missing_iff (hm : m.IsMap) (ha : m.AsidePasses) {f : Field} :
    refusal? (ofItem m) = some (DecodeError.missing f).message ↔
      ¬ m.HasOtherType ∧ m.firstMissing? = some f := by
  have hi : ∀ e ∈ m.firstMissing?.map DecodeError.missing,
      e.message = (DecodeError.missing f).message → e = .missing f := by
    intro e he h
    obtain ⟨g, -, rfl⟩ := Option.map_eq_some_iff.mp he
    rw [DecodeError.message_missing_injective h]
  rw [(precedence_ofItem hm ha).refusal?_eq_lack_iff (DecodeError.message_missing_ne f) hi,
    Option.map_eq_some_iff]
  simp only [DecodeError.missing.injEq, exists_eq_right]

theorem refusal?_ofItem_eq_string_iff (hm : m.IsMap) (ha : m.AsidePasses) :
    refusal? (ofItem m) = some "Expected string" ↔ m.HasOtherType := by
  refine (precedence_ofItem hm ha).refusal?_eq_string_iff fun e he => ?_
  obtain ⟨f, -, rfl⟩ := Option.map_eq_some_iff.mp he
  exact DecodeError.message_missing_ne f

theorem exists_ofItem_eq_ok_iff (hm : m.IsMap) (ha : m.AsidePasses) : (∃ r, ofItem m = .ok r) ↔
    ¬ m.HasOtherType ∧ ∀ f : Field, f.name ∈ m.map Prod.fst := by
  rw [(precedence_ofItem hm ha).exists_eq_ok_iff, Option.map_eq_none_iff,
    Entries.firstMissing?_eq_none_iff]

theorem eq_tooShort_of_mem {n : ℕ}
    (h : e ∈ if n < 3 then some (DecodeError.tooShort n) else none) : e = .tooShort n := by
  split_ifs at h
  · exact (Option.some.inj h).symm
  · exact nomatch h

theorem refusal?_ofList_eq_string_iff :
    refusal? (ofList vs) = some "Expected string" ↔ ∃ v ∈ vs.take 3, v.IsOther := by
  refine (precedence_ofList vs).refusal?_eq_string_iff fun e he => ?_
  rw [eq_tooShort_of_mem he]
  exact DecodeError.message_tooShort_ne _

theorem refusal?_ofList_eq_tooShort_iff :
    refusal? (ofList vs) = some (DecodeError.tooShort vs.length).message ↔
      ¬ (∃ v ∈ vs.take 3, v.IsOther) ∧ vs.length < 3 := by
  rw [(precedence_ofList vs).refusal?_eq_lack_iff (DecodeError.message_tooShort_ne _)
    fun e he _ => eq_tooShort_of_mem he]
  simp

theorem exists_ofList_eq_ok_iff :
    (∃ r, ofList vs = .ok r) ↔ ¬ (∃ v ∈ vs.take 3, v.IsOther) ∧ 3 ≤ vs.length := by
  rw [(precedence_ofList vs).exists_eq_ok_iff]
  simp

theorem failureLine_encoding (cause : DecodeError) :
    (SeedError.put (.encoding cause)).failureLine =
      "Could not add the item to table: PutError: SerializeError: " ++ cause.message := by
  have hf : "Could not add the item to table: PutError: SerializeError: " =
      "Could not add the item to table: " ++ ("PutError: " ++ "SerializeError: ") := by decide
  rw [hf, String.append_assoc, String.append_assoc]
  rfl

/-- Reading an item in which nothing that is left aside is refused tells of a value of another type
first and of the first missing attribute otherwise, in whatever order the entries are met, and
succeeds if there is neither. Reading a list tells of a value of another type among the first three
and then of too small a length, and nothing else than a map or a list is read. If such an error
stops a put, its text ends the failure line. -/
theorem refused_in_order :
    (∀ m : Entries, m.IsMap → m.AsidePasses →
      (refusal? (ofItem m) = some "Expected string" ↔ m.HasOtherType) ∧
      (∀ f : Field, refusal? (ofItem m) = some ("missing field `" ++ f.name ++ "`") ↔
        ¬ m.HasOtherType ∧ m.firstMissing? = some f) ∧
      ((∃ r, ofItem m = .ok r) ↔ ¬ m.HasOtherType ∧ ∀ f : Field, f.name ∈ m.map Prod.fst) ∧
      ∀ m', m.Perm m' → ofItem m' = ofItem m) ∧
    (∀ vs : List Attribute,
      (refusal? (ofAttribute (.list vs)) = some "Expected string" ↔
        ∃ v ∈ vs.take 3, v.IsOther) ∧
      (refusal? (ofAttribute (.list vs)) = some ("invalid length " ++ toString vs.length ++
          ", expected struct CertificateRecord with 3 elements") ↔
        ¬ (∃ v ∈ vs.take 3, v.IsOther) ∧ vs.length < 3) ∧
      ((∃ r, ofAttribute (.list vs) = .ok r) ↔
        ¬ (∃ v ∈ vs.take 3, v.IsOther) ∧ 3 ≤ vs.length)) ∧
    (∀ v : Attribute, (∀ m, v ≠ .map m) → (∀ vs, v ≠ .list vs) →
      refusal? (ofAttribute v) = some "Expected map") ∧
    ∀ cause : DecodeError, (SeedError.put (.encoding cause)).failureLine =
      "Could not add the item to table: PutError: SerializeError: " ++ cause.message := by
  refine ⟨?_, ?_, ?_, failureLine_encoding⟩
  · intro m hm ha
    refine ⟨refusal?_ofItem_eq_string_iff hm ha, ?_, exists_ofItem_eq_ok_iff hm ha, ?_⟩
    · intro f
      exact refusal?_ofItem_eq_missing_iff hm ha
    · intro m' hp
      exact ofItem_perm hm ha hp
  · intro vs
    exact ⟨refusal?_ofList_eq_string_iff, refusal?_ofList_eq_tooShort_iff,
      exists_ofList_eq_ok_iff⟩
  · intro v hm hl
    cases v with
    | map m => exact absurd rfl (hm m)
    | list vs => exact absurd rfl (hl vs)
    | _ => rfl

theorem refused_in_order_mixed :
    let note : String × Attribute := ("note", .list [.number "1.5", .null true])
    let m : Entries := [note, ("key", .bool true), ("cert", .string "c")]
    let m' : Entries := [("cert", .string "c"), note]
    m.IsMap ∧ m.AsidePasses ∧ refusal? (ofItem m) = some "Expected string" ∧
      m'.IsMap ∧ m'.AsidePasses ∧ refusal? (ofItem m') = some "missing field `hostname`" := by
  intro note m m'
  have hm : m.IsMap := (by decide : ["note", "key", "cert"].Nodup)
  have hm' : m'.IsMap := (by decide : ["cert", "note"].Nodup)
  have hn : note.2.check = .ok () := rfl
  have ha : m.AsidePasses := by
    refine List.forall_mem_cons.mpr ⟨fun _ => hn, ?_⟩
    refine List.forall_mem_cons.mpr ⟨fun h => absurd h (by decide), ?_⟩
    exact List.forall_mem_singleton.mpr fun h => absurd h (by decide)
  have ha' : m'.AsidePasses := by
    refine List.forall_mem_cons.mpr ⟨fun h => absurd h (by decide), ?_⟩
    exact List.forall_mem_singleton.mpr fun _ => hn
  have ht : m.HasOtherType := ⟨.key, .bool true, .tail _ (.head _), nofun⟩
  have ht' : ¬ m'.HasOtherType := by
    rintro ⟨f, v, hv, ho⟩
    rcases List.mem_cons.mp hv with hv | hv
    · exact ho "c" (Prod.mk.inj hv).2
    · have hf := (Prod.mk.inj (List.mem_singleton.mp hv)).1
      cases f <;> exact absurd hf (by decide)
  refine ⟨hm, ha, ?_, hm', ha', ?_⟩
  · exact (refused_in_order.1 m hm ha).1.mpr ht
  · exact ((refused_in_order.1 m' hm' ha').2.1 .hostname).mpr ⟨ht', by decide⟩

end Record

end TlsSeed.Item
