import TlsSeed.Proofs.Text.Blank
import TlsSeed.Proofs.Text.Utf8
import TlsSeed.Settings

/-! # The endpoint that is chosen

A text with a visible character is an endpoint of its own, kept as it is. All other choices come to
the default endpoint, and so does the default endpoint when it is chosen by name. Nothing else in
the environment has a say.
-/

namespace TlsSeed

open Text

namespace Settings

variable {u v : Option String} {t : String}

theorem endpointUrl_withEndpoint_some (h : ∃ c ∈ t.toList, isBlankChar c = false) :
    (withEndpoint (some t)).endpointUrl = t := by
  have hb : isBlank t = false := isBlank_eq_false_iff.mpr h
  simp [withEndpoint, Option.filter, hb]

theorem withEndpoint_of_blank (h : ∀ c ∈ t.toList, isBlankChar c = true) :
    withEndpoint (some t) = standard := by
  have hb : isBlank t = true := isBlank_iff.mpr h
  simp [standard, withEndpoint, Option.filter, hb]

/-- Settings differ in the endpoint alone. -/
theorem withEndpoint_inj :
    withEndpoint u = withEndpoint v ↔
      (withEndpoint u).endpointUrl = (withEndpoint v).endpointUrl := by
  simp [withEndpoint]

theorem visible_defaultEndpoint : ∃ c ∈ defaultEndpoint.toList, isBlankChar c = false :=
  ⟨'h', by decide, by decide⟩

/-- The choices that come to the default endpoint. -/
inductive ByDefault : Option String → Prop
  | absent : ByDefault none
  | blank {t : String} (h : ∀ c ∈ t.toList, isBlankChar c = true) : ByDefault (some t)
  | named : ByDefault (some defaultEndpoint)

theorem ByDefault.withEndpoint_eq (h : ByDefault u) : withEndpoint u = standard := by
  cases h with
  | absent => rfl
  | blank h => exact withEndpoint_of_blank h
  | named => exact withEndpoint_inj.mpr (endpointUrl_withEndpoint_some visible_defaultEndpoint)

/-- Every other choice is a text with a visible character, and is kept. -/
theorem exists_of_not_byDefault (h : ¬ ByDefault u) :
    ∃ t, u = some t ∧ (∃ c ∈ t.toList, isBlankChar c = false) ∧ t ≠ defaultEndpoint := by
  cases u with
  | none => exact absurd .absent h
  | some t =>
    refine ⟨t, rfl, ?_, ?_⟩
    · by_contra hv
      exact h (.blank (by simpa using hv))
    · rintro rfl
      exact h .named

theorem eq_some_endpointUrl (h : ¬ ByDefault u) : u = some (withEndpoint u).endpointUrl := by
  obtain ⟨t, rfl, hv, -⟩ := exists_of_not_byDefault h
  rw [endpointUrl_withEndpoint_some hv]

theorem withEndpoint_eq_standard_iff : withEndpoint u = standard ↔ ByDefault u := by
  constructor
  · intro h
    by_contra hd
    obtain ⟨t, rfl, hv, hn⟩ := exists_of_not_byDefault hd
    have ht := withEndpoint_inj.mp h
    rw [endpointUrl_withEndpoint_some hv] at ht
    exact hn ht
  · exact ByDefault.withEndpoint_eq

theorem withEndpoint_eq_iff :
    withEndpoint u = withEndpoint v ↔ (ByDefault u ∧ ByDefault v) ∨ u = v := by
  constructor
  · intro h
    by_cases hu : ByDefault u
    · have hv : withEndpoint v = standard := h.symm.trans hu.withEndpoint_eq
      exact .inl ⟨hu, withEndpoint_eq_standard_iff.mp hv⟩
    · have hv : ¬ ByDefault v := by
        rwa [← withEndpoint_eq_standard_iff, ← h, withEndpoint_eq_standard_iff]
      exact .inr ((eq_some_endpointUrl hu).trans (h ▸ (eq_some_endpointUrl hv).symm))
  · rintro (⟨hu, hv⟩ | rfl)
    · rw [hu.withEndpoint_eq, hv.withEndpoint_eq]
    · rfl

theorem visible_endpointUrl (u : Option String) :
    ∃ c ∈ (withEndpoint u).endpointUrl.toList, isBlankChar c = false := by
  by_cases h : ByDefault u
  · rw [h.withEndpoint_eq]
    exact visible_defaultEndpoint
  · obtain ⟨t, rfl, hv, -⟩ := exists_of_not_byDefault h
    rwa [endpointUrl_withEndpoint_some hv]

theorem eq_some_endpointUrl_iff : u = some (withEndpoint u).endpointUrl ↔
    ∃ t, u = some t ∧ ∃ c ∈ t.toList, isBlankChar c = false := by
  constructor
  · intro h
    exact ⟨_, h, visible_endpointUrl u⟩
  · rintro ⟨t, rfl, hv⟩
    rw [endpointUrl_withEndpoint_some hv]

theorem withEndpoint_endpointUrl (u : Option String) :
    withEndpoint (some (withEndpoint u).endpointUrl) = withEndpoint u :=
  withEndpoint_inj.mpr (endpointUrl_withEndpoint_some (visible_endpointUrl u))

end Settings

/-- The variable is set to bytes that encode no text. -/
def Environment.HoldsNoText (env : Environment) (name : String) : Prop :=
  ∃ bs, env name = some bs ∧ ¬ Utf8.IsText bs

theorem Environment.HoldsNoText.text?_eq_none {env : Environment} {name : String}
    (h : env.HoldsNoText name) : env.text? name = none := by
  obtain ⟨bs, hb, hn⟩ := h
  rw [text?, hb, Option.bind_some, Utf8.decode?_eq_none_iff.mpr hn]

/-- What is given to the client library goes before what it finds in the environment. -/
structure Loader.KeepsGiven (loader : Loader) : Prop where
  endpointUrl {given : Config} {u : String} (h : given.endpointUrl = some u) (env : Environment) :
    (loader given env).endpointUrl = some u
  region {given : Config} {r : String} (h : given.region = some r) (env : Environment) :
    (loader given env).region = some r

namespace Settings

/-- The client is the one that the client library would load. -/
theorem load_eq {loader : Loader} (h : loader.KeepsGiven) (s : Settings) (env : Environment) :
    s.load loader env = ⟨some s.client.endpointUrl, some s.client.region⟩ := by
  have hu : (s.load loader env).endpointUrl = some s.client.endpointUrl := h.endpointUrl rfl env
  have hr : (s.load loader env).region = some s.client.region := h.region rfl env
  rw [← hu, ← hr]

theorem ofEnvironment_congr {env env' : Environment}
    (h : env.text? endpointVariable = env'.text? endpointVariable) :
    ofEnvironment env = ofEnvironment env' := by
  rw [ofEnvironment, ofEnvironment, h]

/-- Which endpoint is chosen. It is never blank, a text is kept exactly if it has a visible
character, and the choices that come to the default endpoint are the only ones that cannot be told
apart. Of the environment only the variable for the endpoint matters, if it holds a text, and the
client library loads what is chosen whatever else it finds there. -/
theorem endpoint_chosen :
    (∀ u, (∃ c ∈ (withEndpoint u).endpointUrl.toList, isBlankChar c = false) ∧
      (u = some (withEndpoint u).endpointUrl ↔
        ∃ t, u = some t ∧ ∃ c ∈ t.toList, isBlankChar c = false) ∧
      (withEndpoint u = standard ↔ ByDefault u)) ∧
    (∀ s, ((∃ u, s = withEndpoint u) ∨ ∃ env, s = ofEnvironment env) →
      withEndpoint (some s.endpointUrl) = s) ∧
    (∀ u v, withEndpoint u = withEndpoint v ↔ (ByDefault u ∧ ByDefault v) ∨ u = v) ∧
    ∀ env env' : Environment,
      env endpointVariable = env' endpointVariable ∨
        env.HoldsNoText endpointVariable ∧ env' endpointVariable = none →
      ofEnvironment env = ofEnvironment env' ∧
      ∀ loader : Loader, loader.KeepsGiven →
        let s := ofEnvironment env
        s.load loader env = (ofEnvironment env').load loader env' ∧
        s.load loader env = ⟨some s.endpointUrl, some s.region⟩ ∧
        s.client = ⟨s.endpointUrl, s.region⟩ := by
  refine ⟨fun u => ⟨visible_endpointUrl u, eq_some_endpointUrl_iff, withEndpoint_eq_standard_iff⟩,
    ?_, fun u v => withEndpoint_eq_iff, ?_⟩
  · rintro s (⟨u, rfl⟩ | ⟨env, rfl⟩)
    · exact withEndpoint_endpointUrl u
    · exact withEndpoint_endpointUrl _
  · intro env env' h
    have ht : env.text? endpointVariable = env'.text? endpointVariable := by
      rcases h with h | ⟨hn, hu⟩
      · rw [Environment.text?, h, Environment.text?]
      · rw [hn.text?_eq_none, Environment.text?, hu, Option.bind_none]
    have hs : ofEnvironment env = ofEnvironment env' := ofEnvironment_congr ht
    refine ⟨hs, fun loader hl => ⟨?_, load_eq hl _ env, rfl⟩⟩
    rw [load_eq hl, load_eq hl, hs]

theorem endpoint_chosen_crowded :
    let loader : Loader := fun given env =>
      ⟨given.endpointUrl.or (env.text? "AWS_ENDPOINT_URL"),
        given.region.or (env.text? "AWS_REGION")⟩
    let bare : Environment := fun name =>
      if name = endpointVariable then some (Utf8.encode " http://a:1") else none
    let crowded : Environment := fun name =>
      if name = "AWS_ENDPOINT_URL" then some (Utf8.encode "http://b")
      else if name = "AWS_REGION" then some (Utf8.encode "eu-west-1") else bare name
    loader {} crowded = ⟨some "http://b", some "eu-west-1"⟩ ∧
    ofEnvironment crowded = ofEnvironment bare ∧
    (ofEnvironment crowded).load loader crowded = ⟨some " http://a:1", some "us-east-1"⟩ ∧
    withEndpoint (some " http://a:1") = ofEnvironment crowded := by
  intro loader bare crowded
  have hl : loader.KeepsGiven := by
    constructor
    · intro given u h env
      simp [loader, h]
    · intro given r h env
      simp [loader, h]
  have he : (ofEnvironment crowded).endpointUrl = " http://a:1" := by
    decide
  obtain ⟨-, hb, -, hc⟩ := endpoint_chosen
  obtain ⟨hs, hg⟩ := hc crowded bare (.inl rfl)
  refine ⟨rfl, hs, ?_, ?_⟩
  · rw [(hg loader hl).2.1, he]
    rfl
  · rw [← he]
    exact hb _ (.inr ⟨crowded, rfl⟩)

end Settings

end TlsSeed
