import XmlBinding.Proofs.Form
import XmlBinding.Proofs.Generator.Outcome

/-!
# The classes of a generator

* `Draft.ofTarget_eq_ok_iff` : the class of an entity for a builder is one that a dialect builds;
* `Generator.exists_entity_of_mem_produce` : every class is that of a registered entity;
* `Session.Generable.exists_builds` : an entity that meets the conditions has both builders.
-/

namespace XmlBinding

namespace Draft

variable {s : Session} {e : Entity} {t : Target} {ts : List Target} {ps : List Property}
  {c : GeneratedClass}

theorem ofTarget_eq_ok_iff {J : Type} {d : Dialect J} (wrap : ClassFrame → Draft)
    (hstart : start s e d.target = (Builder.openFrame s e d.target).map wrap)
    (hw : ∀ p f, (wrap f).receive s p = (Builder.addProperty p f).map wrap)
    (hfinish : ∀ f, (wrap f).finish s = d.render s f) (hps : s.describe e = .ok ps) :
    ofTarget s ps e d.target = .ok c ↔ ∃ f, Builder.Builds d s e ps f c := by
  unfold ofTarget
  rw [hstart]
  constructor
  · intro h
    obtain ⟨x, hx, h⟩ := bind_eq_ok.1 h
    obtain ⟨f₀, hf₀, rfl⟩ := map_eq_ok.1 hx
    obtain ⟨y, hy, h⟩ := bind_eq_ok.1 h
    rw [receives_frame hw] at hy
    obtain ⟨f, hf, rfl⟩ := map_eq_ok.1 hy
    rw [hfinish] at h
    exact ⟨f, hps, bind_eq_ok.2 ⟨f₀, hf₀, hf⟩, h⟩
  · rintro ⟨f, h⟩
    obtain ⟨f₀, hf₀, hf⟩ := bind_eq_ok.1 h.filled
    refine bind_eq_ok.2 ⟨wrap f₀, map_eq_ok.2 ⟨f₀, hf₀, rfl⟩, bind_eq_ok.2 ⟨wrap f, ?_, ?_⟩⟩
    · rw [receives_frame hw]
      exact map_eq_ok.2 ⟨f, hf, rfl⟩
    · rw [hfinish]
      exact h.rendered

theorem ofTarget_serverBuilder_iff (hps : s.describe e = .ok ps) :
    ofTarget s ps e .serverBuilder = .ok c ↔
      ∃ f, Builder.Builds Handler.serverDialect s e ps f c :=
  ofTarget_eq_ok_iff (d := Handler.serverDialect) serverBuilder rfl (fun _ _ => rfl)
    (fun _ => rfl) hps

theorem ofTarget_clientBuilder_iff (hps : s.describe e = .ok ps) :
    ofTarget s ps e .clientBuilder = .ok c ↔
      ∃ f, Builder.Builds Handler.clientDialect s e ps f c :=
  ofTarget_eq_ok_iff (d := Handler.clientDialect) clientBuilder rfl (fun _ _ => rfl)
    (fun _ => rfl) hps

/-! ## Where classes come from -/

theorem exists_of_mem_finishAll {ds : List Draft} (h : c ∈ (finishAll s ds).1) :
    ∃ d ∈ ds, d.finish s = .ok c := by
  induction ds with
  | nil => cases h
  | cons d ds ih =>
    unfold finishAll at h
    cases hd : d.finish s with
    | error failure =>
      rw [hd] at h
      cases h
    | ok c' =>
      rw [hd] at h
      rcases List.mem_cons.1 h with rfl | h
      · exact ⟨d, List.mem_cons_self, hd⟩
      · obtain ⟨d', hd', h⟩ := ih h
        exact ⟨d', List.mem_cons_of_mem d hd', h⟩

theorem exists_of_mem_receiveAll {ds ds' : List Draft} (h : receiveAll s ps ds = .ok ds')
    {d' : Draft} (hd : d' ∈ ds') : ∃ d ∈ ds, receives s ps d = .ok d' := by
  induction ps generalizing ds with
  | nil =>
    cases h
    exact ⟨d', hd, rfl⟩
  | cons p ps ih =>
    unfold receiveAll at h
    rw [List.foldlM_cons] at h
    obtain ⟨ds₁, h₁, h⟩ := bind_eq_ok.1 h
    obtain ⟨d₁, hd₁, hrest⟩ := ih h
    obtain ⟨d, hd, hfirst⟩ := mem_of_mapM_eq_ok h₁ hd₁
    refine ⟨d, hd, ?_⟩
    unfold receives
    rw [List.foldlM_cons]
    exact bind_eq_ok.2 ⟨d₁, hfirst, hrest⟩

theorem exists_of_mem_ofEntity (h : c ∈ (ofEntity s ts e).1) :
    ∃ ps, s.describe e = .ok ps ∧ ∃ t ∈ ts, ofTarget s ps e t = .ok c := by
  unfold ofEntity at h
  cases hf : filled s ts e with
  | error failure =>
    rw [hf] at h
    cases h
  | ok ds' =>
    rw [hf] at h
    obtain ⟨d', hd', hfinish⟩ := exists_of_mem_finishAll h
    obtain ⟨ps, hps, hf⟩ := bind_eq_ok.1 hf
    obtain ⟨ds, hds, hf⟩ := bind_eq_ok.1 hf
    obtain ⟨d, hd, hreceives⟩ := exists_of_mem_receiveAll hf hd'
    obtain ⟨t, ht, hstart⟩ := mem_of_mapM_eq_ok hds hd
    exact ⟨ps, hps, t, ht, bind_eq_ok.2 ⟨d, hstart, bind_eq_ok.2 ⟨d', hreceives, hfinish⟩⟩⟩

theorem exists_of_mem_ofEntities {es : List Entity} (h : c ∈ (ofEntities s ts es).1) :
    ∃ e ∈ es, c ∈ (ofEntity s ts e).1 := by
  induction es with
  | nil => cases h
  | cons e es ih =>
    unfold ofEntities at h
    cases hm : ofEntity s ts e with
    | mk cs failure =>
      rw [hm] at h
      have hfirst : c ∈ cs → c ∈ (ofEntity s ts e).1 := fun hc => by rwa [hm]
      cases failure with
      | some failure => exact ⟨e, List.mem_cons_self, hfirst h⟩
      | none =>
        rcases List.mem_append.1 h with h | h
        · exact ⟨e, List.mem_cons_self, hfirst h⟩
        · obtain ⟨e', he', h⟩ := ih h
          exact ⟨e', List.mem_cons_of_mem e he', h⟩

end Draft

/-- Every class of a generator is that of a registered entity for the target of a handler. -/
theorem Generator.exists_entity_of_mem_produce {g : Generator} (hg : g.Clean) {c : GeneratedClass}
    (h : c ∈ g.produce.classes) :
    ∃ e ∈ g.session.entities.values, ∃ ps, g.session.describe e = .ok ps ∧
      ∃ t ∈ g.targets, Draft.ofTarget g.session ps e t = .ok c := by
  rw [(produce_spec hg).1] at h
  obtain ⟨e, he, h⟩ := Draft.exists_of_mem_ofEntities h
  exact ⟨e, he, Draft.exists_of_mem_ofEntity h⟩

/-- An entity that meets the conditions has both builders. -/
theorem Session.Generable.exists_builds {s : Session} {e : Entity} (h : s.Generable e)
    (hc : s.catalog.NamesMethods)
    (hplaced : ∀ e ∈ s.entities.values, ∀ t, ∃ package, s.packageFor e t = .ok package)
    {ps : List Property} (hps : s.describe e = .ok ps) :
    (∃ f c, Builder.Builds Handler.serverDialect s e ps f c) ∧
      ∃ f c, Builder.Builds Handler.clientDialect s e ps f c := by
  have hall := Draft.ofEntity_snd_eq_none.1 (Draft.ofEntity_of_generable hc hplaced h)
  obtain ⟨ps', hps', hall⟩ := hall
  cases hps.symm.trans hps'
  constructor
  · obtain ⟨c, hc⟩ := hall .serverBuilder (by decide)
    obtain ⟨f, hf⟩ := (Draft.ofTarget_serverBuilder_iff hps).1 hc
    exact ⟨f, c, hf⟩
  · obtain ⟨c, hc⟩ := hall .clientBuilder (by decide)
    obtain ⟨f, hf⟩ := (Draft.ofTarget_clientBuilder_iff hps).1 hc
    exact ⟨f, c, hf⟩

end XmlBinding
