import XmlBinding.Proofs.Client.Model
import XmlBinding.Proofs.Client.Same
import XmlBinding.Proofs.Generator.Begins
import XmlBinding.Proofs.Server.Same

/-!
# Classes of alike entities

Where two sessions are alike on a side, entities that are alike there have one class for each target
of the side, or fail alike.

* `Session.describeProperty_congr` : what a property is resolved to depends on which types are
  entities;
* `Entity.BeginsAlikeOn` : entities whose own classes begin alike;
* `Draft.AlikeOn`, `start_agrees`, `receive_agrees`, `finish_congr` : their drafts;
* `Draft.ofTarget_congr`, `ofHandlers_congr`, `ofRun_congr` : their classes for one target, those of
  several handlers, and those of several entities.
-/

namespace XmlBinding

/-! ## Descriptions -/

namespace Session

variable {s s' : Session} {e e' : Entity}

theorem markerType_congr (hname : e.name = e'.name) : markerType e = markerType e' := by
  funext text
  unfold markerType Entity.package
  rw [hname]

theorem classify_congr (h : s.isEntity = s'.isEntity) (hname : e.name = e'.name)
    (p : BeanProperty) : s.classify e p = s'.classify e' p := by
  unfold classify mapCategory collectionCategory
  rw [h, hname, markerType_congr hname]

/-- A property is resolved by its own marks, by name and bindable mark of its entity, and by which
types are entities. -/
theorem describeProperty_congr (h : s.isEntity = s'.isEntity) (hname : e.name = e'.name)
    (hbindable : e.descriptor.bindable = e'.descriptor.bindable) (p : BeanProperty) :
    s.describeProperty e p = s'.describeProperty e' p := by
  have hdefault (value : String) : checkDefault e p value = checkDefault e' p value := by
    unfold checkDefault
    rw [hname]
  unfold describeProperty
  simp only [classify_congr h hname, hdefault, hbindable]

end Session

/-! ## Beginnings -/

/-- Entities of two sessions whose own classes begin alike on a side. -/
structure Entity.BeginsAlikeOn (side : Side) (s s' : Session) (e e' : Entity) : Prop extends
    Entity.AlikeOn side s s' e e' where
  rootNode : e.rootNode = e'.rootNode
  visible : side = .client → List.Forall₂ (fun p p' => p.type = p'.type) e.visible e'.visible

namespace Builder

variable {s s' : Session} {e e' : Entity} {t : Target} {side : Side}

theorem openFrame_agrees (he : Entity.BeginsAlikeOn t.side s s' e e') :
    Agrees (ClassFrame.AlikeOn t.side) (openFrame s e t) (openFrame s' e' t) := by
  unfold openFrame
  rw [he.packageFor t rfl, he.rootNode, he.className t rfl]
  refine (agrees_of_eq (R := Eq) (fun _ => rfl) rfl).bind fun package package' hpackage => ?_
  refine (agrees_of_eq (R := Eq) (fun _ => rfl) rfl).bind fun node node' hnode => ?_
  exact .ok ⟨he.name, hpackage, rfl, hnode, rfl, rfl, .nil, .nil⟩

theorem addProperty_agrees {p p' : Property} {f f' : ClassFrame} (hp : p.AlikeOn side p')
    (hf : f.AlikeOn side f') :
    Agrees (ClassFrame.AlikeOn side) (addProperty p f) (addProperty p' f') := by
  have hattributes : List.Forall₂ (Property.AlikeOn side) (f.attributes ++ [p])
      (f'.attributes ++ [p']) := List.rel_append hf.attributes (.cons hp .nil)
  have helements : List.Forall₂ (Property.AlikeOn side) (f.elements ++ [p])
      (f'.elements ++ [p']) := List.rel_append hf.elements (.cons hp .nil)
  unfold addProperty
  rw [hp.isHidden, hp.node, hf.entity, hp.name]
  cases p'.isHidden .marshalling with
  | true => exact .ok hf
  | false =>
    cases p'.node.isAttribute with
    | false => exact .ok { hf with elements := helements }
    | true =>
      by_cases hbasic : p'.category = .basic
      · have hbasic' : p.category = .basic := hp.category.basic_iff.2 hbasic
        simp only [hbasic, hbasic', ne_eq, not_true_eq_false, if_false, if_true,
          Bool.false_eq_true]
        exact .ok { hf with attributes := hattributes }
      · have hbasic' : ¬p.category = .basic := fun h => hbasic (hp.category.basic_iff.1 h)
        simp only [hbasic, hbasic', ne_eq, not_false_eq_true, if_false, if_true,
          Bool.false_eq_true]
        exact .error _

end Builder

/-! ## Drafts -/

/-- Drafts that a side does not tell apart. -/
inductive Draft.AlikeOn : Side → Draft → Draft → Prop
  | model (m : ClientModel) : AlikeOn .client (.model m) (.model m)
  | clientBuilder {f f' : ClassFrame} (h : f.AlikeOn .client f') :
      AlikeOn .client (.clientBuilder f) (.clientBuilder f')
  | serverBuilder {f f' : ClassFrame} (h : f.AlikeOn .server f') :
      AlikeOn .server (.serverBuilder f) (.serverBuilder f')

namespace Draft

variable {s s' : Session} {e e' : Entity} {t : Target} {side : Side} {d d' : Draft}

theorem start_agrees (hs : s.AlikeOn t.side s') (he : Entity.BeginsAlikeOn t.side s s' e e') :
    Agrees (AlikeOn t.side) (start s e t) (start s' e' t) := by
  cases t with
  | clientModel =>
    have hopening : ClientModel.opening s e = ClientModel.opening s' e' :=
      ClientModel.opening_congr hs he.toAlikeOn (he.visible rfl)
    refine (agrees_of_eq (R := Eq) (fun _ => rfl) hopening).map ?_
    rintro m _ rfl
    exact .model m
  | clientBuilder => exact (Builder.openFrame_agrees he).map fun _ _ h => .clientBuilder h
  | serverBuilder => exact (Builder.openFrame_agrees he).map fun _ _ h => .serverBuilder h

theorem receive_agrees (hs : s.AlikeOn side s') (hd : d.AlikeOn side d') {p p' : Property}
    (hp : p.AlikeOn side p') : Agrees (AlikeOn side) (d.receive s p) (d'.receive s' p') := by
  cases hd with
  | model m =>
    have hadd : addVisible s p m = addVisible s' p' m := by
      unfold addVisible
      rw [hp.isHidden, ClientModel.add_congr hs hp]
    refine .ok ?_
    rw [hadd]
    exact .model _
  | clientBuilder h => exact (Builder.addProperty_agrees hp h).map fun _ _ h => .clientBuilder h
  | serverBuilder h => exact (Builder.addProperty_agrees hp h).map fun _ _ h => .serverBuilder h

theorem finish_congr (hs : s.AlikeOn side s') (hd : d.AlikeOn side d') :
    d.finish s = d'.finish s' := by
  cases hd with
  | model m => exact congrArg _ (ClientModel.finish_congr hs m)
  | clientBuilder h => exact Client.regards_dialect.render_congr hs h
  | serverBuilder h => exact Server.regards_dialect.render_congr hs h

/-- For one target, it is enough that everything is alike on the side of the target. -/
theorem ofTarget_congr (hs : s.AlikeOn t.side s') (he : Entity.BeginsAlikeOn t.side s s' e e')
    {ps ps' : List Property} (hps : List.Forall₂ (Property.AlikeOn t.side) ps ps') :
    ofTarget s ps e t = ofTarget s' ps' e' t := by
  have hreceived : Agrees (AlikeOn t.side) (start s e t >>= receives s ps)
      (start s' e' t >>= receives s' ps') := by
    refine (start_agrees hs he).bind fun d d' hd => ?_
    exact agrees_foldlM (S := Property.AlikeOn t.side)
      (fun _ _ _ _ hd hp => receive_agrees hs hd hp) hps hd
  have hfinish : Agrees Eq (start s e t >>= receives s ps >>= finish s)
      (start s' e' t >>= receives s' ps' >>= finish s') := by
    refine hreceived.bind fun d d' hd => ?_
    exact agrees_of_eq (fun _ => rfl) (finish_congr hs hd)
  rw [bind_assoc, bind_assoc] at hfinish
  show (start s e t >>= fun d => receives s ps d >>= finish s) =
    start s' e' t >>= fun d => receives s' ps' d >>= finish s'
  exact hfinish.eq

/-! ## Several targets -/

/-- The properties that are not hidden. -/
def shown (ps : List Property) : List Property := ps.filter fun p => !p.isHidden .marshalling

theorem receive_of_isHidden {p : Property} (h : p.isHidden .marshalling = true) (d : Draft) :
    d.receive s p = .ok d := by
  cases d with
  | model m =>
    have hadd : addVisible s p m = m := if_pos h
    show Except.ok (model (addVisible s p m)) = _
    rw [hadd]
  | clientBuilder f =>
    have hadd : Builder.addProperty p f = .ok f := if_pos h
    show (Builder.addProperty p f).map clientBuilder = _
    rw [hadd]
    rfl
  | serverBuilder f =>
    have hadd : Builder.addProperty p f = .ok f := if_pos h
    show (Builder.addProperty p f).map serverBuilder = _
    rw [hadd]
    rfl

/-- Hidden properties add nothing to any draft. -/
theorem receiveAll_shown (ps : List Property) (ds : List Draft) :
    receiveAll s ps ds = receiveAll s (shown ps) ds := by
  induction ps generalizing ds with
  | nil => rfl
  | cons p ps ih =>
    unfold shown receiveAll
    rw [List.filter_cons, List.foldlM_cons]
    cases h : p.isHidden .marshalling with
    | true =>
      have hds : ds.mapM (receive s p) = .ok ds := by
        induction ds with
        | nil => rfl
        | cons d ds ihds =>
          rw [List.mapM_cons, receive_of_isHidden h, ihds]
          rfl
      rw [hds]
      exact ih ds
    | false =>
      simp only [Bool.not_false, if_true, List.foldlM_cons]
      exact congrArg (ds.mapM (receive s p) >>= ·) (funext ih)

section Sides
variable (hs : ∀ side, s.AlikeOn side s')
include hs

theorem receiveAll_agrees {ps ps' : List Property}
    (hps : List.Forall₂ (fun p p' => ∀ side, p.AlikeOn side p') ps ps') {ds ds' : List Draft}
    (hds : List.Forall₂ (fun d d' => ∃ side, AlikeOn side d d') ds ds') :
    Agrees (List.Forall₂ fun d d' => ∃ side, AlikeOn side d d') (receiveAll s ps ds)
      (receiveAll s' ps' ds') := by
  refine agrees_foldlM (S := fun p p' => ∀ side, p.AlikeOn side p') (fun ds ds' p p' hds hp => ?_)
    hps hds
  refine agrees_mapM (fun d d' hd => ?_) hds
  obtain ⟨side, hd⟩ := hd
  exact (receive_agrees (hs side) hd (hp side)).imp fun _ _ h => ⟨side, h⟩

theorem finishAll_congr {ds ds' : List Draft}
    (hds : List.Forall₂ (fun d d' => ∃ side, AlikeOn side d d') ds ds') :
    finishAll s ds = finishAll s' ds' := by
  induction hds with
  | nil => rfl
  | cons hd _ ih =>
    obtain ⟨side, hd⟩ := hd
    unfold finishAll
    rw [finish_congr (hs side) hd, ih]

theorem classesOf_congr {r r' : Except Failure (List Draft)}
    (h : Agrees (List.Forall₂ fun d d' => ∃ side, AlikeOn side d d') r r') :
    classesOf s r = classesOf s' r' := by
  cases h with
  | error failure => rfl
  | ok h => exact finishAll_congr hs h

theorem begins_agrees (he : ∀ side, Entity.BeginsAlikeOn side s s' e e') (h : Handler) :
    Agrees (fun d d' => ∃ side, AlikeOn side d d') (h.begins s e) (h.begins s' e') := by
  unfold Handler.begins
  refine (agrees_of_eq (R := Eq) (fun _ => rfl) rfl).bind fun _ _ _ => ?_
  exact (start_agrees (hs _) (he _)).imp fun _ _ h => ⟨_, h⟩

/-- Entities that are alike on both sides, and whose descriptions show alike properties or fail with
one failure, have the same classes. -/
theorem ofHandlers_congr (he : ∀ side, Entity.BeginsAlikeOn side s s' e e')
    (hps : Agrees (fun ps ps' => List.Forall₂ (fun p p' => ∀ side, p.AlikeOn side p')
      (shown ps) (shown ps')) (s.describe e) (s'.describe e')) (handlers : List Handler) :
    ofHandlers s handlers e = ofHandlers s' handlers e' := by
  have hbegun : Agrees (List.Forall₂ fun d d' => ∃ side, AlikeOn side d d')
      (handlers.mapM (Handler.begins s e)) (handlers.mapM (Handler.begins s' e')) := by
    refine agrees_mapM (R := Eq) (fun h h' heq => ?_) (List.forall₂_same.2 fun _ _ => rfl)
    rw [← heq]
    exact begins_agrees hs he h
  refine classesOf_congr hs (hps.bind fun ps ps' hps => hbegun.bind fun ds ds' hds => ?_)
  rw [receiveAll_shown ps, receiveAll_shown ps']
  exact receiveAll_agrees hs hps hds

end Sides

/-- Runs over entities of which each pair has the same classes. -/
theorem ofRun_congr {es es' : List Entity}
    (h : List.Forall₂ (fun e e' => ∀ hs, ofHandlers s hs e = ofHandlers s' hs e') es es')
    (hs : List Handler) : ofRun s hs es = ofRun s' hs es' := by
  have hentities {es es' : List Entity}
      (h : List.Forall₂ (fun e e' => ∀ hs, ofHandlers s hs e = ofHandlers s' hs e') es es')
      (ts : List Target) : ofEntities s ts es = ofEntities s' ts es' := by
    induction h with
    | nil => rfl
    | cons he _ ih =>
      have hentity := he (ts.map Handler.fresh)
      rw [ofHandlers_map_fresh, ofHandlers_map_fresh] at hentity
      rw [ofEntities_eq, ofEntities_eq, ih, hentity]
  cases h with
  | nil => rfl
  | cons he hrest =>
    rw [ofRun, ofRun, he, hentities hrest]

end Draft

end XmlBinding
