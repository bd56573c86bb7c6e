import XmlBinding.Proofs.Draft
import XmlBinding.Proofs.Generator.Files

/-!
# Client and server apart

Some settings and marks are meant for one side. The classes of the other do not depend on them.

* `Config.SameFor`, `BeanProperty.SameFor`, `Entity.SameFor`, `Session.SameFor side` : the same but
  for what is meant for the other side;
* `Session.SameFor.alikeOn`, `forall₂_describe` : once resolved, the side does not tell them apart;
* `Generator.classesFor_eq_of_sameFor` : so the classes of the side are the same.
-/

namespace XmlBinding

variable {side : Side} {s s' : Session} {e e' : Entity} {p p' : BeanProperty}

/-! ## Settings and marks for a side -/

/-- Configurations with the same settings for a side. Names of models are for the client; each side
has its own packages. -/
structure Config.SameFor (side : Side) (c c' : Config) : Prop where
  indentation : c.indentation = c'.indentation
  braceOnNewLine : c.braceOnNewLine = c'.braceOnNewLine
  builderSuffix : c.builderSuffix = c'.builderSuffix
  packages : ∀ t : Target, t.side = side → c.packages.get t = c'.packages.get t
  usingUnderscore : side = .client → c.usingUnderscore = c'.usingUnderscore
  classLead : side = .client → c.classLead = c'.classLead
  classSuffix : side = .client → c.classSuffix = c'.classSuffix

/-- Markers of lists or sets that are the same for a side. Implementations are for the server. -/
structure CollectionMarker.SameFor (side : Side) (m m' : CollectionMarker) : Prop where
  element : m.element = m'.element
  implementation : side = .server → m.implementation = m'.implementation

/-- Markers of maps that are the same for a side. Implementations are for the server. -/
structure MapMarker.SameFor (side : Side) (m m' : MapMarker) : Prop where
  key : m.key = m'.key
  entry : m.entry = m'.entry
  implementation : side = .server → m.implementation = m'.implementation

/-- Properties that are the same for a side. Bindable marks and defaults are for the client; each
side has its own directions, and without a marker a property takes part in all of them. -/
structure BeanProperty.SameFor (side : Side) (p p' : BeanProperty) : Prop where
  name : p.name = p'.name
  type : p.type = p'.type
  getter : p.getter = p'.getter
  setter : p.setter = p'.setter
  node : p.descriptor.node = p'.descriptor.node
  transience : p.descriptor.transience = p'.descriptor.transience
  lazy : ∀ d : Direction, d.side = side →
    (p.descriptor.lazy.map (·.get d)).getD false = (p'.descriptor.lazy.map (·.get d)).getD false
  list : Option.Rel (CollectionMarker.SameFor side) p.descriptor.list p'.descriptor.list
  set : Option.Rel (CollectionMarker.SameFor side) p.descriptor.set p'.descriptor.set
  map : Option.Rel (MapMarker.SameFor side) p.descriptor.map p'.descriptor.map
  bindable : side = .client → p.descriptor.bindable = p'.descriptor.bindable
  default : side = .client → p.descriptor.default = p'.descriptor.default

/-- Entities that are the same for a side. Without a marker all package slots are empty. -/
structure Entity.SameFor (side : Side) (e e' : Entity) : Prop where
  name : e.name = e'.name
  node : e.descriptor.node = e'.descriptor.node
  packages : ∀ t : Target, t.side = side →
    (e.descriptor.packages.map (·.get t)).getD "" = (e'.descriptor.packages.map (·.get t)).getD ""
  bindable : side = .client → e.descriptor.bindable = e'.descriptor.bindable
  properties : List.Forall₂ (BeanProperty.SameFor side) e.properties e'.properties

/-- Sessions that are the same for a side. -/
structure Session.SameFor (side : Side) (s s' : Session) : Prop where
  config : s.config.SameFor side s'.config
  catalog : s.catalog = s'.catalog
  entities : List.Forall₂ (fun a b => a.1 = b.1 ∧ a.2.SameFor side b.2) s.entities.entries
    s'.entities.entries

/-! ## Entities -/

namespace Entity.SameFor

theorem rootNode (he : e.SameFor side e') : e.rootNode = e'.rootNode := by
  unfold Entity.rootNode Entity.simpleName
  rw [he.node, he.name]

/-- The properties whose transience passes a test are the same. -/
theorem filter (he : e.SameFor side e') (test : Option Transience → Bool) :
    List.Forall₂ (BeanProperty.SameFor side)
      (e.properties.filter fun p => test p.descriptor.transience)
      (e'.properties.filter fun p => test p.descriptor.transience) := by
  refine List.rel_filter (fun p p' hp => ?_) he.properties
  dsimp only
  rw [hp.transience]

theorem visible (he : e.SameFor side e') :
    List.Forall₂ (fun p p' => p.type = p'.type) e.visible e'.visible :=
  (he.filter Option.isNone).imp fun _ _ hp => hp.type

theorem packageFor (hconfig : s.config.SameFor side s'.config) (he : e.SameFor side e') (t : Target)
    (ht : t.side = side) : s.packageFor e t = s'.packageFor e' t := by
  -- A missing marker and an empty slot both leave the choice to the configuration.
  have hslot (s : Session) (e : Entity) : s.declarationFor e t =
      let slot := (e.descriptor.packages.map (·.get t)).getD ""
      if slot.isEmpty then s.config.packages.get t else slot := by
    unfold Session.declarationFor
    cases e.descriptor.packages <;> rfl
  unfold Session.packageFor Entity.package
  rw [hslot, hslot, he.packages t ht, hconfig.packages t ht, he.name]

theorem className (hconfig : s.config.SameFor side s'.config) (he : e.SameFor side e') (t : Target)
    (ht : t.side = side) : s.className e t = s'.className e' t := by
  have hmodel (hclient : side = .client) : s.modelName e = s'.modelName e' := by
    unfold Session.modelName Config.modelName Entity.simpleName
    rw [hconfig.classLead hclient, hconfig.classSuffix hclient, he.name]
  unfold Session.className
  cases t with
  | clientModel => exact hmodel ht.symm
  | clientBuilder => exact congrArg₂ (· ++ ·) (hmodel ht.symm) hconfig.builderSuffix
  | serverBuilder =>
    unfold Entity.simpleName
    dsimp only
    rw [hconfig.builderSuffix, he.name]

/-- The classes of a side have the same names and places. -/
theorem beginsAlikeOn (hconfig : s.config.SameFor side s'.config) (he : e.SameFor side e') :
    Entity.BeginsAlikeOn side s s' e e' where
  name := he.name
  packageFor := he.packageFor hconfig
  className := he.className hconfig
  rootNode := he.rootNode
  visible := fun _ => he.visible

end Entity.SameFor

theorem Session.SameFor.alikeOn (hs : s.SameFor side s') : s.AlikeOn side s' where
  indentation := hs.config.indentation
  braceOnNewLine := hs.config.braceOnNewLine
  usingUnderscore := hs.config.usingUnderscore
  catalog := hs.catalog
  entity? := fun t => by
    cases t with
    | primitive | array => exact .none
    | reference q =>
      refine SortedMap.rel_find? (hs.entities.imp fun a b hab => ?_) q
      exact ⟨hab.1, (hab.2.beginsAlikeOn hs.config).toAlikeOn⟩

/-! ## Properties -/

namespace Session

theorem collectionCategory_alike {kind : CollectionKind} {m m' : CollectionMarker}
    (hname : e.name = e'.name) (hm : m.SameFor side m') {c c' : Category}
    (h : collectionCategory e p kind m = .ok c) (h' : collectionCategory e' p' kind m' = .ok c') :
    c.AlikeOn side c' := by
  unfold collectionCategory at h h'
  rw [hm.element, markerType_congr hname] at h
  cases helement : m'.element with
  | none =>
    rw [helement] at h
    cases h
  | some element =>
    rw [helement] at h h'
    obtain ⟨type, htype, h⟩ := bind_eq_ok.1 h
    obtain ⟨i, hi, h⟩ := bind_eq_ok.1 h
    obtain ⟨type', htype', h'⟩ := bind_eq_ok.1 h'
    obtain ⟨i', hi', h'⟩ := bind_eq_ok.1 h'
    cases h
    cases h'
    cases htype.symm.trans htype'
    refine .collection kind type fun hserver => ?_
    rw [hm.implementation hserver] at hi
    exact Except.ok.inj (hi.symm.trans hi')

theorem mapCategory_alike {m m' : MapMarker} (hname : e.name = e'.name) (hm : m.SameFor side m')
    {c c' : Category} (h : mapCategory e p m = .ok c) (h' : mapCategory e' p' m' = .ok c') :
    c.AlikeOn side c' := by
  unfold mapCategory at h h'
  rw [hm.key, hm.entry, markerType_congr hname] at h
  generalize m'.key = key, m'.entry = entry at h h'
  match key, entry with
  | none, _ | some _, none => cases h
  | some key, some entry =>
    obtain ⟨keyType, hkey, h⟩ := bind_eq_ok.1 h
    obtain ⟨entryType, hentry, h⟩ := bind_eq_ok.1 h
    obtain ⟨i, hi, h⟩ := bind_eq_ok.1 h
    obtain ⟨keyType', hkey', h'⟩ := bind_eq_ok.1 h'
    obtain ⟨entryType', hentry', h'⟩ := bind_eq_ok.1 h'
    obtain ⟨i', hi', h'⟩ := bind_eq_ok.1 h'
    cases h
    cases h'
    cases hkey.symm.trans hkey'
    cases hentry.symm.trans hentry'
    refine .map keyType entryType fun hserver => ?_
    rw [hm.implementation hserver] at hi
    exact Except.ok.inj (hi.symm.trans hi')

theorem classify_alike (hentity : s.isEntity = s'.isEntity) (hname : e.name = e'.name)
    (hp : p.SameFor side p') {c c' : Category} (h : s.classify e p = .ok c)
    (h' : s'.classify e' p' = .ok c') : c.AlikeOn side c' := by
  -- Markers are on both properties or on neither, so both take the same branch.
  have hlist := hp.list
  have hset := hp.set
  have hmap := hp.map
  unfold classify at h h'
  rw [hp.type, hentity] at h
  generalize p.descriptor.list = list, p'.descriptor.list = list' at hlist h h'
  generalize p.descriptor.set = set, p'.descriptor.set = set' at hset h h'
  generalize p.descriptor.map = map, p'.descriptor.map = map' at hmap h h'
  generalize p'.type.component? = component?, p'.type.isMap = isMap,
    p'.type.isCollection = isCollection at h h'
  cases component? with
  | some component =>
    cases h
    cases h'
    exact .array component
  | none =>
    cases isMap with
    | true =>
      cases hmap with
      | none =>
        cases h
        cases h'
        exact .basic
      | some hm => exact mapCategory_alike hname hm h h'
    | false =>
      cases isCollection with
      | true =>
        cases hlist with
        | some hm => exact collectionCategory_alike hname hm h h'
        | none =>
          cases hset with
          | some hm => exact collectionCategory_alike hname hm h h'
          | none =>
            cases h
            cases h'
            exact .basic
      | false =>
        simp only [Bool.false_eq_true, if_false] at h h'
        cases h.symm.trans h'
        exact .refl side c

theorem describeProperty_alike (hentity : s.isEntity = s'.isEntity) (he : e.SameFor side e')
    (hp : p.SameFor side p') {q q' : Property} (h : s.describeProperty e p = .ok q)
    (h' : s'.describeProperty e' p' = .ok q') : q.AlikeOn side q' := by
  have hcategory : q.category.AlikeOn side q'.category :=
    classify_alike hentity he.name hp (of_describeProperty h).1 (of_describeProperty h').1
  rw [eq_of_describeProperty h, eq_of_describeProperty h']
  exact {
    name := hp.name
    type := hp.type
    getter := hp.getter
    setter := hp.setter
    category := hcategory
    node := congrArg₂ NodeBinding.resolve hp.name hp.node
    transience := hp.transience
    synthetic := rfl
    isLazy := hp.lazy
    bindable := fun hclient =>
      congrArg₂ (fun own all => own <|> all) (hp.bindable hclient) (he.bindable hclient)
    default := hp.default }

/-- Descriptions that succeed are alike on the side. -/
theorem forall₂_describe (hs : s.SameFor side s') (he : e.SameFor side e') {ps ps' : List Property}
    (h : s.describe e = .ok ps) (h' : s'.describe e' = .ok ps') :
    List.Forall₂ (Property.AlikeOn side) ps ps' := by
  have hentity : s.isEntity = s'.isEntity := funext hs.alikeOn.isEntity
  refine forall₂_of_mapM (fun p p' q q' (hp : p.SameFor side p') hq hq' => ?_)
    (he.filter fun transience => transience ≠ some .everywhere) h h'
  exact describeProperty_alike hentity he hp hq hq'

end Session

theorem Draft.IsClassOf.eq_of_sameFor {t : Target} {c c' : GeneratedClass}
    (hs : s.SameFor t.side s') (he : e.SameFor t.side e') (h : IsClassOf s e t c)
    (h' : IsClassOf s' e' t c') : c = c' := by
  obtain ⟨ps, hps, hc⟩ := h
  obtain ⟨ps', hps', hc'⟩ := h'
  have hsame : ofTarget s ps e t = ofTarget s' ps' e' t :=
    ofTarget_congr hs.alikeOn (he.beginsAlikeOn hs.config) (Session.forall₂_describe hs he hps hps')
  exact Except.ok.inj (hc.symm.trans (hsame.trans hc'))

/-! ## Classes of a side -/

def Production.classesFor (side : Side) (r : Production) : List GeneratedClass :=
  r.classes.filter fun c => c.target.side = side

namespace Generator

variable {g g' : Generator}

theorem forall₂_outputs_sameFor (hs : g.session.SameFor side g'.session)
    (ht : g.targets = g'.targets) :
    List.Forall₂ (fun o o' => o.2 = o'.2 ∧ o.1.SameFor side o'.1) g.outputs g'.outputs := by
  unfold outputs Draft.outputs
  rw [← ht]
  have hvalues : List.Forall₂ (Entity.SameFor side) g.session.entities.values
      g'.session.entities.values :=
    List.rel_map (fun _ _ hab => hab.2) hs.entities
  refine List.rel_flatMap hvalues fun e e' he => ?_
  rw [List.forall₂_map_left_iff, List.forall₂_map_right_iff, List.forall₂_same]
  exact fun t _ => ⟨rfl, he⟩

/-- Where two generators succeed, what is meant for one side has no influence on the classes of the
other: those are the same, in the same packages and in the same order. -/
theorem classesFor_eq_of_sameFor (hs : g.session.SameFor side g'.session)
    (ht : g.targets = g'.targets) {count count' : Nat} (h : g.produce.outcome = .ok count)
    (h' : g'.produce.outcome = .ok count') :
    g.produce.classesFor side = g'.produce.classesFor side := by
  -- Each class stands with the output of the other generator for the same entity and target.
  have hpairs : List.Forall₂ (fun c o' => ∃ o : Entity × Target,
      Draft.IsClassOf g.session o.1 o.2 c ∧ o.2 = o'.2 ∧ o.1.SameFor side o'.1)
      g.produce.classes g'.outputs :=
    forall₂_trans (fun c o o' hc ho => ⟨o, hc, ho⟩) (forall₂_outputs_of_ok h).flip
      (forall₂_outputs_sameFor hs ht)
  refine filter_eq_of_forall₂ (forall₂_trans (fun c o' c' hc hc' => ?_) hpairs
    (forall₂_outputs_of_ok h'))
  obtain ⟨o, hc, htarget, he⟩ := hc
  have hplace : c.target = o.2 := hc.places.target
  rw [hc'.places.target, ← htarget, hplace]
  refine ⟨rfl, fun hside => ?_⟩
  cases of_decide_eq_true hside
  rw [← htarget] at hc'
  exact hc.eq_of_sameFor hs he hc'

/-! ## A ledger with other settings -/

def amounts (lazy : LazyMarker) (implementation bindable default : Option String) : BeanProperty :=
  ⟨"amounts", .reference "java.util.List", "getAmounts", some "setAmounts",
    ⟨"amounts", "java.util.List", true, none, some lazy,
      some ⟨some "java.lang.Integer", implementation⟩, none, none, none, bindable, default⟩⟩

def ledger (packages : PackageSlots) (p : BeanProperty) : Entity :=
  ⟨⟨"shop.Ledger", none, false, none, some packages, [p.descriptor]⟩, [p]⟩

def ofLedger (config : Config) (packages : PackageSlots) (p : BeanProperty) : Generator :=
  (new config none).withAllHandlers.add (ledger packages p)

variable {config config' : Config} {packages packages' : PackageSlots} {p p' : BeanProperty}

theorem reachable_ofLedger (config : Config) (packages : PackageSlots) (p : BeanProperty) :
    Reachable config none (ofLedger config packages p) :=
  (reachable_withAllHandlers _ _).register (.entity (ledger packages p))

theorem entries_ofLedger (config : Config) (packages : PackageSlots) (p : BeanProperty) :
    (ofLedger config packages p).session.entities.entries =
      [("shop.Ledger", ledger packages p)] := rfl

theorem exists_outcome_ofLedger {lazy : LazyMarker}
    {implementation bindable default : Option String}
    (hp : p = amounts lazy implementation bindable default)
    (hplaced : ∀ t,
      ((ofLedger config packages p).session.packageFor (ledger packages p) t).isOk = true)
    (hdescribed : ((ofLedger config packages p).session.describe (ledger packages p)).isOk = true) :
    ∃ count, (ofLedger config packages p).produce.outcome = .ok count := by
  refine (reachable_ofLedger config packages p).exists_outcome rfl fun e he => ?_
  rw [SortedMap.values, entries_ofLedger] at he
  rw [List.mem_singleton.1 he]
  obtain ⟨ps, hps⟩ := exists_ok_of_isOk hdescribed
  refine Session.generable_of_placed (fun t => exists_ok_of_isOk (hplaced t)) rfl hps fun q hq => ?_
  obtain ⟨p', hp', hpq⟩ := Session.mem_describe hps hq
  cases (List.mem_singleton.1 hp').trans hp
  refine ⟨?_, fun key entry i hmap => ?_⟩
  · rw [Session.eq_of_describeProperty hpq]
    rfl
  · have hcategory : Session.collectionCategory (ledger packages p)
        (amounts lazy implementation bindable default) .list
        ⟨some "java.lang.Integer", implementation⟩ = .ok q.category :=
      (Session.of_describeProperty hpq).1
    obtain ⟨_, -, hcategory⟩ := bind_eq_ok.1 hcategory
    obtain ⟨_, -, hcategory⟩ := bind_eq_ok.1 hcategory
    rw [hmap] at hcategory
    cases hcategory

theorem ofLedger_sameFor (hconfig : config.SameFor side config')
    (hlocale : config.locale = config'.locale)
    (hpackages : ∀ t : Target, t.side = side → packages.get t = packages'.get t)
    (hp : p.SameFor side p') :
    (ofLedger config packages p).session.SameFor side (ofLedger config' packages' p').session := by
  have hkept := (reachable_ofLedger config packages p).wellKept
  have hkept' := (reachable_ofLedger config' packages' p').wellKept
  have hledger : (ledger packages p).SameFor side (ledger packages' p') :=
    ⟨rfl, rfl, hpackages, fun _ => rfl, .cons hp .nil⟩
  refine ⟨?_, ?_, ?_⟩
  · rw [hkept.configured, hkept'.configured]
    exact hconfig
  · rw [hkept.worded, hkept'.worded, hlocale]
  · rw [entries_ofLedger, entries_ofLedger]
    exact .cons ⟨rfl, hledger⟩ .nil

/-- Ledgers that share what is meant for the server have the same server builder; ledgers that share
what is meant for the client have the same model and the same client builder. -/
theorem classesFor_ofLedger :
    let lazy (serverRead clientRead : Bool) : LazyMarker := ⟨serverRead, false, clientRead, false⟩
    let g := ofLedger .standard ⟨"", "", ""⟩ (amounts (lazy false false) none none none)
    let client := ofLedger
      { Config.standard with
        classLead := some "C"
        usingUnderscore := false
        packages := ⟨"/client", "/client.xml", "."⟩ }
      ⟨"", "/client.ledger", ""⟩ (amounts (lazy false true) none (some "changed") (some "new"))
    let server := ofLedger { Config.standard with packages := ⟨".", ".", "/server"⟩ }
      ⟨"", "", "/server.ledger"⟩ (amounts (lazy true false) (some "java.util.LinkedList") none none)
    g.produce.classesFor .server = client.produce.classesFor .server ∧
    g.produce.classesFor .client = server.produce.classesFor .client := by
  intro lazy g client server
  have placed {r : Target → Except Failure String} (h : ∀ t ∈ Target.all, (r t).isOk = true)
      (t : Target) : (r t).isOk = true := h t (by cases t <;> decide)
  obtain ⟨count, hg⟩ : ∃ count, g.produce.outcome = .ok count :=
    exists_outcome_ofLedger rfl (placed (by decide +kernel)) (by decide +kernel)
  obtain ⟨count', hclient⟩ : ∃ count, client.produce.outcome = .ok count :=
    exists_outcome_ofLedger rfl (placed (by decide +kernel)) (by decide +kernel)
  obtain ⟨count'', hserver⟩ : ∃ count, server.produce.outcome = .ok count :=
    exists_outcome_ofLedger rfl (placed (by decide +kernel)) (by decide +kernel)
  have hforServer : g.session.SameFor .server client.session := by
    refine ofLedger_sameFor ⟨rfl, rfl, rfl, ?_, nofun, nofun, nofun⟩ rfl ?_
      ⟨rfl, rfl, rfl, rfl, rfl, rfl, ?_, .some ⟨rfl, fun _ => rfl⟩, .none, .none, nofun, nofun⟩
    · exact fun t ht => by cases t <;> first | rfl | cases ht
    · exact fun t ht => by cases t <;> first | rfl | cases ht
    · exact fun d hd => by cases d <;> first | rfl | cases hd
  have hforClient : g.session.SameFor .client server.session := by
    refine ofLedger_sameFor ⟨rfl, rfl, rfl, ?_, fun _ => rfl, fun _ => rfl, fun _ => rfl⟩ rfl ?_
      ⟨rfl, rfl, rfl, rfl, rfl, rfl, ?_, .some ⟨rfl, nofun⟩, .none, .none, fun _ => rfl,
        fun _ => rfl⟩
    · exact fun t ht => by cases t <;> first | rfl | cases ht
    · exact fun t ht => by cases t <;> first | rfl | cases ht
    · exact fun d hd => by cases d <;> first | rfl | cases hd
  exact ⟨classesFor_eq_of_sameFor hforServer rfl hg hclient,
    classesFor_eq_of_sameFor hforClient rfl hg hserver⟩

end Generator

end XmlBinding
