import XmlBinding.Proofs.Draft
import XmlBinding.Proofs.Generator.Reachable

/-!
# Hidden properties

A property that is hidden everywhere leaves no trace. One that is hidden from marshalling must have
marks that can be read; otherwise it leaves none either.

* `Entity.without`, `Session.without`, `Generator.without extent` : the same without the properties
  that are hidden to an extent;
* `Session.describe_without_everywhere`, `describe_without` : the properties that remain are
  described as before;
* `Generator.generate_without` : the same classes are generated.
-/

namespace XmlBinding

/-! ## Entities without hidden properties -/

/-- The entity without the properties that are hidden to an extent. -/
def Entity.without (extent : Transience) (e : Entity) : Entity where
  descriptor := { e.descriptor with
    properties := e.descriptor.properties.filter fun d => d.transience ≠ some extent }
  properties := e.properties.filter fun p => p.descriptor.transience ≠ some extent

/-- The session of the entities without those properties. -/
def Session.without (extent : Transience) (s : Session) : Session :=
  { s with entities := s.entities.map (Entity.without extent) }

/-- The generator of the entities without those properties. -/
def Generator.without (extent : Transience) (g : Generator) : Generator :=
  { g with session := g.session.without extent }

variable {s : Session} {e : Entity} {extent : Transience}

theorem Entity.visible_without (extent : Transience) (e : Entity) :
    (e.without extent).visible = e.visible := by
  unfold visible without
  dsimp only
  rw [List.filter_filter]
  refine List.filter_congr fun p _ => ?_
  cases p.descriptor.transience <;> simp

theorem Entity.without_beginsAlikeOn (s : Session) (e : Entity) (extent : Transience)
    (side : Side) : BeginsAlikeOn side (s.without extent) s (e.without extent) e where
  toAlikeOn := by
    have hconfig : (s.without extent).config = s.config := rfl
    have hname : (e.without extent).name = e.name := rfl
    exact alikeOn_of_marks hconfig hname rfl side
  rootNode := rfl
  visible := fun _ => by
    rw [visible_without]
    exact List.forall₂_same.2 fun _ _ => rfl

namespace Session

theorem entity?_without (extent : Transience) (s : Session) (t : JavaType) :
    (s.without extent).entity? t = (s.entity? t).map (Entity.without extent) := by
  cases t with
  | primitive | array => rfl
  | reference q => exact s.entities.find?_map (Entity.without extent) q

theorem without_alikeOn (extent : Transience) (s : Session) (side : Side) :
    (s.without extent).AlikeOn side s where
  indentation := rfl
  braceOnNewLine := rfl
  usingUnderscore := fun _ => rfl
  catalog := rfl
  entity? := fun t => by
    rw [entity?_without]
    cases s.entity? t with
    | none => exact .none
    | some e => exact .some (Entity.without_beginsAlikeOn s e extent side).toAlikeOn

theorem describeProperty_without (s : Session) (e : Entity) (extent : Transience) :
    (s.without extent).describeProperty (e.without extent) = s.describeProperty e := by
  have hisEntity : (s.without extent).isEntity = s.isEntity :=
    funext (s.without_alikeOn extent .client).isEntity
  exact funext (describeProperty_congr hisEntity rfl rfl)

/-- Properties hidden everywhere are not described in any case. -/
theorem describe_without_everywhere (s : Session) (e : Entity) :
    (s.without .everywhere).describe (e.without .everywhere) = s.describe e := by
  unfold describe
  rw [describeProperty_without]
  unfold Entity.without
  dsimp only
  rw [List.filter_filter]
  simp only [Bool.and_self]

/-- Where all properties are described, those that remain are described as before. -/
theorem describe_without {ps : List Property} (h : s.describe e = .ok ps) (extent : Transience) :
    (s.without extent).describe (e.without extent) =
      .ok (ps.filter fun q => q.transience ≠ some extent) := by
  unfold describe
  rw [describeProperty_without]
  unfold Entity.without
  dsimp only
  rw [List.filter_comm]
  refine mapM_filter (fun p q hpq => ?_) h
  rw [(of_describeProperty hpq).2.2.2]

end Session

namespace Draft

theorem shown_filter {ps : List Property} (h : s.describe e = .ok ps) (extent : Transience) :
    shown (ps.filter fun q => q.transience ≠ some extent) = shown ps := by
  unfold shown
  rw [List.filter_filter]
  refine List.filter_congr fun q hq => ?_
  rw [Session.isHidden_of_mem_describe h hq]
  cases q.transience <;> simp

/-- Handlers in any state make the same classes of an entity without hidden properties. -/
theorem ofHandlers_without (h : extent = .marshalling → ∃ ps, s.describe e = .ok ps)
    (hs : List Handler) :
    ofHandlers (s.without extent) hs (e.without extent) = ofHandlers s hs e := by
  refine ofHandlers_congr (s.without_alikeOn extent) (e.without_beginsAlikeOn s extent) ?_ hs
  have hsame (ps : List Property) :
      List.Forall₂ (fun p p' => ∀ side, Property.AlikeOn side p p') ps ps :=
    List.forall₂_same.2 fun p _ side => .refl side p
  -- What is hidden everywhere is not described; what is hidden from marshalling is, but not shown.
  cases extent with
  | everywhere => exact agrees_of_eq (fun ps => hsame (shown ps)) (s.describe_without_everywhere e)
  | marshalling =>
    obtain ⟨ps, hps⟩ := h rfl
    rw [Session.describe_without hps, hps]
    refine .ok ?_
    rw [shown_filter hps]
    exact hsame (shown ps)

end Draft

namespace Generator

theorem produce_without (g : Generator)
    (h : extent = .marshalling →
      ∀ e ∈ g.session.entities.values, ∃ ps, g.session.describe e = .ok ps) :
    (g.without extent).produce.classes = g.produce.classes ∧
      (g.without extent).produce.outcome = g.produce.outcome := by
  have hvalues : (g.without extent).session.entities.values =
      g.session.entities.values.map (Entity.without extent) :=
    g.session.entities.values_map (Entity.without extent)
  have hrun : Draft.ofRun (g.without extent).session g.handlers
      (g.session.entities.values.map (Entity.without extent)) =
      Draft.ofRun g.session g.handlers g.session.entities.values := by
    refine Draft.ofRun_congr ?_ g.handlers
    rw [List.forall₂_map_left_iff, List.forall₂_same]
    exact fun e he => Draft.ofHandlers_without fun hx => h hx e he
  obtain ⟨hclasses, houtcome⟩ := (g.without extent).produce_eq
  obtain ⟨hclasses', houtcome'⟩ := g.produce_eq
  rw [hvalues] at hclasses houtcome
  rw [List.length_map] at houtcome
  rw [hclasses, houtcome, hclasses', houtcome']
  constructor
  · exact congrArg Prod.fst hrun
  · exact congrArg (fun made => (Production.resultOf made.2).map _) hrun

/-- Without the properties that are hidden everywhere, a generator makes the same classes or fails
in the same way, and so every receiver sees the same. Without those hidden from marshalling it does
so where all entities can be described. -/
theorem generate_without (g : Generator) (extent : Transience)
    (h : extent = .marshalling →
      ∀ e ∈ g.session.entities.values, ∃ ps, g.session.describe e = .ok ps)
    {m : Type → Type} [Monad m] [LawfulMonad m]
    (receive : GeneratedClass → m (Except IoFault Unit)) :
    (g.without extent).produce.classes = g.produce.classes ∧
    (g.without extent).produce.outcome = g.produce.outcome ∧
    Prod.fst <$> (g.without extent).generate receive = Prod.fst <$> g.generate receive := by
  obtain ⟨hclasses, houtcome⟩ := g.produce_without h
  exact ⟨hclasses, houtcome, generate_congr receive ⟨hclasses, houtcome⟩⟩

/-- An order with a list that is hidden everywhere, of which no element type is known, and a note
that is hidden from marshalling. -/
theorem generate_without_note :
    let property (name type : String) (list : Option CollectionMarker)
        (transience : Option Transience) : BeanProperty :=
      ⟨name, .reference type, accessorName "get" name, some (accessorName "set" name),
        ⟨name, type, true, none, none, list, none, none, transience, none, none⟩⟩
    let id := property "id" "java.lang.Integer" none none
    let cache := property "cache" "java.util.List" (some ⟨none, none⟩) (some .everywhere)
    let note := property "note" "shop.Note" none (some .marshalling)
    let order (ps : List BeanProperty) : Entity :=
      ⟨⟨"shop.Order", none, false, none, none, ps.map (·.descriptor)⟩, ps⟩
    let g := (new .standard none).withAllHandlers.add (order [id, cache, note])
    let receive (c : GeneratedClass) : StateM (List GeneratedClass) (Except IoFault Unit) :=
      modify (· ++ [c]) *> pure (.ok ())
    let bare := (g.without .everywhere).without .marshalling
    bare.session.entities.values = [order [id]] ∧
    bare.produce.classes = g.produce.classes ∧
    Prod.fst <$> bare.generate receive = Prod.fst <$> g.generate receive := by
  intro property id cache note order g receive bare
  have hbare : bare.session.entities.values = [order [id]] := by decide +kernel
  have hvalues : (g.without .everywhere).session.entities.values = [order [id, note]] := by
    decide +kernel
  have hdescribed : ∀ e ∈ (g.without .everywhere).session.entities.values,
      ∃ ps, (g.without .everywhere).session.describe e = .ok ps := by
    rw [hvalues]
    intro e he
    rw [List.mem_singleton.1 he]
    exact exists_ok_of_isOk (by decide +kernel)
  obtain ⟨hclasses, -, hgenerate⟩ := g.generate_without .everywhere nofun receive
  obtain ⟨hclasses', -, hgenerate'⟩ :=
    (g.without .everywhere).generate_without .marshalling (fun _ => hdescribed) receive
  exact ⟨hbare, hclasses'.trans hclasses, hgenerate'.trans hgenerate⟩

end Generator

end XmlBinding
