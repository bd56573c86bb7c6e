import XmlBinding.ClientModel
import XmlBinding.Proofs.Results
import XmlBinding.Proofs.Side

/-!
# Models show what the client sees

* `ClientModel.add_congr`, `finish_congr` : what a property adds to a model, and its end;
* `Entity.visible e` : the properties whose types a model imports;
* `ClientModel.opening_congr` : the beginning of a model.
-/

namespace XmlBinding

/-- The properties that no mark of transience hides. -/
def Entity.visible (e : Entity) : List BeanProperty :=
  e.properties.filter fun p => p.descriptor.transience.isNone

namespace ClientModel

variable {s s' : Session}

section Alike
variable (hs : s.AlikeOn .client s')
include hs

theorem typeName_congr (t : JavaType) : typeName s t = typeName s' t := by
  unfold typeName
  rcases hs.entity?_cases t with ⟨h, h'⟩ | ⟨e, e', h, h', he⟩
  · rw [h, h']
  · rw [h, h']
    exact he.className .clientModel rfl

theorem propertySource_congr {p p' : Property} (hp : p.AlikeOn .client p') (type : String) :
    propertySource s.config p type = propertySource s'.config p' type := by
  have hindent : s.config.indent = s'.config.indent := funext hs.indent
  have hbrace : s.config.openBrace = s'.config.openBrace := funext hs.openBrace
  have hevent (event : Option String) :
      eventSource s.config event = eventSource s'.config event := by
    unfold eventSource
    rw [hindent]
  have hbindable (event : Option String) :
      bindableSource s.config event = bindableSource s'.config event := by
    unfold bindableSource
    rw [hindent]
  unfold propertySource fieldSource getterSource setterSource fieldRef
  rw [hindent, hbrace, hevent, hbindable, hs.usingUnderscore rfl, hp.name, hp.isReadOnly,
    hp.default rfl, hp.bindable rfl]

theorem add_congr {p p' : Property} (hp : p.AlikeOn .client p') (m : ClientModel) :
    m.add s p = m.add s' p' := by
  unfold add
  rw [hp.type, typeName_congr hs, propertySource_congr hs hp]

theorem finish_congr (m : ClientModel) : m.finish s = m.finish s' := by
  have hindent : s.config.indent = s'.config.indent := funext hs.indent
  unfold finish AccessStyle.classFooter
  rw [hindent]

theorem propertyImports_congr (package : String) {p p' : BeanProperty} (htype : p.type = p'.type) :
    propertyImports s package p = propertyImports s' package p' := by
  unfold propertyImports
  rw [htype]
  rcases hs.entity?_cases p'.type with ⟨h, h'⟩ | ⟨e, e', h, h', he⟩
  · rw [h, h']
  · have hname : s.modelName e = s'.modelName e' := he.className .clientModel rfl
    rw [h, h']
    dsimp only
    rw [he.packageFor .clientModel rfl, hname]

theorem imports_congr (package : String) {e e' : Entity}
    (htypes : List.Forall₂ (fun p p' => p.type = p'.type) e.visible e'.visible) :
    imports s e package = imports s' e' package := by
  have hnamed : e.visible.mapM (propertyImports s package) =
      e'.visible.mapM (propertyImports s' package) :=
    mapM_congr_forall₂ (htypes.imp fun _ _ h => propertyImports_congr hs package h)
  show (e.visible.mapM (propertyImports s package) >>= fun named => pure _) =
    e'.visible.mapM (propertyImports s' package) >>= fun named => pure _
  rw [hnamed]

/-- Entities with one name and place, whose visible properties have the same types, have models that
begin alike. -/
theorem opening_congr {e e' : Entity} (he : Entity.AlikeOn .client s s' e e')
    (htypes : List.Forall₂ (fun p p' => p.type = p'.type) e.visible e'.visible) :
    opening s e = opening s' e' := by
  have hindent : s.config.indent = s'.config.indent := funext hs.indent
  have hbrace : s.config.openBrace = s'.config.openBrace := funext hs.openBrace
  have hdoc : docComment s.config = docComment s'.config := by
    funext text level
    exact hs.docComment text level
  unfold opening AccessStyle.packageHeader AccessStyle.classHeader
  rw [he.packageFor .clientModel rfl, he.className .clientModel rfl, he.name, hs.catalog, hdoc,
    hindent, hbrace]
  refine congrArg (s'.packageFor e' .clientModel >>= ·) (funext fun package => ?_)
  rw [imports_congr hs package htypes]

end Alike

end ClientModel

end XmlBinding
