import XmlBinding.Proofs.Client.Class
import XmlBinding.Proofs.Emission.Growth

/-!
# Client builders take nothing back

* `Client.extends_readers`, `extends_elements` : the writers of properties;
* `Client.extends_valueExpression` : the expressions that read single values;
* `Client.extends_methods`, `extends_emitHelper` : the methods of every builder and those that are
  helpers.
-/

namespace XmlBinding.Client

open Emit

variable {X : Type} {scope : Scope}

/-! ## Reading -/

theorem extends_nodeTail : Extends scope (nodeTail : Emit (Job X) String) :=
  extends_style.bind fun _ => extends_pure _

theorem extends_readScalar (lead tail var : String) (p : Property) :
    Extends scope (readScalar lead tail var p : Emit (Job X) Unit) :=
  extends_access var p lead tail none

theorem extends_readString (var : String) (p : Property) :
    Extends scope (readString var p : Emit (Job X) Unit) := by
  unfold readString
  refine extends_helperCall getString [] _ _ fun name => ?_
  dsimp only
  refine Extends.ite ?_ ?_
  · exact (extends_pure _).bind fun tail => extends_access var p _ tail none
  · exact extends_nodeTail.bind fun tail => extends_access var p _ tail none

theorem extends_readEntity (var : String) (p : Property) :
    Extends scope (readEntity var p : Emit (Job X) Unit) :=
  extends_builderCall p.type getInstance [] fun _ _ =>
    extends_nodeTail.bind fun tail => extends_access var p _ tail _

theorem extends_readBasicArray (var : String) (p : Property) :
    Extends scope (readBasicArray var p : Emit (Job X) Unit) := by
  unfold readBasicArray
  cases p.category.element? with
  | some element =>
    exact extends_helperCall getBasicArray _ _ _ fun name => extends_access var p _ _ _
  | none => exact extends_pure ()

theorem extends_readEntityArray (var : String) (p : Property) :
    Extends scope (readEntityArray var p : Emit (Job X) Unit) := by
  unfold readEntityArray
  cases p.category.element? with
  | some element =>
    exact extends_builderCall element getEntityArray [] fun _ _ => extends_access var p _ _ _
  | none => exact extends_pure ()

theorem extends_readBasicMap (var : String) (p : Property) :
    Extends scope (readBasicMap var p : Emit (Job X) Unit) := by
  unfold readBasicMap
  cases p.category with
  | map key entry implementation =>
    exact extends_helperCall getBasicMap _ _ _ fun name => extends_access var p _ _ _
  | basic | entity | array | collection => exact extends_pure ()

theorem extends_readEntityMap (var : String) (p : Property) :
    Extends scope (readEntityMap var p : Emit (Job X) Unit) := by
  unfold readEntityMap
  cases p.category with
  | map key entry implementation =>
    exact extends_builderCall entry getEntityMap [] fun _ _ => extends_access var p _ _ _
  | basic | entity | array | collection => exact extends_pure ()

theorem extends_readers :
    ∀ w ∈ (readers : PropertyRegistry (Job X)).writers, ∀ var p, Extends scope (w.emit var p) := by
  rw [readers_eq]
  simp only [List.forall_mem_cons]
  exact ⟨extends_readEntityMap, extends_readEntityArray, extends_readBasicMap, extends_readString,
    extends_readEntity, extends_readBasicArray, extends_readScalar _ _, extends_readScalar _ _,
    extends_readScalar _ _, fun w hw => nomatch hw⟩

theorem extends_valueExpression (t : JavaType) :
    Extends scope (valueExpression t : Emit (Job X) String) :=
  extends_expression extends_readers _ _ t

/-! ## Writing -/

theorem extends_writeLiteralCall (call var : String) (p : Property) :
    Extends scope (writeLiteralCall call var p : Emit (Job X) Unit) :=
  extends_line _ _

theorem extends_writeEntityMap (var : String) (p : Property) :
    Extends scope (writeEntityMap var p : Emit (Job X) Unit) := by
  unfold writeEntityMap
  cases p.category with
  | map key entry implementation =>
    exact extends_builderCall entry _ _ fun _ _ => extends_writeLiteralCall _ var p
  | basic | entity | array | collection => exact extends_pure ()

theorem extends_writeBasicMap (var : String) (p : Property) :
    Extends scope (writeBasicMap var p : Emit (Job X) Unit) :=
  extends_helperCall _ _ _ _ fun name => extends_writeLiteralCall name var p

theorem extends_writeArray (var : String) (p : Property) :
    Extends scope (writeArray var p : Emit (Job X) Unit) := by
  unfold writeArray
  cases p.category.element? with
  | some element =>
    refine (extends_isEntity element).bind fun _ => ?_
    dsimp only
    refine Extends.ite ?_ ?_
    · refine extends_builderCall element _ _ fun _ _ => ?_
      exact (extends_pure _).bind fun call => extends_writeLiteralCall call var p
    · exact (extends_methodName _ _).bind fun call => extends_writeLiteralCall call var p
  | none => exact extends_pure ()

theorem extends_writeEntity (var : String) (p : Property) :
    Extends scope (writeEntity var p : Emit (Job X) Unit) :=
  extends_builderCall p.type _ _ fun _ _ => extends_writeLiteralCall _ var p

theorem extends_writeBasic (var : String) (p : Property) :
    Extends scope (writeBasic var p : Emit (Job X) Unit) :=
  (extends_methodName _ _).bind fun name => extends_writeLiteralCall name var p

theorem extends_elements :
    ∀ w ∈ (elements : PropertyRegistry (Job X)).writers, ∀ var p, Extends scope (w.emit var p) := by
  rw [elements_eq]
  simp only [List.forall_mem_cons]
  exact ⟨extends_writeEntityMap, extends_writeBasicMap, extends_writeArray, extends_writeEntity,
    extends_writeBasic, fun w hw => nomatch hw⟩

/-! ## Methods that read -/

theorem extends_modelName : Extends scope (modelName : Emit (Job X) String) :=
  extends_frame.bind fun _ => extends_classRef _ _

theorem extends_emitGetInstance : Extends scope (emitGetInstance : Emit (Job X) Unit) := by
  unfold emitGetInstance
  refine extends_frame.bind fun frame => extends_modelName.bind fun model => ?_
  refine (extends_beginMethod _ _ _).bind fun name => (extends_openBlock 2 _).bind fun _ => ?_
  refine (extends_line 3 _).bind fun _ => (extends_line 3 _).bind fun _ => ?_
  refine (extends_writeProperties extends_readers "o" _ _).bind fun _ => ?_
  refine (extends_writeProperties extends_readers "o" _ _).bind fun _ => ?_
  exact (extends_line 3 _).bind fun _ => extends_closeBrace 2

theorem extends_emitChildrenLoop (name type target statement : String) :
    Extends scope (emitChildrenLoop name type target statement : Emit (Job X) Unit) := by
  unfold emitChildrenLoop
  refine (extends_openBlock 2 _).bind fun _ => (extends_line 3 _).bind fun _ => ?_
  refine (extends_line 3 _).bind fun _ => (extends_openBlock 3 _).bind fun _ => ?_
  refine (extends_line 4 statement).bind fun _ => (extends_closeBrace 3).bind fun _ => ?_
  exact (extends_line 3 _).bind fun _ => extends_closeBrace 2

theorem extends_emitGetEntityArray : Extends scope (emitGetEntityArray : Emit (Job X) Unit) := by
  unfold emitGetEntityArray
  refine extends_modelName.bind fun model => (extends_methodName _ _).bind fun single => ?_
  exact (extends_beginMethod _ _ _).bind fun name => extends_emitChildrenLoop _ _ _ _

theorem extends_emitGetEntityMap : Extends scope (emitGetEntityMap : Emit (Job X) Unit) := by
  unfold emitGetEntityMap
  refine extends_modelName.bind fun model => (extends_methodName _ _).bind fun single => ?_
  exact (extends_beginMethod _ _ _).bind fun name => extends_emitChildrenLoop _ _ _ _

theorem extends_emitGetString : Extends scope (emitGetString : Emit (Job X) Unit) := by
  unfold emitGetString
  refine (extends_beginMethod _ _ _).bind fun name => (extends_openBlock 2 _).bind fun _ => ?_
  exact (extends_line 3 _).bind fun _ => (extends_line 3 _).bind fun _ => extends_closeBrace 2

theorem extends_emitGetBasicArray (element : JavaType) :
    Extends scope (emitGetBasicArray element : Emit (Job X) Unit) := by
  unfold emitGetBasicArray
  refine (extends_valueExpression element).bind fun value => ?_
  exact (extends_beginMethod _ _ _).bind fun name => extends_emitChildrenLoop _ _ _ _

theorem extends_emitGetBasicMap (entry : JavaType) :
    Extends scope (emitGetBasicMap entry : Emit (Job X) Unit) := by
  unfold emitGetBasicMap
  refine (extends_valueExpression entry).bind fun value => ?_
  exact (extends_beginMethod _ _ _).bind fun name => extends_emitChildrenLoop _ _ _ _

/-! ## Methods that write -/

theorem extends_emitGetXml : Extends scope (emitGetXml : Emit (Job X) Unit) := by
  unfold emitGetXml
  refine extends_frame.bind fun frame => extends_modelName.bind fun model => ?_
  refine (extends_beginMethod _ _ _).bind fun name => (extends_openBlock 2 _).bind fun _ => ?_
  refine (extends_line 3 _).bind fun _ => ?_
  refine (extends_writeProperties extends_elements "o" _ _).capture.bind fun written => ?_
  have hend : Extends scope
      (line 3 "if(name != null) el.setName(name);" >>= fun _ =>
        line 3 "return el;" >>= fun _ => closeBrace 2 : Emit (Job X) Unit) :=
    (extends_line 3 _).bind fun _ => (extends_line 3 _).bind fun _ => extends_closeBrace 2
  dsimp only
  refine Extends.ite ?_ ?_
  · exact (extends_line 3 _).bind fun _ => hend
  · refine (extends_line 3 _).bind fun _ => (extends_write _).bind fun _ => ?_
    exact (extends_line 3 _).bind fun _ => hend

theorem extends_emitGetBasicXml : Extends scope (emitGetBasicXml : Emit (Job X) Unit) := by
  unfold emitGetBasicXml
  refine (extends_beginMethod _ _ _).bind fun name => (extends_openBlock 2 _).bind fun _ => ?_
  exact (extends_line 3 _).bind fun _ => (extends_line 3 _).bind fun _ => extends_closeBrace 2

theorem extends_emitListXml (name parameter type header : String) (statements : List String) :
    Extends scope (emitListXml name parameter type header statements : Emit (Job X) Unit) := by
  unfold emitListXml
  refine (extends_openBlock 2 _).bind fun _ => (extends_line 3 _).bind fun _ => ?_
  refine (extends_line 3 _).bind fun _ => (extends_openBlock 3 _).bind fun _ => ?_
  refine (extends_lines 4 statements).bind fun _ => (extends_closeBrace 3).bind fun _ => ?_
  exact (extends_line 3 _).bind fun _ => extends_closeBrace 2

theorem extends_emitGetEntityXmlList :
    Extends scope (emitGetEntityXmlList : Emit (Job X) Unit) := by
  unfold emitGetEntityXmlList
  refine extends_modelName.bind fun model => (extends_methodName _ _).bind fun single => ?_
  exact (extends_beginMethod _ _ _).bind fun name => extends_emitListXml _ _ _ _ _

theorem extends_emitGetBasicXmlList : Extends scope (emitGetBasicXmlList : Emit (Job X) Unit) :=
  (extends_beginMethod _ _ _).bind fun _ => extends_emitListXml _ _ _ _ _

theorem extends_emitGetEntityMapXml : Extends scope (emitGetEntityMapXml : Emit (Job X) Unit) := by
  unfold emitGetEntityMapXml
  refine extends_modelName.bind fun model => (extends_methodName _ _).bind fun single => ?_
  exact (extends_beginMethod _ _ _).bind fun name => extends_emitListXml _ _ _ _ _

/-! ## All methods -/

theorem extends_methods :
    ∀ w ∈ (methods : MethodRegistry (Job X)).writers, Extends scope w.emit := by
  rw [methods_eq]
  simp only [List.forall_mem_cons]
  exact ⟨extends_emitGetInstance, extends_emitGetXml, extends_emitGetBasicXml,
    extends_emitGetEntityArray, extends_emitGetEntityXmlList, extends_emitGetBasicXmlList,
    extends_emitGetEntityMap, extends_emitGetEntityMapXml, fun w hw => nomatch hw⟩

theorem extends_emitHelper (helper : ClientHelper) :
    Extends scope (emitHelper helper : Emit (Job X) Unit) := by
  cases helper with
  | readString => exact extends_emitGetString
  | readArray element => exact extends_emitGetBasicArray element
  | readMap entry => exact extends_emitGetBasicMap entry
  | writeMap => exact (extends_beginMethod _ _ _).bind fun _ => extends_emitListXml _ _ _ _ _

/-- The dialect of client builders takes nothing back where the jobs of a caller do not. -/
theorem extends_dialect {own : X → Emit (Job X) Unit} (h : ∀ x scope, Extends scope (own x)) :
    (dialect own).Extends where
  readers w hw _ := extends_readers w hw
  elements w hw _ := extends_elements w hw
  methods w hw _ := extends_methods w hw
  run job scope := by
    cases job with
    | inl helper => exact extends_emitHelper helper
    | inr x => exact h x scope

end XmlBinding.Client
