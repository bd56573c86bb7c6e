import XmlBinding.Proofs.Emission.Growth
import XmlBinding.Proofs.Server.Class

/-!
# Server builders take nothing back

* `Server.extends_readers`, `extends_elements` : the writers of properties;
* `Server.extends_valueExpression` : the expressions that read single values;
* `Server.extends_methods`, `extends_emitHelper` : the methods of every builder and those that are
  helpers.
-/

namespace XmlBinding.Server

open Emit

variable {X : Type} {scope : Scope}

/-! ## Reading -/

theorem extends_readScalar (var : String) (p : Property) :
    Extends scope (readScalar var p : Emit (Job X) Unit) := by
  unfold readScalar
  cases ScalarKind.of? p.type with
  | some kind => exact extends_access var p _ _ none
  | none => exact extends_pure ()

theorem extends_readEntity (var : String) (p : Property) :
    Extends scope (readEntity var p : Emit (Job X) Unit) :=
  extends_builderCall p.type getInstance [] fun _ _ => extends_access var p _ _ _

theorem extends_readArray (var : String) (p : Property) :
    Extends scope (readArray var p : Emit (Job X) Unit) := by
  unfold readArray
  cases p.category with
  | array element =>
    exact extends_helperCall getArray _ _ _ fun name => extends_access var p _ _ _
  | basic | entity | collection | map => exact extends_pure ()

theorem extends_collectionCall (element : JavaType) :
    Extends scope (collectionCall element : Emit (Job X) String) := by
  unfold collectionCall
  refine (extends_isEntity element).bind fun _ => Extends.ite ?_ ?_
  · exact extends_builderCall element _ _ fun _ _ => extends_pure _
  · exact extends_helperCall _ _ _ _ fun name => extends_pure name

theorem extends_readCollection (var : String) (p : Property) :
    Extends scope (readCollection var p : Emit (Job X) Unit) := by
  unfold readCollection
  cases p.category with
  | collection kind element implementation =>
    refine (extends_javaRef implementation).bind fun implementation => ?_
    refine (extends_importType element).bind fun _ => ?_
    refine (extends_collectionCall element).bind fun call => ?_
    exact (extends_indent 4).bind fun indent => extends_access var p _ _ _
  | basic | entity | array | map => exact extends_pure ()

theorem extends_readMap (var : String) (p : Property) :
    Extends scope (readMap var p : Emit (Job X) Unit) := by
  unfold readMap
  cases p.category with
  | map key entry implementation =>
    refine (extends_isEntity key).bind fun isEntity => ?_
    dsimp only
    refine Extends.ite (extends_frame.bind fun frame => (extends_throw _).bind fun _ => ?_) ?_
    all_goals
      refine (extends_javaRef implementation).bind fun implementation => ?_
      refine (extends_importType key).bind fun _ => ?_
      refine (extends_importType entry).bind fun _ => ?_
      refine extends_helperCall getMap _ _ _ fun name => ?_
      exact (extends_indent 4).bind fun indent => extends_access var p _ _ _
  | basic | entity | array | collection => exact extends_pure ()

theorem extends_readers :
    ∀ w ∈ (readers : PropertyRegistry (Job X)).writers, ∀ var p, Extends scope (w.emit var p) := by
  rw [readers_eq]
  simp only [List.forall_mem_cons]
  exact ⟨extends_readEntity, extends_readArray, extends_readCollection, extends_readMap,
    extends_readScalar, fun w hw => nomatch hw⟩

theorem extends_valueExpression (style : AccessStyle) (var : String) (t : JavaType) :
    Extends scope (valueExpression style var t : Emit (Job X) String) := by
  unfold valueExpression
  refine (extends_isEntity t).bind fun _ => Extends.ite ?_ ?_
  · exact extends_builderCall t getInstance [] fun _ _ => extends_pure _
  · exact extends_expression extends_readers style var t

/-! ## Writing -/

theorem extends_writeNested (call : String) (p : Property) :
    Extends scope (writeNested call p : Emit (Job X) Unit) := by
  unfold writeNested
  refine (extends_line 2 _).bind fun _ => (extends_openBlock 2 _).bind fun _ => ?_
  refine (extends_line 3 _).bind fun _ => (extends_line 3 _).bind fun _ => ?_
  exact extends_closeBrace 2

theorem extends_writeSimple (var : String) (p : Property) :
    Extends scope (writeSimple var p : Emit (Job X) Unit) :=
  (extends_line 2 _).bind fun _ => extends_line 2 _

theorem extends_writeEntity (var : String) (p : Property) :
    Extends scope (writeEntity var p : Emit (Job X) Unit) :=
  extends_builderCall p.type getElement [] fun _ _ => extends_writeNested _ p

theorem extends_writeArray (var : String) (p : Property) :
    Extends scope (writeArray var p : Emit (Job X) Unit) := by
  unfold writeArray
  cases p.category with
  | array element =>
    refine (extends_isEntity element).bind fun _ => ?_
    dsimp only
    refine Extends.ite ?_ ?_
    · refine extends_builderCall element _ _ fun _ _ => ?_
      exact (extends_pure _).bind fun call => extends_writeNested _ p
    · refine extends_helperCall _ _ _ _ fun name => ?_
      exact (extends_pure name).bind fun call => extends_writeNested _ p
  | basic | entity | collection | map => exact extends_pure ()

theorem extends_writeCollection (var : String) (p : Property) :
    Extends scope (writeCollection var p : Emit (Job X) Unit) := by
  unfold writeCollection
  cases p.category with
  | collection kind element implementation =>
    refine (extends_isEntity element).bind fun _ => ?_
    dsimp only
    refine Extends.ite ?_ ?_
    · refine extends_builderCall element _ _ fun _ _ => ?_
      exact (extends_pure _).bind fun call => extends_writeNested _ p
    · refine extends_helperCall _ _ _ _ fun name => ?_
      exact (extends_pure name).bind fun call => extends_writeNested _ p
  | basic | entity | array | map => exact extends_pure ()

theorem extends_writeMap (var : String) (p : Property) :
    Extends scope (writeMap var p : Emit (Job X) Unit) := by
  unfold writeMap
  cases p.category with
  | map key entry implementation =>
    refine (extends_isEntity entry).bind fun _ => ?_
    dsimp only
    refine Extends.ite ?_ ?_
    · refine (extends_builderRef entry).bind fun builder => (extends_indent 4).bind fun indent => ?_
      refine (extends_methodName _ _).bind fun method => ?_
      exact (extends_pure _).bind fun call => extends_writeNested _ p
    · refine extends_helperCall _ _ _ _ fun name => ?_
      exact (extends_pure name).bind fun call => extends_writeNested _ p
  | basic | entity | array | collection => exact extends_pure ()

theorem extends_elements :
    ∀ w ∈ (elements : PropertyRegistry (Job X)).writers, ∀ var p, Extends scope (w.emit var p) := by
  rw [elements_eq]
  simp only [List.forall_mem_cons]
  exact ⟨extends_writeArray, extends_writeCollection, extends_writeEntity, extends_writeMap,
    extends_writeSimple, fun w hw => nomatch hw⟩

/-! ## Methods that read -/

theorem extends_beanName : Extends scope (beanName : Emit (Job X) String) :=
  extends_frame.bind fun _ => extends_javaRef _

theorem extends_emitGetInstance : Extends scope (emitGetInstance : Emit (Job X) Unit) := by
  unfold emitGetInstance
  refine extends_frame.bind fun frame => extends_beanName.bind fun bean => ?_
  refine (extends_beginMethod _ _ _).bind fun name => (extends_openBlock 1 _).bind fun _ => ?_
  refine (extends_line 2 _).bind fun _ => (extends_line 2 _).bind fun _ => ?_
  refine (extends_writeProperties extends_readers "o" _ _).bind fun _ => ?_
  refine (extends_writeProperties extends_readers "o" _ _).bind fun _ => ?_
  exact (extends_line 2 _).bind fun _ => extends_closeBrace 1

theorem extends_emitFill (bound parameter name : String) (statements : List String) :
    Extends scope (emitFill bound parameter name statements : Emit (Job X) Unit) := by
  unfold emitFill
  refine (extends_indent 3).bind fun indent => (extends_openBlock 1 _).bind fun _ => ?_
  refine (extends_line 2 _).bind fun _ => (extends_openBlock 2 _).bind fun _ => ?_
  refine (extends_lines 3 statements).bind fun _ => (extends_closeBrace 2).bind fun _ => ?_
  exact (extends_line 2 _).bind fun _ => extends_closeBrace 1

theorem extends_emitGetEntityCollection :
    Extends scope (emitGetEntityCollection : Emit (Job X) Unit) := by
  unfold emitGetEntityCollection
  refine extends_beanName.bind fun bean => (extends_methodName _ _).bind fun single => ?_
  refine (extends_beginMethod _ _ _).bind fun name => ?_
  exact (extends_importClass _).bind fun _ => extends_emitFill _ _ _ _

theorem extends_emitGetArray (element : JavaType) :
    Extends scope (emitGetArray element : Emit (Job X) Unit) := by
  unfold emitGetArray
  refine (extends_javaRef element).bind fun item => ?_
  refine (extends_valueExpression _ _ element).bind fun value => ?_
  refine (extends_beginMethod _ _ _).bind fun name => (extends_importClass _).bind fun _ => ?_
  refine (extends_openBlock 1 _).bind fun _ => (extends_line 2 _).bind fun _ => ?_
  refine (extends_line 2 _).bind fun _ => (extends_line 2 _).bind fun _ => ?_
  refine (extends_line 2 _).bind fun _ => (extends_openBlock 2 _).bind fun _ => ?_
  refine (extends_line 3 _).bind fun _ => (extends_line 3 _).bind fun _ => ?_
  refine (extends_closeBrace 2).bind fun _ => ?_
  exact (extends_line 2 _).bind fun _ => extends_closeBrace 1

theorem extends_emitGetCollection (element : JavaType) :
    Extends scope (emitGetCollection element : Emit (Job X) Unit) := by
  unfold emitGetCollection
  refine (extends_importType element).bind fun _ => ?_
  refine (extends_valueExpression _ _ element).bind fun value => ?_
  refine (extends_beginMethod _ _ _).bind fun name => ?_
  exact (extends_importClass _).bind fun _ => extends_emitFill _ _ _ _

theorem extends_emitGetMap (key entry : JavaType) :
    Extends scope (emitGetMap key entry : Emit (Job X) Unit) := by
  unfold emitGetMap
  refine (extends_importType key).bind fun _ => (extends_importType entry).bind fun _ => ?_
  refine (extends_valueExpression _ _ key).bind fun keyValue => ?_
  refine (extends_valueExpression _ _ entry).bind fun entryValue => ?_
  refine (extends_isEntity entry).bind fun _ => ?_
  dsimp only
  refine Extends.ite ((extends_indent 5).bind fun indent => (extends_pure _).bind fun value => ?_)
    ((extends_pure entryValue).bind fun value => ?_)
  all_goals
    refine (extends_beginMethod _ _ _).bind fun name => ?_
    exact (extends_importClass _).bind fun _ => extends_emitFill _ _ _ _

/-! ## Methods that write -/

theorem extends_emitGetElement : Extends scope (emitGetElement : Emit (Job X) Unit) := by
  unfold emitGetElement
  refine extends_frame.bind fun frame => extends_beanName.bind fun bean => ?_
  refine (extends_beginMethod _ _ _).bind fun name => (extends_importClass _).bind fun _ => ?_
  refine (extends_openBlock 1 _).bind fun _ => (extends_line 2 _).bind fun _ => ?_
  refine (extends_line 2 _).bind fun _ => (extends_line 2 _).bind fun _ => ?_
  refine (extends_line 2 _).bind fun _ => ?_
  refine (extends_forM fun p _ => (extends_line 2 _).bind fun _ => extends_line 2 _).bind
    fun _ => ?_
  refine (extends_writeProperties extends_elements "o" _ _).bind fun _ => ?_
  exact (extends_line 2 _).bind fun _ => extends_closeBrace 1

theorem extends_emitElementLoop (key : String) (nameArgs : List String)
    (doc type parameter header : String) (statements : List String) :
    Extends scope
      (emitElementLoop key nameArgs doc type parameter header statements : Emit (Job X) Unit) := by
  unfold emitElementLoop
  refine (extends_beginMethod _ _ _).bind fun name => (extends_importClass _).bind fun _ => ?_
  refine extends_frame.bind fun frame => (extends_openBlock 1 _).bind fun _ => ?_
  refine (extends_line 2 _).bind fun _ => (extends_line 2 _).bind fun _ => ?_
  refine (extends_openBlock 2 _).bind fun _ => (extends_lines 3 statements).bind fun _ => ?_
  refine (extends_closeBrace 2).bind fun _ => ?_
  exact (extends_line 2 _).bind fun _ => extends_closeBrace 1

theorem extends_emitGetEntityArrayElement :
    Extends scope (emitGetEntityArrayElement : Emit (Job X) Unit) := by
  unfold emitGetEntityArrayElement
  refine extends_beanName.bind fun bean => (extends_methodName _ _).bind fun element => ?_
  exact extends_emitElementLoop _ _ _ _ _ _ _

theorem extends_emitGetEntityCollectionElement :
    Extends scope (emitGetEntityCollectionElement : Emit (Job X) Unit) := by
  unfold emitGetEntityCollectionElement
  refine extends_beanName.bind fun bean => (extends_methodName _ _).bind fun element => ?_
  exact (extends_importClass _).bind fun _ => extends_emitElementLoop _ _ _ _ _ _ _

theorem extends_emitGetEntityMapElement :
    Extends scope (emitGetEntityMapElement : Emit (Job X) Unit) := by
  unfold emitGetEntityMapElement
  refine extends_beanName.bind fun bean => (extends_methodName _ _).bind fun element => ?_
  exact (extends_importClass _).bind fun _ => extends_emitElementLoop _ _ _ _ _ _ _

/-! ## All methods -/

theorem extends_methods :
    ∀ w ∈ (methods : MethodRegistry (Job X)).writers, Extends scope w.emit := by
  rw [methods_eq]
  simp only [List.forall_mem_cons]
  exact ⟨extends_emitGetInstance, extends_emitGetElement, extends_emitGetEntityCollection,
    extends_emitGetEntityArrayElement, extends_emitGetEntityCollectionElement,
    extends_emitGetEntityMapElement, fun w hw => nomatch hw⟩

theorem extends_emitHelper (helper : ServerHelper) :
    Extends scope (emitHelper helper : Emit (Job X) Unit) := by
  cases helper with
  | readArray element => exact extends_emitGetArray element
  | readCollection element => exact extends_emitGetCollection element
  | readMap key entry => exact extends_emitGetMap key entry
  | writeArray element =>
    refine (extends_javaRef element).bind fun item => ?_
    exact (extends_indent 5).bind fun indent => extends_emitElementLoop _ _ _ _ _ _ _
  | writeCollection =>
    refine (extends_importClass _).bind fun _ => ?_
    exact (extends_indent 5).bind fun indent => extends_emitElementLoop _ _ _ _ _ _ _
  | writeMap =>
    refine (extends_importClass _).bind fun _ => ?_
    exact (extends_indent 5).bind fun indent => extends_emitElementLoop _ _ _ _ _ _ _

/-- The dialect of server builders takes nothing back where the jobs of a caller do not. -/
theorem extends_dialect {own : X → Emit (Job X) Unit} (h : ∀ x scope, Extends scope (own x)) :
    (dialect own).Extends where
  readers w hw _ := extends_readers w hw
  elements w hw _ := extends_elements w hw
  methods w hw _ := extends_methods w hw
  run job scope := by
    cases job with
    | inl helper => exact extends_emitHelper helper
    | inr x => exact h x scope

end XmlBinding.Server
